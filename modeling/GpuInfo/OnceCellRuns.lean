import GpuInfo.OnceCells
import Mathlib.Data.Finset.Max

/-!
What holds of every run over cells that are filled once, of what holds of their initializers one
at a time: the conditions go through an initializer in the order of its text, with what it holds
and what it has been told at each point. A cell keeps the value it is filled with, which comes
of what one run of its initializer has been told, and some call can always go on.
-/

namespace OnceCells
open Interleaving
variable {S : Signature}

/-! What is asked of the initializers -/

namespace Program
variable {α : Type}

/-- Nothing is waited for that ranks as high as something owned. -/
def Descends : Multiset (S.Cell ⊕ S.Lock) → Program S α → Prop
  | _, .done _ => True
  | owned, .ask _ next => ∀ reply, (next reply).Descends owned
  | owned, .get cell next =>
      (∀ r ∈ owned, S.rank (.inl cell) < S.rank r) ∧ ∀ value, (next value).Descends owned
  | owned, .lock l next =>
      (∀ r ∈ owned, S.rank (.inr l) < S.rank r) ∧ next.Descends (.inr l ::ₘ owned)

/-- Each question is allowed where it is asked, under the locks held there and after what has
been told, and what is told leads to what the program ends with. -/
def Meets (allowed : List S.Lock → List (Event S) → S.Question → Prop)
    (ends : List (Event S) → α → Prop) : List S.Lock → List (Event S) → Program S α → Prop
  | _, past, .done value => ends past value
  | held, past, .ask question next => allowed held past question ∧
      ∀ reply, (next reply).Meets allowed ends held (.asked question reply :: past)
  | held, past, .get cell next =>
      ∀ value, (next value).Meets allowed ends held (.got cell value :: past)
  | held, past, .lock l next => next.Meets allowed ends (l :: held) past

end Program

/-- What the initializer of each cell keeps to. -/
structure Contract (S : Signature) where
  allowed : S.Cell → List S.Lock → List (Event S) → S.Question → Prop
  ends : (cell : S.Cell) → List (Event S) → S.Value cell → Prop

structure Contract.Kept (contract : Contract S)
    (init : (cell : S.Cell) → Program S (S.Value cell)) : Prop where
  descends : ∀ cell, (init cell).Descends {.inl cell}
  meets : ∀ cell, (init cell).Meets (contract.allowed cell) (contract.ends cell) [] []

variable (contract : Contract S)

/-- The cell that a call or its innermost initializer has asked for. -/
def wants (caller : S.Cell) : List (Frame S) → Option S.Cell
  | [] => some caller
  | ⟨_, _, _, .get cell _⟩ :: _ => some cell
  | ⟨_, _, _, .done _⟩ :: _ | ⟨_, _, _, .ask _ _⟩ :: _ | ⟨_, _, _, .lock _ _⟩ :: _ => none

/-- Each initializer is run for what has asked for its cell. -/
def Linked (caller : S.Cell) : List (Frame S) → Prop
  | [] => True
  | frame :: frames => wants caller frames = some frame.cell ∧ Linked caller frames

structure Frame.Sound (told : List (Event S)) (frame : Frame S) : Prop where
  descends : frame.rest.Descends frame.owned
  meets : frame.rest.Meets (contract.allowed frame.cell) (contract.ends frame.cell) frame.held
    frame.past
  told : frame.past.Sublist told

structure Thread.Sound (told : List (Event S)) (thread : Thread S) : Prop where
  linked : Linked thread.cell thread.frames
  frames : ∀ frame ∈ thread.frames, frame.Sound contract told

/-- The initializers of a cell that have begun and have not unwound. -/
def CellState.standing {α : Type} : CellState α → Nat
  | .vacant => 0
  | .running | .filled _ => 1

structure Memory.Sound [DecidableEq S.Cell] (m : Memory S) : Prop where
  got : ∀ cell value, .got cell value ∈ m.told → m.cells cell = .filled value
  returned : ∀ cell value, ⟨cell, value⟩ ∈ m.returned → m.cells cell = .filled value
  begun : ∀ cell, m.begun.count cell = m.unwound.count cell + (m.cells cell).standing

variable {contract}

theorem Frame.Sound.mono {told told' : List (Event S)} {frame : Frame S}
    (h : frame.Sound contract told) (more : told.Sublist told') : frame.Sound contract told' :=
  ⟨h.descends, h.meets, h.told.trans more⟩

theorem Thread.Sound.mono {told told' : List (Event S)} {thread : Thread S}
    (h : thread.Sound contract told) (more : told.Sublist told') : thread.Sound contract told' :=
  ⟨h.linked, fun frame hframe => (h.frames frame hframe).mono more⟩

namespace Memory.Sound
variable [DecidableEq S.Cell] {m : Memory S} (h : m.Sound)
include h

/-- A cell that is not filled changes, and nothing that has been told is forgotten. -/
theorem change {m' : Memory S} (cell : S.Cell) (state : CellState (S.Value cell))
    (unfilled : ∀ value, m.cells cell ≠ .filled value)
    (cells : m'.cells = Function.update m.cells cell state) (told : m'.told = m.told)
    (returned : m'.returned = m.returned)
    (begun : m'.begun.count cell = m'.unwound.count cell + state.standing)
    (others : ∀ other ≠ cell, m'.begun.count other = m.begun.count other ∧
      m'.unwound.count other = m.unwound.count other) : m'.Sound := by
  have stays : ∀ other value, m.cells other = .filled value → m'.cells other = .filled value := by
    intro other value hfilled
    have hne : other ≠ cell := by
      rintro rfl
      exact unfilled value hfilled
    rw [cells, Function.update_of_ne hne, hfilled]
  refine ⟨fun other value htold => ?_, fun other value hreturned => ?_, fun other => ?_⟩
  · rw [told] at htold
    exact stays other value (h.got other value htold)
  · rw [returned] at hreturned
    exact stays other value (h.returned other value hreturned)
  · by_cases hother : other = cell
    · subst hother
      rw [cells, Function.update_self, begun]
    · rw [cells, Function.update_of_ne hother, (others other hother).1, (others other hother).2]
      exact h.begun other

theorem tell {event : Event S}
    (known : ∀ cell value, event = .got cell value → m.cells cell = .filled value) :
    (m.tell event).Sound := by
  refine ⟨fun cell value htold => ?_, h.returned, h.begun⟩
  cases List.mem_cons.mp htold with
  | inl heq => exact known cell value heq.symm
  | inr htold => exact h.got cell value htold

theorem answer {cell : S.Cell} {value : S.Value cell} (filled : m.cells cell = .filled value) :
    (m.answer cell value).Sound := by
  refine ⟨h.got, fun other value' hreturned => ?_, h.begun⟩
  cases List.mem_cons.mp hreturned with
  | inl heq =>
      cases heq
      exact filled
  | inr hreturned => exact h.returned other value' hreturned

theorem begin {cell : S.Cell} (vacant : m.cells cell = .vacant) :
    (m.begin cell).Sound := by
  have hbegun := h.begun cell
  rw [vacant] at hbegun
  refine h.change cell .running ?_ rfl rfl rfl ?_ ?_
  · intro value hfilled
    rw [vacant] at hfilled
    cases hfilled
  · show (cell :: m.begun).count cell = m.unwound.count cell + 1
    rw [List.count_cons_self, hbegun]
    rfl
  · exact fun other hother => ⟨List.count_cons_of_ne hother.symm, rfl⟩

theorem vacate {cell : S.Cell} (running : m.cells cell = .running) :
    (m.vacate cell).Sound := by
  have hbegun := h.begun cell
  rw [running] at hbegun
  refine h.change cell .vacant ?_ rfl rfl rfl ?_ ?_
  · intro value hfilled
    rw [running] at hfilled
    cases hfilled
  · show m.begun.count cell = (cell :: m.unwound).count cell + 0
    rw [List.count_cons_self, hbegun]
    rfl
  · exact fun other hother => ⟨rfl, List.count_cons_of_ne hother.symm⟩

theorem fill {cell : S.Cell} {value : S.Value cell} (running : m.cells cell = .running) :
    (m.setCell cell (.filled value)).Sound := by
  have hbegun := h.begun cell
  rw [running] at hbegun
  refine h.change cell (.filled value) ?_ rfl rfl rfl hbegun fun other _ => ⟨rfl, rfl⟩
  intro value hfilled
  rw [running] at hfilled
  cases hfilled

theorem setTaken [DecidableEq S.Lock] (l : S.Lock) (taken : Bool) :
    (m.setTaken l taken).Sound :=
  ⟨h.got, h.returned, h.begun⟩

end Memory.Sound

structure ThreadConfig.Sound [DecidableEq S.Cell] [DecidableEq S.Lock] (contract : Contract S)
    (c : ThreadConfig S) : Prop where
  memory : c.shared.Sound
  threads : ∀ thread ∈ c.running, thread.unwinding = false →
    thread.Sound contract c.shared.told
  /-- What is busy has one owner. -/
  owned : ∀ r, c.held (fun thread => thread.owned.count r) = (c.shared.busy r).toNat

theorem ThreadConfig.Sound.busy [DecidableEq S.Cell] [DecidableEq S.Lock]
    {c : ThreadConfig S} (h : c.Sound contract) {thread : Thread S}
    (hthread : thread ∈ c.running) (r : S.Cell ⊕ S.Lock) (hr : r ∈ thread.owned) :
    c.shared.busy r = true := by
  have one := Multiset.one_le_count_iff_mem.mpr hr
  have le := Config.le_held (f := fun thread => thread.owned.count r) hthread
  rw [h.owned r] at le
  exact Bool.toNat_eq_one.mp (by have := Bool.toNat_le (c.shared.busy r); omega)

theorem Linked.begins {caller cell : S.Cell} {frames : List (Frame S)} {told : List (Event S)}
    {init : (cell : S.Cell) → Program S (S.Value cell)} (kept : contract.Kept init)
    (linked : Linked caller frames) (wanted : wants caller frames = some cell)
    (sound : ∀ frame ∈ frames, frame.Sound contract told) :
    Thread.Sound contract told ⟨caller, ⟨cell, [], [], init cell⟩ :: frames, false⟩ := by
  refine ⟨⟨wanted, linked⟩, List.forall_mem_cons.mpr ⟨⟨?_, ?_, ?_⟩, sound⟩⟩
  · simpa [Frame.owned] using kept.descends cell
  · exact kept.meets cell
  · exact List.nil_sublist _

section Runs
variable [DecidableEq S.Cell] [DecidableEq S.Lock]
  {init : (cell : S.Cell) → Program S (S.Value cell)}

/-- Nothing that has been told is forgotten, and what is told comes after it. -/
theorem threadRule_told (m : Memory S) (taken : Multiset (Thread S)) (m' : Memory S)
    (left : Multiset (Thread S)) (rule : ThreadRule init m taken m' left) :
    m.told.Sublist m'.told := by
  cases rule with
  | asks | gets => exact List.sublist_cons_self _ _
  | calls | begins | returns | panics | nests | locks | unlocks | fills | vacates | dies =>
      exact List.Sublist.refl _

variable (kept : contract.Kept init)
include kept

theorem threadRule_sound (m : Memory S) (taken : Multiset (Thread S)) (m' : Memory S)
    (left : Multiset (Thread S)) (rule : ThreadRule init m taken m' left)
    (busy : ∀ thread ∈ taken, ∀ r ∈ thread.owned, m.busy r = true) (hm : m.Sound)
    (h : ∀ thread ∈ taken, thread.unwinding = false → thread.Sound contract m.told) :
    m'.Sound ∧
      (∀ thread ∈ left, thread.unwinding = false → thread.Sound contract m'.told) := by
  have running : ∀ {caller cell past rest frames unwinding},
      ⟨caller, ⟨cell, [], past, rest⟩ :: frames, unwinding⟩ ∈ taken →
      m.cells cell = .running := fun hmem =>
    Memory.running_of_busy (busy _ hmem _ (Thread.owns_top _ _ _ _ _ _))
  cases rule with
  | calls cell =>
      exact ⟨hm, leaves_one fun _ => ⟨trivial, fun _ hmem => absurd hmem List.not_mem_nil⟩⟩
  | @begins _ cell vacant =>
      obtain ⟨linked, sound⟩ := h _ (Multiset.mem_singleton_self _) rfl
      exact ⟨hm.begin vacant, leaves_one fun _ => Linked.begins kept linked rfl sound⟩
  | returns filled => exact ⟨hm.answer filled, leaves_none⟩
  | @asks _ caller cell held past question next frames reply =>
      obtain ⟨linked, sound⟩ := h _ (Multiset.mem_singleton_self _) rfl
      have more : m.told.Sublist (.asked question reply :: m.told) := List.sublist_cons_self _ _
      refine ⟨hm.tell fun _ _ heq => (by cases heq), leaves_one fun _ => ⟨linked, ?_⟩⟩
      obtain ⟨top, below⟩ := List.forall_mem_cons.mp sound
      refine List.forall_mem_cons.mpr ⟨⟨top.descends reply, top.meets.2 reply, ?_⟩, ?_⟩
      · exact top.told.cons_cons _
      · exact fun frame hframe => (below frame hframe).mono more
  | panics => exact ⟨hm, leaves_one fun hfalse => (by cases hfalse)⟩
  | @nests _ caller cell other held past next frames vacant =>
      obtain ⟨linked, sound⟩ := h _ (Multiset.mem_singleton_self _) rfl
      exact ⟨hm.begin vacant, leaves_one fun _ => Linked.begins kept linked rfl sound⟩
  | @gets _ caller cell other held past next frames value filled =>
      obtain ⟨linked, sound⟩ := h _ (Multiset.mem_singleton_self _) rfl
      have more : m.told.Sublist (.got other value :: m.told) := List.sublist_cons_self _ _
      refine ⟨hm.tell fun cell' value' heq => ?_, leaves_one fun _ => ⟨linked, ?_⟩⟩
      · cases heq
        exact filled
      · obtain ⟨top, below⟩ := List.forall_mem_cons.mp sound
        refine List.forall_mem_cons.mpr ⟨⟨top.descends.2 value, top.meets value, ?_⟩, ?_⟩
        · exact top.told.cons_cons _
        · exact fun frame hframe => (below frame hframe).mono more
  | @locks _ caller cell held past l next frames free =>
      obtain ⟨linked, sound⟩ := h _ (Multiset.mem_singleton_self _) rfl
      obtain ⟨top, below⟩ := List.forall_mem_cons.mp sound
      refine ⟨hm.setTaken l true, leaves_one fun _ => ⟨linked, ?_⟩⟩
      refine List.forall_mem_cons.mpr ⟨⟨?_, top.meets, top.told⟩, below⟩
      rw [Frame.owned_lock cell l held past past next (.lock l next)]
      exact top.descends.2
  | @unlocks _ caller cell l held past rest frames unwinding ends =>
      refine ⟨hm.setTaken l false, leaves_one fun hunwinding => ?_⟩
      obtain ⟨linked, sound⟩ := h _ (Multiset.mem_singleton_self _) hunwinding
      obtain ⟨top, below⟩ := List.forall_mem_cons.mp sound
      obtain ⟨value, hvalue⟩ := ends.resolve_left fun htrue => by
        rw [htrue] at hunwinding
        cases hunwinding
      have hrest : rest = .done value := hvalue
      have meets := top.meets
      refine ⟨linked, List.forall_mem_cons.mpr ⟨⟨?_, ?_, top.told⟩, below⟩⟩
      · show rest.Descends _
        rw [hrest]
        trivial
      · show rest.Meets _ _ held past
        rw [hrest] at meets ⊢
        exact meets
  | @fills _ caller cell past value frames =>
      obtain ⟨linked, sound⟩ := h _ (Multiset.mem_singleton_self _) rfl
      obtain ⟨top, below⟩ := List.forall_mem_cons.mp sound
      exact ⟨hm.fill (running (Multiset.mem_singleton_self _)),
        leaves_one fun _ => ⟨linked.2, below⟩⟩
  | vacates =>
      exact ⟨hm.vacate (running (Multiset.mem_singleton_self _)),
        leaves_one fun hfalse => (by cases hfalse)⟩
  | dies => exact ⟨hm, leaves_none⟩

theorem ThreadConfig.Sound.step {c c' : ThreadConfig S} (h : c.Sound contract)
    (step : Step (ThreadRule init) c c') : c'.Sound contract := by
  have owned : ∀ r, c'.held (fun thread => thread.owned.count r) =
      (c'.shared.busy r).toNat := by
    intro r
    have balanced := step.balances (g := fun _ => 0) (k := fun m => (m.busy r).toNat)
      (f := fun thread => thread.owned.count r)
      (J := fun m thread => ∀ r ∈ thread.owned, m.busy r = true)
      (fun m taken m' left rule hbusy => by
        rw [zero_add, zero_add]
        exact threadRule_owned r m taken m' left rule hbusy)
      (fun thread hthread => h.busy hthread) (by rw [zero_add]; exact h.owned r)
    rwa [zero_add] at balanced
  have hbusy : ∀ thread ∈ c.running, ∀ r ∈ thread.owned, c.shared.busy r = true :=
    fun thread hthread => h.busy hthread
  obtain ⟨rest, rule⟩ := step
  have more := threadRule_told _ _ _ _ rule
  obtain ⟨memory, left⟩ := threadRule_sound kept _ _ _ _ rule
    (fun thread hthread => hbusy thread (Multiset.mem_add.mpr (.inl hthread))) h.memory
    fun thread hthread => h.threads thread (Multiset.mem_add.mpr (.inl hthread))
  refine ⟨memory, fun thread hthread hunwinding => ?_, owned⟩
  cases Multiset.mem_add.mp hthread with
  | inl hthread => exact left thread hthread hunwinding
  | inr hthread =>
      exact (h.threads thread (Multiset.mem_add.mpr (.inr hthread)) hunwinding).mono more

theorem reachable_sound {c : ThreadConfig S}
    (hc : Reachable ThreadStart (Step (ThreadRule init)) c) : c.Sound contract := by
  refine hc.invariant (I := ThreadConfig.Sound contract) ?_ fun c c' h step => h.step kept step
  rintro c rfl
  refine ⟨⟨?_, ?_, fun _ => rfl⟩, ?_, fun r => (by cases r <;> rfl)⟩
  · exact fun _ _ htold => absurd htold List.not_mem_nil
  · exact fun _ _ hreturned => absurd hreturned List.not_mem_nil
  · exact fun _ hthread => absurd hthread (Multiset.notMem_zero _)

end Runs

/-! What holds of every run -/

section Holds
variable [DecidableEq S.Cell] [DecidableEq S.Lock]
  {init : (cell : S.Cell) → Program S (S.Value cell)}

theorem threadRule_filled {cell : S.Cell} {value : S.Value cell} (m : Memory S)
    (taken : Multiset (Thread S)) (m' : Memory S) (left : Multiset (Thread S))
    (rule : ThreadRule init m taken m' left)
    (busy : ∀ thread ∈ taken, ∀ r ∈ thread.owned, m.busy r = true)
    (filled : m.cells cell = .filled value) : m'.cells cell = .filled value := by
  have others : ∀ {other : S.Cell} {state : CellState (S.Value other)},
      (∀ value, m.cells other ≠ .filled value) →
      Function.update m.cells other state cell = .filled value := by
    intro other state unfilled
    have hne : cell ≠ other := by
      rintro rfl
      exact unfilled value filled
    rw [Function.update_of_ne hne, filled]
  have running : ∀ {caller cell past rest frames unwinding},
      ⟨caller, ⟨cell, [], past, rest⟩ :: frames, unwinding⟩ ∈ taken →
      ∀ value, m.cells cell ≠ .filled value := by
    intro caller cell past rest frames unwinding hmem value hfilled
    rw [Memory.running_of_busy (busy _ hmem _ (Thread.owns_top _ _ _ _ _ _))] at hfilled
    cases hfilled
  cases rule with
  | calls | returns | asks | panics | gets | locks | unlocks | dies => exact filled
  | begins vacant | nests vacant =>
      exact others fun _ hfilled => (by rw [vacant] at hfilled; cases hfilled)
  | fills | vacates => exact others (running (Multiset.mem_singleton_self _))

/-- A filled cell keeps its value. -/
theorem ThreadConfig.Sound.filled {c c' : ThreadConfig S} (h : c.Sound contract)
    (step : Step (ThreadRule init) c c') {cell : S.Cell} {value : S.Value cell}
    (filled : c.shared.cells cell = .filled value) : c'.shared.cells cell = .filled value := by
  have hbusy : ∀ thread ∈ c.running, ∀ r ∈ thread.owned, c.shared.busy r = true :=
    fun thread hthread => h.busy hthread
  obtain ⟨rest, rule⟩ := step
  exact threadRule_filled _ _ _ _ rule
    (fun thread hthread => hbusy thread (Multiset.mem_add.mpr (.inl hthread))) filled

/-- And in every later state. -/
theorem ThreadConfig.Sound.later (kept : contract.Kept init) {c c' : ThreadConfig S}
    (h : c.Sound contract) (steps : Relation.ReflTransGen (Step (ThreadRule init)) c c') :
    c'.Sound contract ∧ ∀ cell value, c.shared.cells cell = .filled value →
      c'.shared.cells cell = .filled value := by
  induction steps with
  | refl => exact ⟨h, fun _ _ => id⟩
  | tail _ step ih =>
      exact ⟨ih.1.step kept step, fun cell value hfilled =>
        ih.1.filled step (ih.2 cell value hfilled)⟩

/-! Of which run of its initializer a value comes -/

/-- An initializer of the cell has come to its end: the value, and what it has been told. -/
def ThreadConfig.Concludes (c : ThreadConfig S) (cell : S.Cell) (past : List (Event S))
    (value : S.Value cell) : Prop :=
  ∃ caller frames, ⟨caller, ⟨cell, [], past, .done value⟩ :: frames, false⟩ ∈ c.running

/-- Of all the initializers of the cell, in the states visited before and in this one, one alone
has come to its end. -/
structure Concluded (c : ThreadConfig S) (states : List (ThreadConfig S)) (cell : S.Cell)
    (past : List (Event S)) (value : S.Value cell) : Prop where
  visited : ∃ c₀ ∈ states, c₀.Concludes cell past value
  single : ∀ c₀ ∈ c :: states, ∀ past' value', c₀.Concludes cell past' value' →
    past' = past ∧ value' = value

theorem threadRule_concludes {caller cell : S.Cell} {past : List (Event S)}
    {value : S.Value cell} {frames : List (Frame S)} (m : Memory S)
    (taken : Multiset (Thread S)) (m' : Memory S) (left : Multiset (Thread S))
    (rule : ThreadRule init m taken m' left)
    (hmem : ⟨caller, ⟨cell, [], past, .done value⟩ :: frames, false⟩ ∈ taken) :
    m'.cells cell = .filled value := by
  cases rule with
  | calls => exact absurd hmem (Multiset.notMem_zero _)
  | fills =>
      cases Multiset.mem_singleton.mp hmem
      exact Function.update_self _ _ _
  | begins | returns | asks | panics | nests | gets | locks | unlocks | vacates | dies =>
      cases Multiset.mem_singleton.mp hmem

/-- An initializer at its end stays there until it has filled its cell. -/
theorem ThreadConfig.Concludes.step {c c' : ThreadConfig S} {cell : S.Cell}
    {past : List (Event S)} {value : S.Value cell} (h : c.Concludes cell past value)
    (step : Step (ThreadRule init) c c') :
    c'.Concludes cell past value ∨ c'.shared.cells cell = .filled value := by
  obtain ⟨caller, frames, hmem⟩ := h
  obtain ⟨rest, rule⟩ := step
  cases Multiset.mem_add.mp hmem with
  | inl hmem => exact .inr (threadRule_concludes _ _ _ _ rule hmem)
  | inr hmem => exact .inl ⟨caller, frames, Multiset.mem_add.mpr (.inr hmem)⟩

theorem threadRule_fills {cell : S.Cell} {value : S.Value cell} (m : Memory S)
    (taken : Multiset (Thread S)) (m' : Memory S) (left : Multiset (Thread S))
    (rule : ThreadRule init m taken m' left) (filled : m'.cells cell = .filled value) :
    m.cells cell = .filled value ∨ ∃ caller past frames,
      ⟨caller, ⟨cell, [], past, .done value⟩ :: frames, false⟩ ∈ taken := by
  have others : ∀ {other : S.Cell} {state : CellState (S.Value other)},
      (∀ value, state ≠ .filled value) →
      Function.update m.cells other state cell = .filled value → m.cells cell = .filled value := by
    intro other state unfilled hfilled
    have hne : cell ≠ other := by
      rintro rfl
      rw [Function.update_self] at hfilled
      exact unfilled value hfilled
    rwa [Function.update_of_ne hne] at hfilled
  cases rule with
  | calls | returns | asks | panics | gets | locks | unlocks | dies => exact .inl filled
  | begins | nests | vacates => exact .inl (others (fun _ heq => (by cases heq)) filled)
  | @fills _ caller other past value' frames =>
      by_cases hother : cell = other
      · subst hother
        change Function.update m.cells cell _ cell = _ at filled
        rw [Function.update_self] at filled
        cases filled
        exact .inr ⟨caller, past, frames, Multiset.mem_singleton_self _⟩
      · change Function.update m.cells other _ cell = _ at filled
        rw [Function.update_of_ne hother] at filled
        exact .inl filled

/-- What fills a cell is an initializer at its end. -/
theorem concludes_of_step {c c' : ThreadConfig S} (step : Step (ThreadRule init) c c')
    {cell : S.Cell} {value : S.Value cell} (filled : c'.shared.cells cell = .filled value) :
    c.shared.cells cell = .filled value ∨ ∃ past, c.Concludes cell past value := by
  obtain ⟨rest, rule⟩ := step
  refine (threadRule_fills _ _ _ _ rule filled).imp_right ?_
  rintro ⟨caller, past, frames, hmem⟩
  exact ⟨past, caller, frames, Multiset.mem_add.mpr (.inl hmem)⟩

theorem told_of_step {c c' : ThreadConfig S} (step : Step (ThreadRule init) c c') :
    c.shared.told.Sublist c'.shared.told := by
  obtain ⟨rest, rule⟩ := step
  exact threadRule_told _ _ _ _ rule

/-- No two calls own one resource. -/
theorem ThreadConfig.Sound.alone {c : ThreadConfig S} (h : c.Sound contract)
    (r : S.Cell ⊕ S.Lock) : c.held (fun thread => thread.owned.count r) ≤ 1 := by
  rw [h.owned r]
  exact Bool.toNat_le _

theorem ThreadConfig.Sound.running {c : ThreadConfig S} (h : c.Sound contract) {cell : S.Cell}
    {past : List (Event S)} {value : S.Value cell} (concludes : c.Concludes cell past value) :
    c.shared.cells cell = .running := by
  obtain ⟨caller, frames, hmem⟩ := concludes
  exact Memory.running_of_busy (h.busy hmem _ (Thread.owns_top _ _ _ _ _ _))

theorem ThreadConfig.Sound.meets {c : ThreadConfig S} (h : c.Sound contract) {cell : S.Cell}
    {past : List (Event S)} {value : S.Value cell} (concludes : c.Concludes cell past value) :
    past.Sublist c.shared.told ∧ contract.ends cell past value := by
  obtain ⟨caller, frames, hmem⟩ := concludes
  have top := (h.threads _ hmem rfl).frames _ List.mem_cons_self
  exact ⟨top.told, top.meets⟩

theorem ThreadConfig.Sound.single {c : ThreadConfig S} (h : c.Sound contract) {cell : S.Cell}
    {past past' : List (Event S)} {value value' : S.Value cell}
    (concludes : c.Concludes cell past value) (concludes' : c.Concludes cell past' value') :
    past' = past ∧ value' = value := by
  obtain ⟨caller, frames, hmem⟩ := concludes
  obtain ⟨caller', frames', hmem'⟩ := concludes'
  have same := Config.eq_of_held_le_one (h.alone (.inl cell)) hmem' hmem
    (Multiset.count_pos.mpr (Thread.owns_top _ _ _ _ _ _))
    (Multiset.count_pos.mpr (Thread.owns_top _ _ _ _ _ _))
  cases same
  exact ⟨rfl, rfl⟩

theorem concludes_stays (kept : contract.Kept init) {c : ThreadConfig S}
    {states : List (ThreadConfig S)} (run : Run ThreadStart (Step (ThreadRule init)) (c :: states))
    {cell : S.Cell} {past : List (Event S)} {value : S.Value cell} :
    ∀ c₀ ∈ c :: states, c₀.Concludes cell past value →
      c.Concludes cell past value ∨ c.shared.cells cell = .filled value := by
  refine run.history (P := fun c states => ∀ c₀ ∈ c :: states, c₀.Concludes cell past value →
    c.Concludes cell past value ∨ c.shared.cells cell = .filled value) ?_ ?_
  · intro c _ c₀ hc₀ concludes
    rw [List.mem_singleton.mp hc₀] at concludes
    exact .inl concludes
  · intro c c' states run ih step c₀ hc₀ concludes
    cases List.mem_cons.mp hc₀ with
    | inl heq => exact .inl (heq ▸ concludes)
    | inr hc₀ =>
        cases ih c₀ hc₀ concludes with
        | inl concludes => exact concludes.step step
        | inr filled => exact .inr ((reachable_sound kept run.reachable).filled step filled)

/-- A cell is filled of what one run of its initializer has been told, in order, and no other
run of it ever comes to an end. -/
theorem concluded (kept : contract.Kept init) {c : ThreadConfig S}
    {states : List (ThreadConfig S)} (run : Run ThreadStart (Step (ThreadRule init)) (c :: states))
    {cell : S.Cell} {value : S.Value cell} (filled : c.shared.cells cell = .filled value) :
    ∃ past, Concluded c states cell past value ∧ past.Sublist c.shared.told ∧
      contract.ends cell past value := by
  refine run.history (P := fun c states => c.shared.cells cell = .filled value →
    ∃ past, Concluded c states cell past value ∧ past.Sublist c.shared.told ∧
      contract.ends cell past value) ?_ ?_ filled
  · rintro c rfl hfilled
    cases hfilled
  · intro c c' states run ih step hfilled
    have sound := reachable_sound kept run.reachable
    have told := told_of_step step
    -- In the state reached the cell is no longer being initialized.
    have notAfter : ∀ past' value', ¬ c'.Concludes cell past' value' :=
      fun past' value' concludes => by
        have running := (sound.step kept step).running concludes
        rw [hfilled] at running
        cases running
    cases concludes_of_step step hfilled with
    | inl before =>
        obtain ⟨past, ⟨⟨c₀, hc₀, concludes⟩, single⟩, sublist, ends⟩ := ih before
        refine ⟨past, ⟨⟨c₀, List.mem_cons_of_mem _ hc₀, concludes⟩, ?_⟩, sublist.trans told, ends⟩
        exact List.forall_mem_cons.mpr
          ⟨fun past' value' hnow => absurd hnow (notAfter past' value'), single⟩
    | inr concludes =>
        obtain ⟨past, concludes⟩ := concludes
        obtain ⟨sublist, ends⟩ := sound.meets concludes
        refine ⟨past, ⟨⟨c, List.mem_cons_self, concludes⟩, ?_⟩, sublist.trans told, ends⟩
        refine List.forall_mem_cons.mpr
          ⟨fun past' value' hnow => absurd hnow (notAfter past' value'), ?_⟩
        intro c₀ hc₀ past' value' hearlier
        cases concludes_stays kept run c₀ hc₀ hearlier with
        | inl hnow => exact sound.single concludes hnow
        | inr before =>
            have running := sound.running concludes
            rw [before] at running
            cases running

end Holds

/-! Progress -/

/-- What a call waits for, unless it can go on. -/
def Thread.waits (thread : Thread S) : Option (S.Cell ⊕ S.Lock) :=
  match thread.frames with
  | ⟨_, _, _, .lock l _⟩ :: _ => some (.inr l)
  | frames => (wants thread.cell frames).map .inl

theorem Linked.ranks {caller : S.Cell} {told : List (Event S)} {frames : List (Frame S)}
    (linked : Linked caller frames) (sound : ∀ frame ∈ frames, frame.Sound contract told)
    {cell : S.Cell} (wanted : wants caller frames = some cell) :
    ∀ r ∈ (frames.map Frame.owned).sum, S.rank (.inl cell) < S.rank r := by
  induction frames generalizing cell with
  | nil => exact fun r hr => absurd hr (Multiset.notMem_zero r)
  | cons frame frames ih =>
      obtain ⟨top, below⟩ := List.forall_mem_cons.mp sound
      obtain ⟨other, held, past, rest⟩ := frame
      cases rest with
      | done _ | ask _ _ | lock _ _ => cases wanted
      | get asked next =>
          cases wanted
          have lower := top.descends.1
          intro r hr
          rw [List.map_cons, List.sum_cons, Multiset.mem_add] at hr
          cases hr with
          | inl hr => exact lower r hr
          | inr hr =>
              have beneath := ih linked.2 below linked.1 r hr
              exact (lower _ (Multiset.mem_cons_self _ _)).trans beneath

theorem Thread.Sound.ranks {told : List (Event S)} {thread : Thread S}
    (h : thread.Sound contract told) {r : S.Cell ⊕ S.Lock} (waits : thread.waits = some r) :
    ∀ other ∈ thread.owned, S.rank r < S.rank other := by
  obtain ⟨caller, frames, unwinding⟩ := thread
  obtain ⟨linked, sound⟩ := h
  cases frames with
  | nil => exact fun other hother => absurd hother (Multiset.notMem_zero other)
  | cons frame frames =>
      obtain ⟨cell, held, past, rest⟩ := frame
      obtain ⟨top, below⟩ := List.forall_mem_cons.mp sound
      cases rest with
      | done _ | ask _ _ => cases waits
      | get asked next =>
          cases waits
          exact linked.ranks sound rfl
      | lock l next =>
          cases waits
          have lower := top.descends.1
          intro other hother
          rw [Thread.owned, List.map_cons, List.sum_cons, Multiset.mem_add] at hother
          cases hother with
          | inl hother => exact lower other hother
          | inr hother =>
              have beneath := linked.2.ranks below linked.1 other hother
              exact (lower _ (Multiset.mem_cons_self _ _)).trans beneath

section Progress
variable [DecidableEq S.Cell] [DecidableEq S.Lock]
  {init : (cell : S.Cell) → Program S (S.Value cell)}

theorem moves_or_waits (answers : ∀ question, Nonempty (S.Reply question)) (m : Memory S)
    (thread : Thread S) : (∃ m' left, ThreadRule init m {thread} m' left) ∨
      thread.unwinding = false ∧ ∃ r, thread.waits = some r ∧ m.busy r = true := by
  obtain ⟨caller, frames, unwinding⟩ := thread
  have running : ∀ {cell : S.Cell}, m.cells cell = .running → m.busy (.inl cell) = true := by
    intro cell hcell
    rw [Memory.busy, hcell]
    rfl
  cases frames with
  | nil =>
      cases unwinding with
      | true => exact .inl ⟨_, _, .dies⟩
      | false =>
          cases hcell : m.cells caller with
          | vacant => exact .inl ⟨_, _, .begins hcell⟩
          | filled value => exact .inl ⟨_, _, .returns hcell⟩
          | running => exact .inr ⟨rfl, _, rfl, running hcell⟩
  | cons frame frames =>
      obtain ⟨cell, held, past, rest⟩ := frame
      cases unwinding with
      | true =>
          cases held with
          | nil => exact .inl ⟨_, _, .vacates⟩
          | cons l held => exact .inl ⟨_, _, .unlocks (.inl rfl)⟩
      | false =>
          cases rest with
          | done value =>
              cases held with
              | nil => exact .inl ⟨_, _, .fills⟩
              | cons l held => exact .inl ⟨_, _, .unlocks (.inr ⟨value, rfl⟩)⟩
          | ask question next =>
              obtain ⟨reply⟩ := answers question
              exact .inl ⟨_, _, .asks reply⟩
          | get asked next =>
              cases hcell : m.cells asked with
              | vacant => exact .inl ⟨_, _, .nests hcell⟩
              | filled value => exact .inl ⟨_, _, .gets hcell⟩
              | running => exact .inr ⟨rfl, _, rfl, running hcell⟩
          | lock l next =>
              cases free : m.taken l with
              | false => exact .inl ⟨_, _, .locks free⟩
              | true => exact .inr ⟨rfl, _, rfl, free⟩

/-- Of the calls that wait, the one for the lowest rank waits for what some other owns, and
that one does not wait. -/
theorem ThreadConfig.Sound.progress {c : ThreadConfig S} (h : c.Sound contract)
    (answers : ∀ question, Nonempty (S.Reply question)) (running : c.running ≠ 0) :
    ∃ thread ∈ c.running, ∃ m left, ThreadRule init c.shared {thread} m left := by
  classical
  by_contra stuck
  have waiting : ∀ thread ∈ c.running, thread.unwinding = false ∧
      ∃ r, thread.waits = some r ∧ c.shared.busy r = true := fun thread hthread =>
    (moves_or_waits answers c.shared thread).resolve_left fun moves =>
      stuck ⟨thread, hthread, moves⟩
  obtain ⟨first, hfirst⟩ := Multiset.exists_mem_of_ne_zero running
  obtain ⟨last, hlast, lowest⟩ := c.running.toFinset.exists_min_image
    (fun thread => (thread.waits.map S.rank).getD 0) ⟨first, Multiset.mem_toFinset.mpr hfirst⟩
  obtain ⟨r, hr, hbusy⟩ := (waiting last (Multiset.mem_toFinset.mp hlast)).2
  have owned : 0 < c.held fun thread => thread.owned.count r := by
    rw [h.owned r, hbusy]
    exact Nat.one_pos
  obtain ⟨owner, howner, hr'⟩ : ∃ owner ∈ c.running, r ∈ owner.owned := by
    by_contra none
    refine owned.ne' (Config.held_zero fun thread hthread => ?_)
    exact Multiset.count_eq_zero.mpr fun hmem => none ⟨thread, hthread, hmem⟩
  obtain ⟨r', hwaits, -⟩ := (waiting owner howner).2
  have below := (h.threads owner howner (waiting owner howner).1).ranks hwaits r hr'
  have least := lowest owner (Multiset.mem_toFinset.mpr howner)
  rw [hr, hwaits] at least
  exact absurd below (Nat.not_lt_of_le least)

end Progress

end OnceCells
