import GpuInfo.Interleaving
import Mathlib.Data.Multiset.Count
import Mathlib.Logic.Function.Basic

/-!
Cells that the first caller fills, used by any number of threads. A caller that finds a cell
vacant runs its initializer and all others wait for it; an initializer may take locks, which
it gives back when it ends, and may ask for other cells. One that unwinds leaves its cell
vacant, and the next caller begins again. Whatever is being initialized, or is locked, has one
owner among the calls.
-/

namespace OnceCells
open Interleaving

structure Signature where
  Cell : Type
  Value : Cell → Type
  Lock : Type
  /-- What an initializer may ask of the world. -/
  Question : Type
  Reply : Question → Type
  rank : Cell ⊕ Lock → Nat

inductive Program (S : Signature) (α : Type)
  | done (answer : α)
  | ask (question : S.Question) (next : S.Reply question → Program S α)
  /-- Another cell, which is initialized if it has to be. -/
  | get (cell : S.Cell) (next : S.Value cell → Program S α)
  /-- A lock, held until the program ends. -/
  | lock (l : S.Lock) (next : Program S α)

namespace Program
variable {S : Signature} {α β : Type}

def bind (program : Program S α) (f : α → Program S β) : Program S β :=
  match program with
  | .done answer => f answer
  | .ask question next => .ask question fun reply => (next reply).bind f
  | .get cell next => .get cell fun value => (next value).bind f
  | .lock l next => .lock l (next.bind f)

instance : Monad (Program S) where
  pure := done
  bind := bind

def perform (question : S.Question) : Program S (S.Reply question) := .ask question .done

def need (cell : S.Cell) : Program S (S.Value cell) := .get cell .done

def hold (l : S.Lock) : Program S Unit := .lock l (.done ())

end Program

inductive CellState (α : Type)
  | vacant
  | running
  | filled (value : α)

inductive Event (S : Signature)
  | asked (question : S.Question) (reply : S.Reply question)
  | got (cell : S.Cell) (value : S.Value cell)

/-- An initializer on its way: the locks it holds, what it has been told, the newest first, and
what is left of it. -/
structure Frame (S : Signature) where
  cell : S.Cell
  held : List S.Lock
  past : List (Event S)
  rest : Program S (S.Value cell)

/-- One call for a cell, with the initializers it runs, the innermost first. -/
structure Thread (S : Signature) where
  cell : S.Cell
  frames : List (Frame S)
  unwinding : Bool

structure Memory (S : Signature) where
  cells : (cell : S.Cell) → CellState (S.Value cell)
  taken : S.Lock → Bool
  /-- What initializers have been told, which have begun and which have unwound, and what the
  calls have returned: no code reads these. -/
  told : List (Event S)
  begun : List S.Cell
  unwound : List S.Cell
  returned : List (Σ cell, S.Value cell)

variable {S : Signature}

namespace Memory
variable [DecidableEq S.Cell]

def setCell (m : Memory S) (cell : S.Cell) (state : CellState (S.Value cell)) : Memory S :=
  { m with cells := Function.update m.cells cell state }

def begin (m : Memory S) (cell : S.Cell) : Memory S :=
  { m.setCell cell .running with begun := cell :: m.begun }

def vacate (m : Memory S) (cell : S.Cell) : Memory S :=
  { m.setCell cell .vacant with unwound := cell :: m.unwound }

def tell (m : Memory S) (event : Event S) : Memory S := { m with told := event :: m.told }

def answer (m : Memory S) (cell : S.Cell) (value : S.Value cell) : Memory S :=
  { m with returned := ⟨cell, value⟩ :: m.returned }

def setTaken [DecidableEq S.Lock] (m : Memory S) (l : S.Lock) (taken : Bool) : Memory S :=
  { m with taken := Function.update m.taken l taken }

end Memory

/-- Nothing is left to do but to give back the locks and to leave. -/
def Frame.Ends (frame : Frame S) (unwinding : Bool) : Prop :=
  unwinding = true ∨ ∃ value, frame.rest = .done value

inductive ThreadRule [DecidableEq S.Cell] [DecidableEq S.Lock]
    (init : (cell : S.Cell) → Program S (S.Value cell)) :
    Rule (Memory S) (Thread S)
  | calls {m : Memory S} (cell : S.Cell) : ThreadRule init m 0 m {⟨cell, [], false⟩}
  /-- The caller finds its cell vacant. -/
  | begins {m : Memory S} {cell : S.Cell} (vacant : m.cells cell = .vacant) :
      ThreadRule init m {⟨cell, [], false⟩} (m.begin cell)
        {⟨cell, [⟨cell, [], [], init cell⟩], false⟩}
  | returns {m : Memory S} {cell : S.Cell} {value : S.Value cell}
      (filled : m.cells cell = .filled value) :
      ThreadRule init m {⟨cell, [], false⟩} (m.answer cell value) 0
  | asks {m : Memory S} {caller cell : S.Cell} {held : List S.Lock} {past : List (Event S)}
      {question : S.Question} {next : S.Reply question → Program S (S.Value cell)}
      {frames : List (Frame S)} (reply : S.Reply question) :
      ThreadRule init m {⟨caller, ⟨cell, held, past, .ask question next⟩ :: frames, false⟩}
        (m.tell (.asked question reply))
        {⟨caller, ⟨cell, held, .asked question reply :: past, next reply⟩ :: frames, false⟩}
  | panics {m : Memory S} {caller cell : S.Cell} {held : List S.Lock} {past : List (Event S)}
      {question : S.Question} {next : S.Reply question → Program S (S.Value cell)}
      {frames : List (Frame S)} :
      ThreadRule init m {⟨caller, ⟨cell, held, past, .ask question next⟩ :: frames, false⟩} m
        {⟨caller, ⟨cell, held, past, .ask question next⟩ :: frames, true⟩}
  /-- An initializer finds another cell vacant. -/
  | nests {m : Memory S} {caller cell other : S.Cell} {held : List S.Lock}
      {past : List (Event S)} {next : S.Value other → Program S (S.Value cell)}
      {frames : List (Frame S)} (vacant : m.cells other = .vacant) :
      ThreadRule init m {⟨caller, ⟨cell, held, past, .get other next⟩ :: frames, false⟩}
        (m.begin other)
        {⟨caller, ⟨other, [], [], init other⟩ :: ⟨cell, held, past, .get other next⟩ :: frames,
          false⟩}
  | gets {m : Memory S} {caller cell other : S.Cell} {held : List S.Lock}
      {past : List (Event S)} {next : S.Value other → Program S (S.Value cell)}
      {frames : List (Frame S)} {value : S.Value other} (filled : m.cells other = .filled value) :
      ThreadRule init m {⟨caller, ⟨cell, held, past, .get other next⟩ :: frames, false⟩}
        (m.tell (.got other value))
        {⟨caller, ⟨cell, held, .got other value :: past, next value⟩ :: frames, false⟩}
  | locks {m : Memory S} {caller cell : S.Cell} {held : List S.Lock} {past : List (Event S)}
      {l : S.Lock} {next : Program S (S.Value cell)} {frames : List (Frame S)}
      (free : m.taken l = false) :
      ThreadRule init m {⟨caller, ⟨cell, held, past, .lock l next⟩ :: frames, false⟩}
        (m.setTaken l true)
        {⟨caller, ⟨cell, l :: held, past, next⟩ :: frames, false⟩}
  | unlocks {m : Memory S} {caller cell : S.Cell} {l : S.Lock} {held : List S.Lock}
      {past : List (Event S)} {rest : Program S (S.Value cell)} {frames : List (Frame S)}
      {unwinding : Bool} (ends : Frame.Ends ⟨cell, l :: held, past, rest⟩ unwinding) :
      ThreadRule init m {⟨caller, ⟨cell, l :: held, past, rest⟩ :: frames, unwinding⟩}
        (m.setTaken l false)
        {⟨caller, ⟨cell, held, past, rest⟩ :: frames, unwinding⟩}
  | fills {m : Memory S} {caller cell : S.Cell} {past : List (Event S)} {value : S.Value cell}
      {frames : List (Frame S)} :
      ThreadRule init m {⟨caller, ⟨cell, [], past, .done value⟩ :: frames, false⟩}
        (m.setCell cell (.filled value))
        {⟨caller, frames, false⟩}
  | vacates {m : Memory S} {caller cell : S.Cell} {past : List (Event S)}
      {rest : Program S (S.Value cell)} {frames : List (Frame S)} :
      ThreadRule init m {⟨caller, ⟨cell, [], past, rest⟩ :: frames, true⟩}
        (m.vacate cell)
        {⟨caller, frames, true⟩}
  /-- The panic leaves the call. -/
  | dies {m : Memory S} {cell : S.Cell} : ThreadRule init m {⟨cell, [], true⟩} m 0

abbrev ThreadConfig (S : Signature) := Config (Memory S) (Thread S)

def ThreadStart (c : ThreadConfig S) : Prop :=
  c = ⟨⟨fun _ => .vacant, fun _ => false, [], [], [], []⟩, 0⟩

/-! What is busy is owned, once -/

def CellState.isRunning {α : Type} : CellState α → Bool
  | .running => true
  | .vacant | .filled _ => false

/-- A cell that is being initialized, or a lock that is taken. -/
def Memory.busy (m : Memory S) : S.Cell ⊕ S.Lock → Bool
  | .inl cell => (m.cells cell).isRunning
  | .inr l => m.taken l

def Frame.owned (frame : Frame S) : Multiset (S.Cell ⊕ S.Lock) :=
  .inl frame.cell ::ₘ (frame.held : Multiset S.Lock).map .inr

def Thread.owned (thread : Thread S) : Multiset (S.Cell ⊕ S.Lock) :=
  (thread.frames.map Frame.owned).sum

theorem Frame.owned_lock (cell : S.Cell) (l : S.Lock) (held : List S.Lock)
    (past past' : List (Event S)) (rest rest' : Program S (S.Value cell)) :
    Frame.owned ⟨cell, l :: held, past, rest⟩ =
      .inr l ::ₘ Frame.owned ⟨cell, held, past', rest'⟩ := by
  rw [Frame.owned, Frame.owned, ← Multiset.cons_coe, Multiset.map_cons, Multiset.cons_swap]

theorem Thread.owned_cons (caller : S.Cell) (frame : Frame S) (frames : List (Frame S))
    (unwinding : Bool) : Thread.owned ⟨caller, frame :: frames, unwinding⟩ =
      frame.owned + Thread.owned ⟨caller, frames, unwinding⟩ := by
  rw [Thread.owned, List.map_cons, List.sum_cons]
  rfl

theorem Thread.owned_lock (caller cell : S.Cell) (l : S.Lock) (held : List S.Lock)
    (past past' : List (Event S)) (rest rest' : Program S (S.Value cell))
    (frames : List (Frame S)) (unwinding : Bool) :
    Thread.owned ⟨caller, ⟨cell, l :: held, past, rest⟩ :: frames, unwinding⟩ =
      .inr l ::ₘ Thread.owned ⟨caller, ⟨cell, held, past', rest'⟩ :: frames, unwinding⟩ := by
  rw [Thread.owned_cons, Thread.owned_cons, Frame.owned_lock cell l held past past' rest rest',
    Multiset.cons_add]

theorem Thread.owned_initializer (caller cell : S.Cell) (past : List (Event S))
    (rest : Program S (S.Value cell)) (frames : List (Frame S)) (unwinding unwinding' : Bool) :
    Thread.owned ⟨caller, ⟨cell, [], past, rest⟩ :: frames, unwinding⟩ =
      .inl cell ::ₘ Thread.owned ⟨caller, frames, unwinding'⟩ := by
  rw [Thread.owned_cons, Frame.owned, Multiset.coe_nil, Multiset.map_zero, Multiset.cons_add,
    zero_add]
  rfl

theorem Memory.not_busy_of_vacant {m : Memory S} {cell : S.Cell} (h : m.cells cell = .vacant) :
    m.busy (.inl cell) = false := by
  rw [busy, h]
  rfl

theorem Memory.running_of_busy {m : Memory S} {cell : S.Cell}
    (h : m.busy (.inl cell) = true) : m.cells cell = .running := by
  rw [busy] at h
  cases hcell : m.cells cell with
  | running => rfl
  | vacant | filled _ =>
      rw [hcell] at h
      cases h

theorem Thread.owns_top (caller cell : S.Cell) (past : List (Event S))
    (rest : Program S (S.Value cell)) (frames : List (Frame S)) (unwinding : Bool) :
    .inl cell ∈ Thread.owned ⟨caller, ⟨cell, [], past, rest⟩ :: frames, unwinding⟩ := by
  rw [Thread.owned_initializer caller cell past rest frames unwinding unwinding]
  exact Multiset.mem_cons_self _ _

section Busy
variable [DecidableEq S.Cell] [DecidableEq S.Lock]

theorem Memory.busy_setCell (m : Memory S) (cell : S.Cell) (state : CellState (S.Value cell))
    (r : S.Cell ⊕ S.Lock) : (m.setCell cell state).busy r =
      if r = .inl cell then state.isRunning else m.busy r := by
  cases r with
  | inl other =>
      by_cases h : other = cell
      · subst h
        simp [busy, setCell]
      · simp [busy, setCell, h]
  | inr l => simp [busy, setCell]

theorem Memory.busy_setTaken (m : Memory S) (l : S.Lock) (taken : Bool) (r : S.Cell ⊕ S.Lock) :
    (m.setTaken l taken).busy r = if r = .inr l then taken else m.busy r := by
  cases r with
  | inl cell => simp [busy, setTaken]
  | inr other =>
      by_cases h : other = l
      · subst h
        simp [busy, setTaken]
      · simp [busy, setTaken, h]

theorem Memory.busy_begin (m : Memory S) (cell : S.Cell) (r : S.Cell ⊕ S.Lock) :
    (m.begin cell).busy r = if r = .inl cell then true else m.busy r :=
  m.busy_setCell cell .running r

theorem Memory.busy_vacate (m : Memory S) (cell : S.Cell) (r : S.Cell ⊕ S.Lock) :
    (m.vacate cell).busy r = if r = .inl cell then false else m.busy r :=
  m.busy_setCell cell .vacant r

variable {init : (cell : S.Cell) → Program S (S.Value cell)}

/-- One resource becomes busy, and it is added to what a thread owns. -/
theorem count_gains {m m' : Memory S} {owned owned' : Multiset (S.Cell ⊕ S.Lock)}
    {new : S.Cell ⊕ S.Lock} (gains : owned' = new ::ₘ owned) (free : m.busy new = false)
    (busy : ∀ r, m'.busy r = if r = new then true else m.busy r) (r : S.Cell ⊕ S.Lock) :
    owned'.count r + (m.busy r).toNat = owned.count r + (m'.busy r).toNat := by
  rw [gains, busy]
  by_cases h : r = new
  · subst h
    simp [free]
  · simp [h]

theorem count_loses {m m' : Memory S} {owned owned' : Multiset (S.Cell ⊕ S.Lock)}
    {old : S.Cell ⊕ S.Lock} (loses : owned = old ::ₘ owned') (was : m.busy old = true)
    (busy : ∀ r, m'.busy r = if r = old then false else m.busy r) (r : S.Cell ⊕ S.Lock) :
    owned'.count r + (m.busy r).toNat = owned.count r + (m'.busy r).toNat := by
  refine (count_gains loses ?_ (fun r => ?_) r).symm
  · rw [busy, if_pos rfl]
  · rw [busy]
    by_cases h : r = old <;> simp [h, was]

/-- Whoever takes part owns what is busy on its account. -/
theorem threadRule_owned (r : S.Cell ⊕ S.Lock) (m : Memory S) (taken : Multiset (Thread S))
    (m' : Memory S) (left : Multiset (Thread S)) (rule : ThreadRule init m taken m' left)
    (h : ∀ thread ∈ taken, ∀ r ∈ thread.owned, m.busy r = true) :
    (left.map fun thread => thread.owned.count r).sum + (m.busy r).toNat =
      (taken.map fun thread => thread.owned.count r).sum + (m'.busy r).toNat := by
  cases rule with
  | calls | returns | asks | panics | gets | dies => rfl
  | @begins _ cell vacant =>
      rw [Multiset.map_singleton, Multiset.sum_singleton, Multiset.map_singleton,
        Multiset.sum_singleton]
      exact count_gains (Thread.owned_initializer _ _ _ _ _ _ _)
        (Memory.not_busy_of_vacant vacant) (m.busy_begin cell) r
  | @nests _ _ _ other _ _ _ _ vacant =>
      rw [Multiset.map_singleton, Multiset.sum_singleton, Multiset.map_singleton,
        Multiset.sum_singleton]
      exact count_gains (Thread.owned_initializer _ _ _ _ _ _ _)
        (Memory.not_busy_of_vacant vacant) (m.busy_begin other) r
  | @locks _ _ _ _ _ l _ _ free =>
      rw [Multiset.map_singleton, Multiset.sum_singleton, Multiset.map_singleton,
        Multiset.sum_singleton]
      exact count_gains (Thread.owned_lock _ _ _ _ _ _ _ _ _ _) free (m.busy_setTaken l true) r
  | @unlocks _ caller cell l held past rest frames unwinding _ =>
      have gains := Thread.owned_lock caller cell l held past past rest rest frames unwinding
      have owned := h _ (Multiset.mem_singleton_self _) (.inr l)
        (gains ▸ Multiset.mem_cons_self _ _)
      rw [Multiset.map_singleton, Multiset.sum_singleton, Multiset.map_singleton,
        Multiset.sum_singleton]
      exact count_loses gains owned (m.busy_setTaken l false) r
  | @fills _ caller cell past value frames =>
      have gains := Thread.owned_initializer caller cell past (.done value) frames false false
      have owned := h _ (Multiset.mem_singleton_self _) _ (Thread.owns_top _ cell _ _ _ _)
      rw [Multiset.map_singleton, Multiset.sum_singleton, Multiset.map_singleton,
        Multiset.sum_singleton]
      exact count_loses gains owned (m.busy_setCell cell (.filled value)) r
  | @vacates _ caller cell past rest frames =>
      have gains := Thread.owned_initializer caller cell past rest frames true true
      have owned := h _ (Multiset.mem_singleton_self _) _ (Thread.owns_top _ cell _ _ _ _)
      rw [Multiset.map_singleton, Multiset.sum_singleton, Multiset.map_singleton,
        Multiset.sum_singleton]
      exact count_loses gains owned (m.busy_vacate cell) r

end Busy

end OnceCells
