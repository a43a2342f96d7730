import GpuInfo.Wait.BindLock

/-!
What holds of every run of the submissions and waits: a callback waits for the submission it
was registered for and for no later one of this module, a wait that ends well has waited long
enough, and all who wait for a submission are told the same.
-/

namespace GpuInfo
open Interleaving

/-! What no two tasks share -/

/-- The lock, and a signal whose submission is still to be made. -/
inductive WaitClaim
  | bind
  | unsent (signal : SignalId)
  deriving DecidableEq

def WaitTask.claims : WaitTask → Multiset WaitClaim
  | .entering call => {.unsent call.signal}
  | .bound call => {.bind, .unsent call.signal}
  | .submitted _ | .leaving _ => {.bind}
  | .registered _ | .finishing _ _ | .observing _ _ | .looking _ | .checking _ | .polling _
  | .sleeping _ => 0

/-- Held by a task, or not to be had yet. -/
structure WaitWorld.Apart (w : WaitWorld) (claims : Multiset WaitClaim) : Prop where
  nodup : claims.Nodup
  free : w.bind = false → .bind ∉ claims
  fresh : ∀ signal, w.nextSignal ≤ signal → .unsent signal ∉ claims

theorem WaitWorld.Apart.less {w w' : WaitWorld} {claims claims' : Multiset WaitClaim}
    (h : w.Apart claims) (less : claims' ≤ claims) (bind : w'.bind = w.bind)
    (next : w.nextSignal ≤ w'.nextSignal) : w'.Apart claims' :=
  ⟨Multiset.nodup_of_le less h.nodup,
    fun hfree hmem => h.free (bind ▸ hfree) (Multiset.mem_of_le less hmem),
    fun signal hsignal hmem =>
      h.fresh signal (next.trans hsignal) (Multiset.mem_of_le less hmem)⟩

theorem WaitWorld.settle_bind (w : WaitWorld) (signal : SignalId) (result : Outcome) :
    (w.settle signal result).bind = w.bind := by
  rw [settle]
  split <;> rfl

theorem WaitWorld.settle_nextSignal (w : WaitWorld) (signal : SignalId) (result : Outcome) :
    (w.settle signal result).nextSignal = w.nextSignal := by
  rw [settle]
  split <;> rfl

theorem SubmitCall.claims_waits (call : SubmitCall) :
    (call.waits.map WaitTask.claims).sum = 0 := by
  rw [waits]
  split <;> rfl

theorem WaitTask.claims_bound (call : SubmitCall) :
    (WaitTask.bound call).claims = .bind ::ₘ (WaitTask.entering call).claims := rfl

theorem waitRule_apart (w : WaitWorld) (taken : Multiset WaitTask) (w' : WaitWorld)
    (left : Multiset WaitTask) (rule : WaitRule w taken w' left) (others : Multiset WaitClaim)
    (h : w.Apart ((taken.map WaitTask.claims).sum + others)) :
    w'.Apart ((left.map WaitTask.claims).sum + others) := by
  cases rule with
  | foreign | retire _ | map _ | observe _ | scopes _ | observed _ | wait _ _ | plain _
  | validates _ | undecided _ | rejected _ | accepted _ | run _ | drop | found _ | unsettled _
  | poll | pollFails _ | wake =>
      refine h.less (le_of_eq ?_) rfl (by first | rfl | exact Nat.le_succ _)
      simp [WaitTask.claims]
  | settle =>
      refine h.less (le_of_eq ?_) (w.settle_bind _ _) (w.settle_nextSignal _ _).ge
      simp [WaitTask.claims]
  | call queue idle =>
      rw [Multiset.map_zero, Multiset.sum_zero, zero_add] at h
      rw [Multiset.map_singleton, Multiset.sum_singleton]
      refine ⟨Multiset.nodup_cons.mpr ⟨h.fresh _ le_rfl, h.nodup⟩, fun hfree hmem => ?_,
        fun signal hsignal hmem => ?_⟩
      · cases Multiset.mem_cons.mp hmem with
        | inl heq => cases heq
        | inr hmem => exact h.free hfree hmem
      · cases Multiset.mem_cons.mp hmem with
        | inl heq =>
            cases heq
            exact absurd hsignal (Nat.not_succ_le_self _)
        | inr hmem => exact h.fresh signal ((Nat.le_succ _).trans hsignal) hmem
  | @lock _ call free =>
      rw [Multiset.map_singleton, Multiset.sum_singleton] at h ⊢
      rw [WaitTask.claims_bound, Multiset.cons_add]
      refine ⟨Multiset.nodup_cons.mpr ⟨h.free free, h.nodup⟩, fun hfree => (by cases hfree),
        fun signal hsignal hmem => ?_⟩
      cases Multiset.mem_cons.mp hmem with
      | inl heq => cases heq
      | inr hmem => exact h.fresh signal hsignal hmem
  | register | unwindAfter =>
      refine h.less (le_of_eq ?_) rfl le_rfl
      simp [WaitTask.claims]
  | @submit _ call =>
      refine h.less ?_ rfl le_rfl
      rw [Multiset.map_singleton, Multiset.sum_singleton, Multiset.map_singleton,
        Multiset.sum_singleton, WaitTask.claims_bound, Multiset.cons_add]
      exact Multiset.cons_le_cons _ (Multiset.le_add_left _ _)
  | @unwindBefore _ call =>
      refine h.less ?_ rfl le_rfl
      rw [Multiset.map_singleton, Multiset.sum_singleton, WaitTask.claims_bound, Multiset.cons_add]
      exact Multiset.cons_le_cons _ (Multiset.le_add_left _ _)
  | @unlock _ call =>
      rw [Multiset.map_singleton, Multiset.sum_singleton] at h
      rw [call.claims_waits, zero_add]
      obtain ⟨hbind, hothers⟩ := Multiset.nodup_cons.mp h.nodup
      exact ⟨hothers, fun _ => hbind,
        fun signal hsignal hmem => h.fresh signal hsignal (Multiset.mem_cons_of_mem hmem)⟩

theorem WaitStep.apart {c c' : WaitConfig} (step : WaitStep c c')
    (h : c.shared.Apart (c.held WaitTask.claims)) : c'.shared.Apart (c'.held WaitTask.claims) := by
  obtain ⟨others, rule⟩ := step
  simp only [Config.held, Multiset.map_add, Multiset.sum_add] at h ⊢
  exact waitRule_apart _ _ _ _ rule _ h

/-! The polls of the error scopes -/

def WaitTask.observers : WaitTask → Multiset Observer
  | .observing o _ => {o}
  | .entering _ | .bound _ | .submitted _ | .leaving _ | .registered _ | .finishing _ _
  | .looking _ | .checking _ | .polling _ | .sleeping _ => 0

/-- What is left of a run when only the polls of the error scopes are looked at. -/
def WaitConfig.polling (c : WaitConfig) : Polling := ⟨c.shared.scopes, c.held WaitTask.observers⟩

theorem SubmitCall.waits_observers (call : SubmitCall) :
    (call.waits.map WaitTask.observers).sum = 0 := by
  rw [waits]
  split <;> rfl

theorem waitRule_polls {w w' : WaitWorld} {taken left : Multiset WaitTask}
    (rule : WaitRule w taken w' left) :
    (w'.scopes = w.scopes ∧
      (left.map WaitTask.observers).sum = (taken.map WaitTask.observers).sum) ∨
    PollRule w.scopes (taken.map WaitTask.observers).sum w'.scopes
      (left.map WaitTask.observers).sum := by
  cases rule with
  | observe tree => exact .inr (.starts w.scopes tree)
  | validates _ => exact .inr (.starts w.scopes _)
  | scopes h => exact .inr h
  | observed h | undecided h | rejected h | accepted h => exact .inr (.returns w.scopes _ h)
  | unlock => exact .inl ⟨rfl, SubmitCall.waits_observers _⟩
  | settle =>
      refine .inl ⟨?_, rfl⟩
      rw [WaitWorld.settle]
      split <;> rfl
  | foreign | retire | call | lock | submit | register | unwindBefore | unwindAfter | map | run
  | drop | wait | plain | found | unsettled | poll | pollFails | wake => exact .inl ⟨rfl, rfl⟩

theorem reachable_polling {c : WaitConfig} (hc : Reachable WaitStart WaitStep c) :
    Reachable PollStart (Step PollRule) c.polling := by
  refine hc.invariant (I := fun c => Reachable PollStart (Step PollRule) c.polling) ?_ ?_
  · rintro c rfl
    exact .start rfl
  · intro c c' h step
    obtain ⟨rest, rule⟩ := step
    rw [WaitConfig.polling, Config.held, Multiset.map_add, Multiset.sum_add] at h ⊢
    cases waitRule_polls rule with
    | inl same =>
        rw [same.1, same.2]
        exact h
    | inr polls => exact h.fire _ polls rfl

/-- What the polls of the scopes know of them. -/
structure WaitWorld.Polls (w : WaitWorld) (tasks : Multiset WaitTask) : Prop where
  scopes : w.scopes.Sound
  observers : ∀ task ∈ tasks, ∀ o ∈ task.observers, o.Sound w.scopes

theorem WaitWorld.Polls.one {w : WaitWorld} {task : WaitTask} (h : w.Polls {task}) {o : Observer}
    (ho : o ∈ task.observers) : o.Sound w.scopes :=
  h.observers task (Multiset.mem_singleton_self task) o ho

theorem reachable_polls {c : WaitConfig} (hc : Reachable WaitStart WaitStep c) :
    c.shared.Polls c.running := by
  obtain ⟨scopes, observers⟩ := polling_sound (reachable_polling hc)
  refine ⟨scopes, fun task htask o ho => observers o (Multiset.mem_of_le ?_ ho)⟩
  exact Multiset.le_sum_of_mem (Multiset.mem_map_of_mem WaitTask.observers htask)

/-- What comes of a poll that returns. -/
theorem Observer.Sound.answered {s : Scopes} {o : Observer} (h : o.Sound s) {answer : Outcome}
    (hphase : o.phase = .running (.done (some answer))) :
    Verdict s.recorded o.tree.scopes answer := by
  have running := h.phase
  rw [hphase] at running
  have polled : Polled id o.tree.scopes o.first (some answer) s.recorded :=
    running s.recorded (refl_of Stays _)
  exact polled.decided answer rfl

/-! What becomes more -/

/-- Nothing that has happened is undone. -/
structure WaitWorld.Grows (w w' : WaitWorld) : Prop where
  made : ∀ queue, w.made queue <+: w'.made queue
  retired : ∀ queue, w.retired queue ≤ w'.retired queue
  next : w.nextSignal ≤ w'.nextSignal
  awaits : ∀ signal mark, w.awaits signal = some mark → w'.awaits signal = some mark
  signals : ∀ signal result, w.signals signal = some result → w'.signals signal = some result
  recorded : Stays w.scopes.recorded w'.scopes.recorded

theorem WaitWorld.Grows.refl (w : WaitWorld) : w.Grows w :=
  ⟨fun _ => List.prefix_rfl, fun _ => le_rfl, le_rfl, fun _ _ => id, fun _ _ => id,
    refl_of Stays _⟩

theorem WaitWorld.Grows.reached {w w' : WaitWorld} (h : w.Grows w') {mark : Mark}
    (reached : w.Reached mark) : w'.Reached mark :=
  le_trans reached (h.retired mark.queue)

theorem WaitWorld.grows_submit (w : WaitWorld) (queue : QueueId) (origin : Origin) :
    w.Grows (w.submit queue origin) := by
  refine ⟨fun other => ?_, fun _ => le_rfl, le_rfl, fun _ _ => id, fun _ _ => id,
    refl_of Stays _⟩
  by_cases h : other = queue
  · subst h
    simp [submit]
  · simp [submit, h]

theorem WaitWorld.grows_retire (w : WaitWorld) (queue : QueueId) : w.Grows (w.retire queue) := by
  refine ⟨fun _ => List.prefix_rfl, fun other => ?_, le_rfl, fun _ _ => id, fun _ _ => id,
    refl_of Stays _⟩
  by_cases h : other = queue
  · subst h
    simp [retire]
  · simp [retire, h]

theorem WaitWorld.grows_settle (w : WaitWorld) (signal : SignalId) (result : Outcome) :
    w.Grows (w.settle signal result) := by
  rw [settle]
  split
  · exact .refl w
  · next hnone =>
      refine ⟨fun _ => List.prefix_rfl, fun _ => le_rfl, le_rfl, fun _ _ => id,
        fun other found hfound => ?_, refl_of Stays _⟩
      have hne : other ≠ signal := by
        rintro rfl
        rw [hnone] at hfound
        cases hfound
      simpa [hne] using hfound

theorem WaitWorld.Grows.await {w w' : WaitWorld} (h : w.Grows w') {signal : SignalId}
    (none : w.awaits signal = none) (mark : Mark) : w.Grows (w'.await signal mark) := by
  refine ⟨h.made, h.retired, h.next, fun other found hfound => ?_, h.signals, h.recorded⟩
  have hne : other ≠ signal := by
    rintro rfl
    rw [none] at hfound
    cases hfound
  simpa [WaitWorld.await, hne] using h.awaits other found hfound

theorem WaitWorld.grows_fresh (w : WaitWorld) : w.Grows w.fresh :=
  { WaitWorld.Grows.refl w with next := Nat.le_succ _ }

/-! The invariant -/

/-- The submission of the signal is before the mark, and between the two are no submissions but
those of other code. -/
def WaitWorld.Bound (w : WaitWorld) (signal : SignalId) (mark : Mark) : Prop :=
  ∃ i, (w.made mark.queue)[i]? = some (.own signal) ∧ i < mark.made ∧
    mark.made ≤ (w.made mark.queue).length ∧
    ∀ j, i < j → j < mark.made → (w.made mark.queue)[j]? = some .foreign

/-- The signal's own mark is no later. -/
def WaitWorld.Covers (w : WaitWorld) (signal : SignalId) (mark : Mark) : Prop :=
  ∃ made ≤ mark.made, w.awaits signal = some ⟨mark.queue, made⟩

/-- What is to be waited for is no later than the signal's own mark. -/
def WaitWorld.Within (w : WaitWorld) (signal : SignalId) (mark : Mark) : Prop :=
  ∃ made, mark.made ≤ made ∧ w.awaits signal = some ⟨mark.queue, made⟩

def WaitWorld.Proven (w : WaitWorld) (signal : SignalId) : Prop :=
  ∃ mark, w.awaits signal = some mark ∧ w.Reached mark

/-- The error scopes of a wait, if it has any, have accepted. -/
def WaitWorld.Accepted (w : WaitWorld) (blocked : Blocked) : Prop :=
  ∀ tree, blocked.validation = some tree → Verdict w.scopes.recorded tree.scopes (.ok ())

/-- What a wait is told: the first failure of its error scopes, or the outcome of its signal. -/
inductive WaitWorld.Decides (w : WaitWorld) (blocked : Blocked) : Outcome → Prop
  | rejected {tree : Validation} {error : WaitError} (validates : blocked.validation = some tree)
      (h : Verdict w.scopes.recorded tree.scopes (.error error)) : Decides w blocked (.error error)
  | settled {result : Outcome} (accepted : w.Accepted blocked)
      (h : w.signals blocked.signal = some result) : Decides w blocked result

theorem WaitWorld.Decides.unique {w : WaitWorld} {one other : Blocked}
    (signal : one.signal = other.signal) (validation : one.validation = other.validation)
    {result result' : Outcome} (h : w.Decides one result) (h' : w.Decides other result') :
    result = result' := by
  cases h with
  | rejected validates verdict =>
      cases h' with
      | rejected validates' verdict' =>
          cases validates.symm.trans (validation.trans validates')
          exact verdict.unique verdict'
      | settled accepted' _ =>
          cases verdict.unique (accepted' _ (validation.symm.trans validates))
  | settled accepted hsignal =>
      cases h' with
      | rejected validates' verdict' =>
          cases verdict'.unique (accepted _ (validation.trans validates'))
      | settled _ hsignal' =>
          rw [signal, hsignal'] at hsignal
          exact (Option.some.inj hsignal).symm

structure WaitWorld.Sound (w : WaitWorld) : Prop where
  made : ∀ queue i signal, (w.made queue)[i]? = some (.own signal) →
    w.awaits signal = some ⟨queue, i + 1⟩
  fresh : ∀ signal, w.nextSignal ≤ signal → w.awaits signal = none
  proven : ∀ signal, w.signals signal = some (.ok ()) → w.Proven signal
  waited : ∀ waited ∈ w.waited, w.Decides waited.blocked waited.result ∨
    ∃ error : WaitError, error.OfPoll ∧ waited.result = .error error
  idle : ∀ waited ∈ w.waited, ∀ mark, waited.blocked.idle = some mark →
    w.Within waited.blocked.signal mark

/-- Its submission is still to be made. -/
structure SubmitCall.Unsent (w : WaitWorld) (call : SubmitCall) : Prop where
  given : call.signal < w.nextSignal
  unsent : w.awaits call.signal = none
  before : call.before ≤ (w.made call.queue).length

/-- What `wait_idle` is to wait for is within what its submission waits for. -/
def Blocked.Sound (w : WaitWorld) (blocked : Blocked) : Prop :=
  ∀ mark, blocked.idle = some mark → w.Within blocked.signal mark

def WaitTask.Sound (w : WaitWorld) : WaitTask → Prop
  | .entering call | .bound call => call.Unsent w
  | .submitted call => w.Bound call.signal (w.now call.queue) ∧
      w.Within call.signal ⟨call.queue, call.before⟩
  | .leaving call => call.idle = true → w.Within call.signal ⟨call.queue, call.before⟩
  | .registered callback => w.Covers callback.signal callback.mark ∧
      (callback.submission = true → w.Bound callback.signal callback.mark)
  | .finishing signal result => result = .ok () → w.Proven signal
  | .observing o waits =>
      ∀ blocked ∈ waits, blocked.Sound w ∧ blocked.validation = some o.tree
  | .checking blocked => blocked.Sound w ∧ w.Accepted blocked
  | .looking blocked | .polling blocked | .sleeping blocked => blocked.Sound w

section Grows
variable {w w' : WaitWorld} (grows : w.Grows w')
include grows

theorem WaitWorld.Grows.get {queue : QueueId} {i : Nat} {origin : Origin}
    (h : (w.made queue)[i]? = some origin) : (w'.made queue)[i]? = some origin := by
  obtain ⟨more, hmore⟩ := grows.made queue
  have hi : i < (w.made queue).length := (List.getElem?_eq_some_iff.mp h).1
  rw [← hmore, List.getElem?_append_left hi, h]

theorem WaitWorld.Grows.bound {signal : SignalId} {mark : Mark} (h : w.Bound signal mark) :
    w'.Bound signal mark := by
  obtain ⟨i, hi, hmade, hlength, foreign⟩ := h
  exact ⟨i, grows.get hi, hmade, hlength.trans (grows.made mark.queue).length_le,
    fun j hij hj => grows.get (foreign j hij hj)⟩

theorem WaitWorld.Grows.covers {signal : SignalId} {mark : Mark} (h : w.Covers signal mark) :
    w'.Covers signal mark := by
  obtain ⟨made, hmade, awaits⟩ := h
  exact ⟨made, hmade, grows.awaits _ _ awaits⟩

theorem WaitWorld.Grows.within {signal : SignalId} {mark : Mark} (h : w.Within signal mark) :
    w'.Within signal mark := by
  obtain ⟨made, hmade, awaits⟩ := h
  exact ⟨made, hmade, grows.awaits _ _ awaits⟩

theorem WaitWorld.Grows.proven {signal : SignalId} (h : w.Proven signal) : w'.Proven signal := by
  obtain ⟨mark, awaits, reached⟩ := h
  exact ⟨mark, grows.awaits _ _ awaits, grows.reached reached⟩

theorem WaitWorld.Grows.accepted {blocked : Blocked} (h : w.Accepted blocked) :
    w'.Accepted blocked := fun tree validates =>
  (h tree validates).later fun hrecorded => grows.recorded _ _ hrecorded

theorem WaitWorld.Grows.decides {blocked : Blocked} {result : Outcome}
    (h : w.Decides blocked result) : w'.Decides blocked result := by
  cases h with
  | rejected validates verdict =>
      exact .rejected validates (verdict.later fun hrecorded => grows.recorded _ _ hrecorded)
  | settled accepted hsignal =>
      exact .settled (grows.accepted accepted) (grows.signals _ _ hsignal)

theorem Blocked.Sound.mono {blocked : Blocked} (h : blocked.Sound w) : blocked.Sound w' :=
  fun mark idle => grows.within (h mark idle)

theorem SubmitCall.Unsent.mono {call : SubmitCall} (h : call.Unsent w)
    (unsent : w'.awaits call.signal = w.awaits call.signal) : call.Unsent w' :=
  ⟨h.given.trans_le grows.next, unsent.trans h.unsent,
    h.before.trans (grows.made call.queue).length_le⟩

end Grows

section Rules
variable {w w' : WaitWorld} {taken left : Multiset WaitTask} (rule : WaitRule w taken w' left)
include rule

theorem waitRule_grows (hw : w.Sound) (h : ∀ task ∈ taken, task.Sound w) (polls : w.Polls taken) :
    w.Grows w' := by
  cases rule with
  | scopes rule =>
      have observer := leaves_one (polls.one (Multiset.mem_singleton_self _))
      exact { WaitWorld.Grows.refl w with recorded := pollRule_stays rule polls.scopes observer }
  | foreign queue => exact w.grows_submit queue .foreign
  | retire _ => exact w.grows_retire _
  | call => exact w.grows_fresh
  | submit =>
      have unsent : SubmitCall.Unsent w _ := h _ (Multiset.mem_singleton_self _)
      exact (w.grows_submit _ _).await unsent.unsent _
  | map _ => exact w.grows_fresh.await (hw.fresh _ le_rfl) _
  | settle => exact w.grows_settle _ _
  | lock | register | unwindBefore | unwindAfter | unlock | run | drop | observe | observed | wait
  | plain | validates | undecided | rejected | accepted | found | unsettled | poll | pollFails
  | wake => exact { WaitWorld.Grows.refl w with }

theorem waitRule_awaits {signal : SignalId} (given : signal < w.nextSignal)
    (apart : .unsent signal ∉ (taken.map WaitTask.claims).sum) :
    w'.awaits signal = w.awaits signal := by
  cases rule with
  | submit =>
      refine Function.update_of_ne (fun heq => apart ?_) _ _
      subst heq
      simp [WaitTask.claims]
  | map => exact Function.update_of_ne given.ne _ _
  | @settle signal result =>
      rw [WaitWorld.settle]
      split <;> rfl
  | foreign | retire | call | lock | register | unwindBefore | unwindAfter | unlock | run | drop
  | observe | scopes | observed | wait | plain | validates | undecided | rejected | accepted
  | found | unsettled | poll | pollFails | wake => rfl

/-- Who does not have the lock submits nothing of this module. -/
theorem waitRule_foreign (apart : .bind ∉ (taken.map WaitTask.claims).sum) (queue : QueueId) :
    ∃ n, w'.made queue = w.made queue ++ List.replicate n .foreign := by
  have same : w'.made = w.made → ∃ n, w'.made queue = w.made queue ++ List.replicate n .foreign :=
    fun h => ⟨0, by rw [h, List.replicate_zero, List.append_nil]⟩
  cases rule with
  | foreign other =>
      by_cases h : queue = other
      · subst h
        exact ⟨1, by simp [WaitWorld.submit]⟩
      · exact ⟨0, by simp [WaitWorld.submit, h]⟩
  | submit => exact absurd (by simp [WaitTask.claims]) apart
  | @settle signal result =>
      refine same ?_
      rw [WaitWorld.settle]
      split <;> rfl
  | retire | call | lock | register | unwindBefore | unwindAfter | unlock | map | run | drop
  | observe | scopes | observed | wait | plain | validates | undecided | rejected | accepted
  | found | unsettled | poll | pollFails | wake => exact same rfl

end Rules

/-- Whatever other code submits, the callback that is to be registered is bound. -/
theorem WaitWorld.Bound.foreign {w w' : WaitWorld} {signal : SignalId} {queue : QueueId}
    {n : Nat} (h : w.Bound signal (w.now queue))
    (more : w'.made queue = w.made queue ++ List.replicate n .foreign) :
    w'.Bound signal (w'.now queue) := by
  obtain ⟨i, hi, hlt, -, between⟩ := h
  have hlt : i < (w.made queue).length := hlt
  refine ⟨i, ?_, ?_, le_rfl, fun j hij hj => ?_⟩
  · show (w'.made queue)[i]? = _
    rw [more, List.getElem?_append_left hlt]
    exact hi
  · show i < (w'.made queue).length
    rw [more, List.length_append]
    omega
  · change j < (w'.made queue).length at hj
    show (w'.made queue)[j]? = _
    rw [more, List.length_append, List.length_replicate] at *
    by_cases hold : j < (w.made queue).length
    · rw [List.getElem?_append_left hold]
      exact between j hij hold
    · rw [List.getElem?_append_right (by omega), List.getElem?_replicate, if_pos (by omega)]

theorem waitRule_stable {w w' : WaitWorld} {taken left : Multiset WaitTask}
    (rule : WaitRule w taken w' left) (grows : w.Grows w') {task : WaitTask}
    (apart : Disjoint task.claims (taken.map WaitTask.claims).sum) (h : task.Sound w) :
    task.Sound w' := by
  have unclaimed : ∀ claim ∈ task.claims, claim ∉ (taken.map WaitTask.claims).sum :=
    fun claim hmem htaken => Multiset.disjoint_left.mp apart hmem htaken
  cases task with
  | entering call | bound call =>
      have unsent : call.Unsent w := h
      exact unsent.mono grows
        (waitRule_awaits rule unsent.given (unclaimed _ (by simp [WaitTask.claims])))
  | submitted call =>
      obtain ⟨n, more⟩ := waitRule_foreign rule (unclaimed _ (by simp [WaitTask.claims])) call.queue
      exact ⟨h.1.foreign more, grows.within h.2⟩
  | leaving call => exact fun idle => grows.within (h idle)
  | registered callback => exact ⟨grows.covers h.1, fun own => grows.bound (h.2 own)⟩
  | finishing signal result => exact fun ok => grows.proven (h ok)
  | observing o waits =>
      exact fun blocked hblocked => ⟨(h blocked hblocked).1.mono grows, (h blocked hblocked).2⟩
  | checking blocked => exact ⟨Blocked.Sound.mono grows h.1, grows.accepted h.2⟩
  | looking blocked | polling blocked | sleeping blocked => exact Blocked.Sound.mono grows h

section Keeps
variable {w : WaitWorld} (h : w.Sound)
include h

/-- No own submission is made, no signal is settled and no wait ends. -/
theorem WaitWorld.Sound.keep {w' : WaitWorld} (grows : w.Grows w')
    (made : ∀ queue (i : Nat) signal, (w'.made queue)[i]? = some (Origin.own signal) →
      (w.made queue)[i]? = some (Origin.own signal))
    (awaits : w'.awaits = w.awaits) (signals : w'.signals = w.signals)
    (waited : w'.waited = w.waited) : w'.Sound := by
  refine ⟨fun queue i signal hi => ?_, fun signal hsignal => ?_, fun signal hsignal => ?_,
    fun result hresult => ?_, fun result hresult mark idle => ?_⟩
  · rw [awaits]
    exact h.made queue i signal (made queue i signal hi)
  · rw [awaits]
    exact h.fresh signal (grows.next.trans hsignal)
  · rw [signals] at hsignal
    exact grows.proven (h.proven signal hsignal)
  · rw [waited] at hresult
    exact (h.waited result hresult).imp_left grows.decides
  · rw [waited] at hresult
    exact grows.within (h.idle result hresult mark idle)

theorem WaitWorld.Sound.foreign (queue : QueueId) : (w.submit queue .foreign).Sound := by
  refine h.keep (w.grows_submit queue .foreign) (fun other i signal hi => ?_) rfl rfl rfl
  by_cases hother : other = queue
  · subst hother
    have hi : (w.made other ++ [.foreign])[i]? = some (.own signal) := by
      simpa [WaitWorld.submit] using hi
    rw [List.getElem?_append] at hi
    split at hi
    · exact hi
    · rw [List.getElem?_singleton] at hi
      split at hi <;> cases hi
  · simpa [WaitWorld.submit, hother] using hi

theorem WaitWorld.Sound.await (w' : WaitWorld) {signal : SignalId} {mark : Mark}
    (grows : w.Grows (w'.await signal mark))
    (none : w.awaits signal = none) (given : signal < w'.nextSignal)
    (made : ∀ queue (i : Nat) other, (w'.made queue)[i]? = some (Origin.own other) →
      (w.made queue)[i]? = some (Origin.own other) ∨ other = signal ∧ mark = ⟨queue, i + 1⟩)
    (awaits : w'.awaits = w.awaits) (signals : w'.signals = w.signals)
    (waited : w'.waited = w.waited) : (w'.await signal mark).Sound := by
  have others : ∀ other mark', w.awaits other = some mark' →
      Function.update w'.awaits signal (some mark) other = some mark' := fun other mark' hmark' =>
    grows.awaits other mark' hmark'
  refine ⟨fun queue i other hi => ?_, fun other hother => ?_, fun other hother => ?_,
    fun result hresult => ?_, fun result hresult mark' idle => ?_⟩
  · cases made queue i other hi with
    | inl hold => exact others other _ (h.made queue i other hold)
    | inr hnew =>
        obtain ⟨rfl, rfl⟩ := hnew
        exact Function.update_self _ _ _
  · show Function.update w'.awaits signal (some mark) other = _
    rw [Function.update_of_ne (fun heq => ?_), awaits]
    · exact h.fresh other (grows.next.trans hother)
    · subst heq
      exact absurd given (Nat.not_lt_of_le hother)
  · have hother : w'.signals other = some (.ok ()) := hother
    rw [signals] at hother
    exact grows.proven (h.proven other hother)
  · have hresult : result ∈ w'.waited := hresult
    rw [waited] at hresult
    exact (h.waited result hresult).imp_left grows.decides
  · have hresult : result ∈ w'.waited := hresult
    rw [waited] at hresult
    exact grows.within (h.idle result hresult mark' idle)

theorem WaitWorld.Sound.send {call : SubmitCall} (unsent : call.Unsent w) :
    (w.send call).Sound := by
  refine h.await (w.submit call.queue (.own call.signal))
    ((w.grows_submit _ _).await unsent.unsent _) unsent.unsent unsent.given
    (fun queue i other hi => ?_) rfl rfl rfl
  by_cases hqueue : queue = call.queue
  · subst hqueue
    have hi : (w.made call.queue ++ [.own call.signal])[i]? = some (.own other) := by
      simpa [WaitWorld.submit] using hi
    rw [List.getElem?_append] at hi
    split at hi
    · exact .inl hi
    · rw [List.getElem?_singleton] at hi
      split at hi
      · cases hi
        have hi : i = (w.made call.queue).length := by omega
        exact .inr ⟨rfl, by rw [hi]⟩
      · cases hi
  · exact .inl (by simpa [WaitWorld.submit, hqueue] using hi)

theorem WaitWorld.Sound.settle {signal : SignalId} {result : Outcome}
    (proof : result = .ok () → w.Proven signal) : (w.settle signal result).Sound := by
  have grows := w.grows_settle signal result
  rw [WaitWorld.settle] at grows ⊢
  split
  · exact h
  · next hnone =>
      rw [hnone] at grows
      refine ⟨h.made, h.fresh, fun other hother => ?_, fun waited hwaited => ?_,
        fun waited hwaited mark idle => h.idle waited hwaited mark idle⟩
      · change Function.update w.signals signal (some result) other = _ at hother
        by_cases heq : other = signal
        · subst heq
          rw [Function.update_self] at hother
          exact proof (Option.some.inj hother)
        · rw [Function.update_of_ne heq] at hother
          exact h.proven other hother
      · exact (h.waited waited hwaited).imp_left grows.decides

theorem WaitWorld.Sound.wait {blocked : Blocked} {result : Outcome}
    (cause : w.Decides blocked result ∨
      ∃ error : WaitError, error.OfPoll ∧ result = .error error)
    (within : blocked.Sound w) : (w.wait blocked result).Sound := by
  have grows : w.Grows (w.wait blocked result) := { WaitWorld.Grows.refl w with }
  refine ⟨h.made, h.fresh, h.proven, List.forall_mem_cons.mpr ⟨cause.imp_left grows.decides, ?_⟩,
    List.forall_mem_cons.mpr ⟨within, h.idle⟩⟩
  exact fun waited hwaited => (h.waited waited hwaited).imp_left grows.decides

end Keeps

theorem SubmitCall.waits_sound {w : WaitWorld} {call : SubmitCall}
    (h : call.idle = true → w.Within call.signal ⟨call.queue, call.before⟩) :
    ∀ task ∈ call.waits, task.Sound w := by
  rw [waits]
  split
  · next idle =>
      refine leaves_one fun mark hmark => ?_
      cases hmark
      exact h idle
  · exact leaves_none

theorem WaitWorld.Sound.covers {w : WaitWorld} {signal : SignalId} {queue : QueueId} {i : Nat}
    (h : w.Sound) (hi : (w.made queue)[i]? = some (.own signal)) :
    w.Covers signal (w.now queue) :=
  ⟨i + 1, (List.getElem?_eq_some_iff.mp hi).1, h.made queue i signal hi⟩

/-- The submission is the queue's last. -/
theorem SubmitCall.Unsent.send {w : WaitWorld} {call : SubmitCall} (h : call.Unsent w) :
    WaitTask.Sound (w.send call) (.submitted call) := by
  have made : (w.send call).made call.queue = w.made call.queue ++ [.own call.signal] :=
    Function.update_self _ _ _
  refine ⟨⟨(w.made call.queue).length, ?_, ?_, le_rfl, fun j hij hj => ?_⟩,
    _, h.before.trans (Nat.le_succ _), Function.update_self _ _ _⟩
  · show ((w.send call).made call.queue)[_]? = _
    rw [made, List.getElem?_append_right le_rfl, Nat.sub_self]
    rfl
  · show _ < ((w.send call).made call.queue).length
    rw [made, List.length_append]
    exact Nat.lt_succ_self _
  · change j < ((w.send call).made call.queue).length at hj
    rw [made, List.length_append, List.length_singleton] at hj
    omega

theorem waitRule_sound {w w' : WaitWorld} {taken left : Multiset WaitTask}
    (rule : WaitRule w taken w' left) (hw : w.Sound) (h : ∀ task ∈ taken, task.Sound w)
    (polls : w.Polls taken) : w'.Sound ∧ ∀ task ∈ left, task.Sound w' := by
  have keep : ∀ {w' : WaitWorld}, w.Grows w' → w'.made = w.made → w'.awaits = w.awaits →
      w'.signals = w.signals → w'.waited = w.waited → w'.Sound :=
    fun grows made => hw.keep grows fun queue i signal hi => by rwa [made] at hi
  have grows := waitRule_grows rule hw h polls
  cases rule with
  | foreign queue => exact ⟨hw.foreign queue, leaves_none⟩
  | retire => exact ⟨keep grows rfl rfl rfl rfl, leaves_none⟩
  | call queue idle =>
      refine ⟨keep grows rfl rfl rfl rfl, leaves_one ?_⟩
      exact ⟨Nat.lt_succ_self _, hw.fresh _ le_rfl, le_rfl⟩
  | lock =>
      have unsent : SubmitCall.Unsent w _ := h _ (Multiset.mem_singleton_self _)
      exact ⟨keep grows rfl rfl rfl rfl, leaves_one (unsent.mono grows rfl)⟩
  | submit =>
      have unsent : SubmitCall.Unsent w _ := h _ (Multiset.mem_singleton_self _)
      exact ⟨hw.send unsent, leaves_one unsent.send⟩
  | register =>
      obtain ⟨bound, within⟩ := h _ (Multiset.mem_singleton_self _)
      have ⟨i, hi, _⟩ := bound
      exact ⟨hw, leaves_two (fun _ => within) ⟨hw.covers hi, fun _ => bound⟩⟩
  | unwindBefore | unwindAfter =>
      exact ⟨hw, leaves_two (fun hfalse => (by cases hfalse)) fun hok => (by cases hok)⟩
  | unlock =>
      have sound := h _ (Multiset.mem_singleton_self _)
      exact ⟨keep grows rfl rfl rfl rfl,
        SubmitCall.waits_sound fun idle => grows.within (sound idle)⟩
  | map hmark =>
      refine ⟨hw.await w.fresh grows (hw.fresh _ le_rfl) (Nat.lt_succ_self _)
        (fun _ _ _ => .inl) rfl rfl rfl, leaves_two ⟨?_, ?_⟩ ?_⟩
      · exact ⟨_, le_rfl, Function.update_self _ _ _⟩
      · exact fun hfalse => (by cases hfalse)
      · exact fun _ hnone => (by cases hnone)
  | run answers =>
      obtain ⟨⟨made, hmade, awaits⟩, -⟩ := h _ (Multiset.mem_singleton_self _)
      refine ⟨hw, leaves_one fun ok => ?_⟩
      cases answers with
      | retired reached => exact ⟨_, awaits, hmade.trans reached⟩
      | unmapped => cases ok
  | drop => exact ⟨hw, leaves_one fun hok => (by cases hok)⟩
  | settle => exact ⟨hw.settle (h _ (Multiset.mem_singleton_self _)), leaves_none⟩
  | observe => exact ⟨hw, leaves_one fun _ hnone => (by cases hnone)⟩
  | scopes rule =>
      have waiting := h _ (Multiset.mem_singleton_self _)
      refine ⟨keep grows rfl rfl rfl rfl, leaves_one fun blocked hblocked => ?_⟩
      obtain ⟨sound, validates⟩ := waiting blocked hblocked
      exact ⟨sound.mono grows, validates.trans (congrArg some (pollRule_tree rule rfl rfl).symm)⟩
  | observed => exact ⟨keep grows rfl rfl rfl rfl, leaves_none⟩
  | wait => exact ⟨hw, leaves_one fun _ hnone => (by cases hnone)⟩
  | plain none =>
      have sound := h _ (Multiset.mem_singleton_self _)
      exact ⟨hw, leaves_one ⟨sound, fun tree validates => (by cases none.symm.trans validates)⟩⟩
  | validates tree =>
      have sound := h _ (Multiset.mem_singleton_self _)
      refine ⟨hw, leaves_one fun blocked hblocked => ?_⟩
      cases hblocked
      exact ⟨sound, tree⟩
  | undecided =>
      obtain ⟨sound, -⟩ := h _ (Multiset.mem_singleton_self _) _ rfl
      exact ⟨keep grows rfl rfl rfl rfl, leaves_one (Blocked.Sound.mono grows sound)⟩
  | @rejected _ o blocked error hphase =>
      obtain ⟨sound, validates⟩ := h _ (Multiset.mem_singleton_self _) _ rfl
      have verdict := (polls.one (Multiset.mem_singleton_self o)).answered hphase
      have finished : w.Grows (w.finish o (some (.error error))) :=
        { WaitWorld.Grows.refl w with }
      have hw' : (w.finish o (some (.error error))).Sound := keep finished rfl rfl rfl rfl
      exact ⟨hw'.wait (.inl (.rejected validates verdict)) (sound.mono finished), leaves_none⟩
  | accepted hphase =>
      obtain ⟨sound, validates⟩ := h _ (Multiset.mem_singleton_self _) _ rfl
      have verdict := (polls.one (Multiset.mem_singleton_self _)).answered hphase
      refine ⟨keep grows rfl rfl rfl rfl, leaves_one ⟨sound.mono grows, fun tree hscoped => ?_⟩⟩
      cases validates.symm.trans hscoped
      exact verdict
  | found hsignal =>
      obtain ⟨sound, accepted⟩ := h _ (Multiset.mem_singleton_self _)
      exact ⟨hw.wait (.inl (.settled accepted hsignal)) sound, leaves_none⟩
  | unsettled =>
      obtain ⟨sound, -⟩ := h _ (Multiset.mem_singleton_self _)
      exact ⟨hw, leaves_one sound⟩
  | pollFails failed =>
      exact ⟨hw.wait (.inr ⟨_, failed, rfl⟩) (h _ (Multiset.mem_singleton_self _)), leaves_none⟩
  | poll | wake =>
      have sound := h _ (Multiset.mem_singleton_self _)
      exact ⟨hw, leaves_one sound⟩

structure WaitConfig.Sound (c : WaitConfig) : Prop where
  apart : c.shared.Apart (c.held WaitTask.claims)
  sound : c.shared.Sound ∧ ∀ task ∈ c.running, task.Sound c.shared

theorem reachable_waits {c : WaitConfig} (hc : Reachable WaitStart WaitStep c) :
    WaitConfig.Sound c := by
  suffices h : Reachable WaitStart WaitStep c ∧ WaitConfig.Sound c from h.2
  refine hc.invariant (I := fun c => Reachable WaitStart WaitStep c ∧ WaitConfig.Sound c) ?_
    fun c c' h step => ?_
  · rintro c rfl
    refine ⟨.start rfl, ⟨Multiset.nodup_zero, fun _ => Multiset.notMem_zero _,
      fun _ _ => Multiset.notMem_zero _⟩, ⟨?_, fun _ _ => rfl, ?_, ?_, ?_⟩, leaves_none⟩
    · exact fun _ _ _ hi => (by simp at hi)
    · exact fun _ hsignal => (by cases hsignal)
    · exact fun _ hmem => absurd hmem List.not_mem_nil
    · exact fun _ hmem => absurd hmem List.not_mem_nil
  · obtain ⟨hc, sound⟩ := h
    have polls := reachable_polls hc
    refine ⟨hc.next step, step.apart sound.apart, step.keeps_known (K := fun w => w.scopes.Sound)
      (L := fun w task => ∀ o ∈ task.observers, o.Sound w.scopes) ?_ sound.apart.nodup
      polls.scopes polls.observers sound.sound⟩
    intro w taken w' left rule scopes observers hw htaken
    obtain ⟨hw', hleft⟩ := waitRule_sound rule hw htaken ⟨scopes, observers⟩
    exact ⟨hw', hleft, fun task disjoint =>
      waitRule_stable rule (waitRule_grows rule hw htaken ⟨scopes, observers⟩) disjoint⟩

/-! What a wait has waited for -/

/-- A completion callback waits for its own submission, and past it for submissions of other
code alone: on a queue that has none of these, for its own submission exactly. -/
theorem callback_bound {c : WaitConfig} (hc : Reachable WaitStart WaitStep c)
    {callback : Callback} (h : .registered callback ∈ c.running)
    (own : callback.submission = true) :
    c.shared.Bound callback.signal callback.mark ∧
      (.foreign ∉ c.shared.made callback.mark.queue →
        c.shared.awaits callback.signal = some callback.mark) := by
  have sound := reachable_waits hc
  have bound := (sound.sound.2 _ h).2 own
  refine ⟨bound, fun none => ?_⟩
  obtain ⟨i, hi, hlt, -, between⟩ := bound
  have last : callback.mark.made = i + 1 := by
    by_contra hne
    exact none (List.mem_of_getElem? (between (i + 1) (by omega) (by omega)))
  rw [sound.sound.1.made _ i _ hi, ← last]

theorem waits_started : Reachable WaitStart WaitStep
    ⟨⟨false, fun _ => [], fun _ => 0, fun _ => none, .new, 0, fun _ => none, []⟩, 0⟩ := .start rfl

/-- Other code submits between a submission and its registration. -/
theorem slipped_in : ∃ c : WaitConfig, Reachable WaitStart WaitStep c ∧
    .registered ⟨0, ⟨0, 2⟩, true⟩ ∈ c.running := by
  have called := waits_started.fire 0 (.call 0 false) rfl
  have locked := called.fire 0 (.lock rfl) rfl
  have submitted := locked.fire 0 .submit rfl
  have foreign := submitted.fire _ (.foreign 0) (zero_add _).symm
  have registered := foreign.fire 0 .register (by rw [zero_add])
  exact ⟨_, registered, Multiset.mem_cons_of_mem (Multiset.mem_singleton_self _)⟩

theorem callback_bound_between : ∃ c : WaitConfig, Reachable WaitStart WaitStep c ∧
    .registered ⟨0, ⟨0, 2⟩, true⟩ ∈ c.running ∧ c.shared.Bound 0 ⟨0, 2⟩ := by
  obtain ⟨c, hc, registered⟩ := slipped_in
  exact ⟨c, hc, registered, (callback_bound hc registered rfl).1⟩

/-- A `wait_idle` and another wait for its submission, which has retired. -/
theorem idle_retired : ∃ c : WaitConfig, Reachable WaitStart WaitStep c ∧
    c.shared.waited = [⟨⟨0, none, none⟩, .ok ()⟩, ⟨⟨0, none, some ⟨0, 1⟩⟩, .ok ()⟩] := by
  have foreign := waits_started.fire 0 (.foreign 0) rfl
  have called := foreign.fire 0 (.call 0 true) rfl
  have locked := called.fire 0 (.lock rfl) rfl
  have submitted := locked.fire 0 .submit rfl
  have registered := submitted.fire 0 .register rfl
  have once := registered.fire _ (@WaitRule.retire _ 0 (by decide)) (zero_add _).symm
  have twice := once.fire _ (@WaitRule.retire _ 0 (by decide)) (zero_add _).symm
  have left := twice.fire {.registered ⟨0, ⟨0, 2⟩, true⟩} .unlock (by rfl)
  have ran := left.fire {.looking ⟨0, none, some ⟨0, 1⟩⟩} (.run (.retired (le_refl 2)))
    (add_comm _ _)
  have settled := ran.fire {.looking ⟨0, none, some ⟨0, 1⟩⟩} .settle rfl
  have idle := (settled.fire 0 (.plain rfl) rfl).fire 0 (.found rfl) rfl
  have other := (idle.fire 0 (.wait 0 none) rfl).fire 0 (.plain rfl) rfl
  have found := other.fire 0 (.found rfl) rfl
  exact ⟨_, found, rfl⟩

/-- A wait that ends well has waited until its submission, or what its map waits for, had
retired; `wait_idle` has waited for all that was there when it was called. -/
theorem wait_retired {c : WaitConfig} (hc : Reachable WaitStart WaitStep c) {waited : Waited}
    (h : waited ∈ c.shared.waited) (ok : waited.result = .ok ()) :
    c.shared.Proven waited.blocked.signal ∧
      (∀ queue (i : Nat), (c.shared.made queue)[i]? = some (.own waited.blocked.signal) →
        i < c.shared.retired queue) ∧
      ∀ mark, waited.blocked.idle = some mark → c.shared.Reached mark := by
  have sound := (reachable_waits hc).sound.1
  have proven : c.shared.Proven waited.blocked.signal := by
    have told := sound.waited waited h
    rw [ok] at told
    obtain (_ | ⟨_, hsignal⟩) | ⟨error, -, heq⟩ := told
    · exact sound.proven _ hsignal
    · cases heq
  refine ⟨proven, fun queue i hi => ?_, fun mark hmark => ?_⟩
  · obtain ⟨own, awaits, reached⟩ := proven
    rw [sound.made queue i _ hi] at awaits
    cases awaits
    exact reached
  · obtain ⟨own, awaits, reached⟩ := proven
    obtain ⟨made, hmade, awaits'⟩ := sound.idle waited h mark hmark
    rw [awaits] at awaits'
    cases awaits'
    exact hmade.trans reached

theorem wait_retired_idle : ∃ c : WaitConfig, Reachable WaitStart WaitStep c ∧
    ⟨⟨0, none, some ⟨0, 1⟩⟩, .ok ()⟩ ∈ c.shared.waited ∧ c.shared.Proven 0 ∧
      c.shared.Reached ⟨0, 1⟩ := by
  obtain ⟨c, hc, waited⟩ := idle_retired
  have mem : (⟨⟨0, none, some ⟨0, 1⟩⟩, .ok ()⟩ : Waited) ∈ c.shared.waited := by simp [waited]
  obtain ⟨proven, -, idle⟩ := wait_retired hc mem rfl
  exact ⟨c, hc, mem, proven, idle _ rfl⟩

/-- Whoever waits for a submission, and whenever, is told the same, unless its poll of the device
fails. -/
theorem waits_agree {c : WaitConfig} (hc : Reachable WaitStart WaitStep c) {one other : Waited}
    (hone : one ∈ c.shared.waited) (hother : other ∈ c.shared.waited)
    (signal : one.blocked.signal = other.blocked.signal)
    (validation : one.blocked.validation = other.blocked.validation) :
    one.result = other.result ∨ ∃ error : WaitError, error.OfPoll ∧
      (one.result = .error error ∨ other.result = .error error) := by
  have sound := (reachable_waits hc).sound.1
  cases sound.waited one hone with
  | inr failed => exact .inr (failed.imp fun _ h => ⟨h.1, .inl h.2⟩)
  | inl hone =>
      cases sound.waited other hother with
      | inr failed => exact .inr (failed.imp fun _ h => ⟨h.1, .inr h.2⟩)
      | inl hother => exact .inl (hone.unique signal validation hother)

/-- Two waits poll one error scope, which rejects: the second finds it taken, and looks again
after it has slept. -/
theorem waits_agree_rejected : ∃ (c : WaitConfig) (one other : Waited),
    Reachable WaitStart WaitStep c ∧ c.shared.waited = [one, other] ∧
      one.blocked.validation = some (.future (.submission 0)) ∧ one.blocked = other.blocked ∧
      other.result = .error (.submitRejected "oom") ∧
      (one.result = other.result ∨ ∃ error : WaitError, error.OfPoll ∧
        (one.result = .error error ∨ other.result = .error error)) := by
  let tree : Validation := .future (.submission 0)
  have first := (waits_started.fire 0 (.wait 0 (some tree)) rfl).fire 0 (.validates rfl) rfl
  have taken := first.fire 0 (.scopes (.looks _ _ rfl)) rfl
  have second := taken.fire _ (.wait 0 (some tree)) (zero_add _).symm
  have observing := second.fire _ (.validates rfl) rfl
  have away := observing.fire _ (.scopes (.looks _ _ rfl)) rfl
  have slept := ((away.fire _ (.undecided rfl) rfl).fire _ .poll rfl).fire _ .wake rfl
  have heard := slept.fire _ (.scopes (.polls _ _ rfl (.ready none (some "oom") none)))
    (add_comm _ _)
  have stored := heard.fire _ (.scopes (.stores _ _ rfl)) rfl
  have rejected := stored.fire _ (.rejected rfl) rfl
  have again := (rejected.fire 0 (.validates rfl) rfl).fire 0 (.scopes (.looks _ _ rfl)) rfl
  have told := again.fire 0 (.rejected rfl) rfl
  exact ⟨_, _, _, told, rfl, rfl, rfl, rfl, waits_agree told List.mem_cons_self
    (List.mem_cons_of_mem _ List.mem_cons_self) rfl rfl⟩

end GpuInfo
