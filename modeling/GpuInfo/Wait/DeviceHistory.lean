import GpuInfo.StateProgram
import GpuInfo.Wait.ScopeProgram
import Mathlib.Algebra.Order.Group.Nat

/-!
What the device never takes back. `Later` is all that may happen between two moments:
counters grow, outcomes and losses stay, and what concerns an older signal or lease
is settled. `Observed` is what may happen while the queue's owner only looks: then
nothing is submitted or registered on its behalf. Both hold whatever the schedule does.
-/

namespace GpuInfo
open StateProgram

namespace Device

/-- A scope's recorded outcome. -/
def outcome (d : Device) (scope : ScopeId) : Option Outcome :=
  (d.scopes scope).bind (·.outcome)

/-- Invariants of the device under its own steps and the owner's. -/
structure Sound (d : Device) : Prop where
  retired_le : d.retired ≤ d.submitted
  sent_le : ∀ {signal number}, d.sent signal = some number → number ≤ d.submitted
  callback : ∀ {signal awaited}, d.callbacks signal = some awaited →
    awaited ≤ d.submitted ∧ ∃ number, d.sent signal = some number ∧ number ≤ awaited
  completed : ∀ {signal}, d.signals signal = some (.ok ()) →
    ∃ awaited, d.callbacks signal = some awaited ∧ awaited ≤ d.retired
  rejected : ∀ {scope error}, d.outcome scope = some (.error error) →
    ∃ message, error = .submitRejected message
  newSignal : ∀ {signal}, d.nextSignal ≤ signal →
    d.sent signal = none ∧ d.callbacks signal = none ∧ d.unwound signal = false ∧
      d.scopes (.submission signal) = none
  newLease : ∀ {lease}, d.nextLease ≤ lease → d.scopes (.recording lease) = none

structure Later (d d' : Device) : Prop where
  submitted : d.submitted ≤ d'.submitted
  retired : d.retired ≤ d'.retired
  nextSignal : d.nextSignal ≤ d'.nextSignal
  nextLease : d.nextLease ≤ d'.nextLease
  loss : ∀ {reason}, d.loss = some reason → d'.loss = some reason
  outcome : ∀ {scope outcome}, d.outcome scope = some outcome → d'.outcome scope = some outcome
  old : ∀ {signal}, signal < d.nextSignal →
    d'.sent signal = d.sent signal ∧ d'.callbacks signal = d.callbacks signal ∧
      d'.unwound signal = d.unwound signal
  present : ∀ {scope}, d.scopes scope ≠ none → d'.scopes scope ≠ none
  recording : ∀ {lease}, lease < d.nextLease → d.scopes (.recording lease) = none →
    d'.scopes (.recording lease) = none

/-- Nothing but looking happened. -/
structure Observed (d d' : Device) : Prop where
  submitted : d.submitted ≤ d'.submitted
  retired : d.retired ≤ d'.retired
  loss : ∀ {reason}, d.loss = some reason → d'.loss = some reason
  outcome : ∀ {scope outcome}, d.outcome scope = some outcome → d'.outcome scope = some outcome
  present : ∀ scope, d'.scopes scope = none ↔ d.scopes scope = none
  sent : d'.sent = d.sent
  callbacks : d'.callbacks = d.callbacks
  unwound : d'.unwound = d.unwound
  passed : d'.passed = d.passed
  nextSignal : d'.nextSignal = d.nextSignal
  nextLease : d'.nextLease = d.nextLease
  polledLoss : d'.polledLoss = d.polledLoss
  sound : d.Sound → d'.Sound

variable {d d' d'' : Device}

theorem Later.refl (d : Device) : Later d d :=
  ⟨le_rfl, le_rfl, le_rfl, le_rfl, id, id, fun _ => ⟨rfl, rfl, rfl⟩, id, fun _ => id⟩

theorem Later.trans (h : Later d d') (h' : Later d' d'') : Later d d'' where
  submitted := h.submitted.trans h'.submitted
  retired := h.retired.trans h'.retired
  nextSignal := h.nextSignal.trans h'.nextSignal
  nextLease := h.nextLease.trans h'.nextLease
  loss hloss := h'.loss (h.loss hloss)
  outcome houtcome := h'.outcome (h.outcome houtcome)
  old hold := by
    obtain ⟨hsent, hcallbacks, hunwound⟩ := h.old hold
    obtain ⟨hsent', hcallbacks', hunwound'⟩ := h'.old (hold.trans_le h.nextSignal)
    exact ⟨hsent'.trans hsent, hcallbacks'.trans hcallbacks, hunwound'.trans hunwound⟩
  present hscope := h'.present (h.present hscope)
  recording hold hscope := h'.recording (hold.trans_le h.nextLease) (h.recording hold hscope)

theorem Observed.refl (d : Device) : Observed d d :=
  ⟨le_rfl, le_rfl, id, id, fun _ => Iff.rfl, rfl, rfl, rfl, rfl, rfl, rfl, rfl, id⟩

theorem Observed.trans (h : Observed d d') (h' : Observed d' d'') : Observed d d'' where
  submitted := h.submitted.trans h'.submitted
  retired := h.retired.trans h'.retired
  loss hloss := h'.loss (h.loss hloss)
  outcome houtcome := h'.outcome (h.outcome houtcome)
  present scope := (h'.present scope).trans (h.present scope)
  sent := h'.sent.trans h.sent
  callbacks := h'.callbacks.trans h.callbacks
  unwound := h'.unwound.trans h.unwound
  passed := h'.passed.trans h.passed
  nextSignal := h'.nextSignal.trans h.nextSignal
  nextLease := h'.nextLease.trans h.nextLease
  polledLoss := h'.polledLoss.trans h.polledLoss
  sound hd := h'.sound (h.sound hd)

theorem Observed.later (h : Observed d d') : Later d d' where
  submitted := h.submitted
  retired := h.retired
  nextSignal := h.nextSignal.ge
  nextLease := h.nextLease.ge
  loss := h.loss
  outcome := h.outcome
  old _ := by rw [h.sent, h.callbacks, h.unwound]; exact ⟨rfl, rfl, rfl⟩
  present {scope} hscope := mt (h.present scope).mp hscope
  recording {lease} _ hscope := (h.present (.recording lease)).mpr hscope

/-! One step of the device or of the others. -/

theorem outcome_setScope (scope scope' : ScopeId) (state : ValidationState) :
    (d.setScope scope state).outcome scope' =
      if scope' = scope then state.outcome else d.outcome scope' := by
  simp only [outcome, setScope, Function.update_apply]
  split <;> simp

/-- A change of the signals alone, if only callbacks that are due report success. -/
theorem Observed.ofSignals {signals : SignalId → Option Outcome}
    (completed : d.Sound → ∀ {signal}, signals signal = some (.ok ()) →
      ∃ awaited, d.callbacks signal = some awaited ∧ awaited ≤ d.retired) :
    Observed d { d with signals } where
  submitted := le_rfl
  retired := le_rfl
  loss := id
  outcome := id
  present _ := Iff.rfl
  sent := rfl
  callbacks := rfl
  unwound := rfl
  passed := rfl
  nextSignal := rfl
  nextLease := rfl
  polledLoss := rfl
  sound hd := { hd with completed := completed hd }

theorem Observed.finish (signal : SignalId) (result : Outcome)
    (due : result = .ok () →
      ∃ awaited, d.callbacks signal = some awaited ∧ awaited ≤ d.retired) :
    Observed d (d.finish signal result) := by
  unfold Device.finish
  split
  · exact .refl d
  · refine .ofSignals fun hd signal' h => ?_
    rw [Function.update_apply] at h
    split at h
    · rename_i heq
      exact heq ▸ due (Option.some.inj h)
    · exact hd.completed h

/-- A change of one scope that is there, if what it recorded stays and an error it
records is a rejection. -/
theorem Observed.setScope {scope : ScopeId} {state state' : ValidationState}
    (h : d.scopes scope = some state)
    (kept : state.outcome = none ∨ state'.outcome = state.outcome)
    (rejected : ∀ error, state'.outcome = some (.error error) →
      ∃ message, error = .submitRejected message) :
    Observed d (d.setScope scope state') where
  submitted := le_rfl
  retired := le_rfl
  loss := id
  outcome {scope'} houtcome hold := by
    rw [outcome_setScope]
    split
    · rename_i heq
      rw [heq, Device.outcome, h] at hold
      cases kept with
      | inl hnone => simp [hnone] at hold
      | inr hsame => rwa [hsame]
    · exact hold
  present scope' := by
    simp only [Device.setScope, Function.update_apply]
    split
    · rename_i heq
      simp [heq, h]
    · rfl
  sent := rfl
  callbacks := rfl
  unwound := rfl
  passed := rfl
  nextSignal := rfl
  nextLease := rfl
  polledLoss := rfl
  sound hd := by
    have present : ∀ scope', d.scopes scope' = none →
        (d.setScope scope state').scopes scope' = none := by
      intro scope' hnone
      have hne : scope' ≠ scope := by
        intro heq
        simp [heq, h] at hnone
      simpa [Device.setScope, hne] using hnone
    refine { hd with rejected := ?_, newSignal := ?_, newLease := ?_ }
    · intro scope' error herror
      rw [outcome_setScope] at herror
      split at herror
      · exact rejected error herror
      · exact hd.rejected herror
    · intro signal hold
      obtain ⟨hsent, hcallback, hunwound, hscope⟩ := hd.newSignal hold
      exact ⟨hsent, hcallback, hunwound, present _ hscope⟩
    · intro lease hold
      exact present _ (hd.newLease hold)

end Device

theorem FutureAnswer.rejected {answer : FutureAnswer} {error : WaitError}
    (h : answer.outcome = some (.error error)) : ∃ message, error = .submitRejected message := by
  cases answer with
  | pending => cases h
  | ready internal memory validation =>
      simp only [outcome, Option.some.injEq] at h
      split at h
      · cases h
      · cases h
        exact ⟨_, rfl⟩
  | panicked payload =>
      cases h
      exact ⟨_, rfl⟩

theorem EnvAct.observed (d : Device) (act : EnvAct) : d.Observed (act.apply d) := by
  cases act with
  | retire =>
      simp only [apply]
      split
      · rename_i hlt
        exact {
          Device.Observed.refl d with
          retired := Nat.le_succ _
          sound := fun hd => { hd with
            retired_le := hlt
            completed := fun h => by
              obtain ⟨awaited, hcallback, hle⟩ := hd.completed h
              exact ⟨awaited, hcallback, Nat.le_succ_of_le hle⟩ } }
      · exact .refl d
  | submitElsewhere =>
      exact {
        Device.Observed.refl d with
        submitted := Nat.le_succ _
        sound := fun hd => { hd with
          retired_le := Nat.le_succ_of_le hd.retired_le
          sent_le := fun h => Nat.le_succ_of_le (hd.sent_le h)
          callback := fun h => ⟨Nat.le_succ_of_le (hd.callback h).1, (hd.callback h).2⟩ } }
  | runCallback signal =>
      simp only [apply]
      split
      · rename_i awaited hcallback
        split
        · rename_i hle
          exact .finish signal _ fun _ => ⟨awaited, hcallback, hle⟩
        · exact .refl d
      · exact .refl d
  | dropCallback signal =>
      simp only [apply]
      split
      · exact .finish signal _ nofun
      · exact .refl d
  | takeFuture scope =>
      simp only [apply]
      split
      · rename_i h
        exact .setScope h (.inl rfl) nofun
      · exact .refl d
  | storeAnswer scope answer =>
      simp only [apply]
      split
      · rename_i h
        exact .setScope h (.inl rfl) fun _ => FutureAnswer.rejected
      · exact .refl d
  | markLost reason =>
      simp only [apply, Device.markLost]
      split
      · exact .refl d
      · rename_i hnone
        exact {
          Device.Observed.refl d with
          loss := fun h => by simp [hnone] at h
          sound := fun hd => { hd with } }

theorem observed_foldl (acts : List EnvAct) (d : Device) :
    d.Observed (acts.foldl EnvAct.apply d) := by
  induction acts generalizing d with
  | nil => exact .refl d
  | cons act acts ih => exact (EnvAct.observed d act).trans (ih _)

/-- A future that the owner has taken out is nobody else's to poll. -/
theorem EnvAct.taken {d : Device} {scope : ScopeId}
    (h : d.scopes scope = some ⟨false, none, false⟩) (act : EnvAct) :
    (act.apply d).scopes scope = some ⟨false, none, false⟩ := by
  have untouched : ∀ scope' state state', d.scopes scope' = some state →
      state ≠ ⟨false, none, false⟩ →
      (d.setScope scope' state').scopes scope = some ⟨false, none, false⟩ := by
    intro scope' state state' hscope' hne
    have hother : scope ≠ scope' := by
      intro heq
      exact hne (Option.some.inj (hscope'.symm.trans (heq ▸ h)))
    simpa [Device.setScope, hother] using h
  have finished : ∀ signal result,
      (d.finish signal result).scopes scope = some ⟨false, none, false⟩ := by
    intro signal result
    simp only [Device.finish]
    split <;> exact h
  cases act with
  | retire =>
      simp only [apply]
      split <;> exact h
  | submitElsewhere => exact h
  | runCallback signal =>
      simp only [apply]
      split
      · split
        · exact finished signal _
        · exact h
      · exact h
  | dropCallback signal =>
      simp only [apply]
      split
      · exact finished signal _
      · exact h
  | takeFuture scope' =>
      simp only [apply]
      split
      · rename_i hscope'
        exact untouched scope' _ _ hscope' (by simp)
      · exact h
  | storeAnswer scope' answer =>
      simp only [apply]
      split
      · rename_i hscope'
        exact untouched scope' _ _ hscope' (by simp)
      · exact h
  | markLost reason =>
      simp only [apply, Device.markLost]
      split <;> exact h

theorem taken_foldl {scope : ScopeId} (acts : List EnvAct) (d : Device)
    (h : d.scopes scope = some ⟨false, none, false⟩) :
    (acts.foldl EnvAct.apply d).scopes scope = some ⟨false, none, false⟩ := by
  induction acts generalizing d with
  | nil => exact h
  | cons act acts ih => exact ih _ (act.taken h)

/-! Looking -/

/-- Looking leaves no trace. -/
structure Watches (w w' : World) : Prop where
  device : w.device.Observed w'.device
  trace : w'.trace = w.trace

theorem Watches.refl (w : World) : Watches w w := ⟨.refl _, rfl⟩

theorem Watches.trans {w w' w'' : World} (h : Watches w w') (h' : Watches w' w'') :
    Watches w w'' :=
  ⟨h.device.trans h'.device, h'.trace.trans h.trace⟩

theorem tick_spec (w : World) : Ensures tick w fun _ w' => Watches w w' :=
  ⟨observed_foldl _ _, rfl⟩

theorem tick_taken {w : World} {scope : ScopeId}
    (h : w.device.scopes scope = some ⟨false, none, false⟩) :
    Ensures tick w fun _ w' =>
      Watches w w' ∧ w'.device.scopes scope = some ⟨false, none, false⟩ :=
  ⟨tick_spec w, taken_foldl _ _ h⟩

theorem change_spec (f : Device → Device) (w : World) :
    Ensures (change f) w fun _ w' => w' = { w with device := f w.device } := rfl

/-- The device has accepted all that these scopes cover. -/
def Device.Accepted (d : Device) (scopes : List ScopeId) : Prop :=
  ∀ scope ∈ scopes, d.outcome scope = some (.ok ())

theorem Device.Accepted.later {d d' : Device} {scopes : List ScopeId} (h : d.Accepted scopes)
    (later : d.Later d') : d'.Accepted scopes :=
  fun scope hscope => later.outcome (h scope hscope)

/-- One of the scopes has recorded this error. -/
def Device.Rejected (d : Device) (scopes : List ScopeId) (error : WaitError) : Prop :=
  ∃ scope ∈ scopes, d.outcome scope = some (.error error)

/-- What an answer about a scope says of the device. -/
def Answers (scopes : List ScopeId) (answer : Option Outcome) (d : Device) : Prop :=
  (answer = some (.ok ()) → d.Accepted scopes) ∧
    ∀ error, answer = some (.error error) → d.Rejected scopes error

/-- A future's poll answers with what its scope has recorded by then. -/
theorem pollFuture_outcome (scope : ScopeId) (w : World) :
    Ensures (pollFuture scope) w fun answer w' =>
      Watches w w' ∧ w'.device.outcome scope = answer := by
  refine (tick_spec w).bind fun _ w₁ watched => Ensures.get ?_
  split
  · rename_i h
    exact Ensures.pure ⟨watched, by simp [Device.outcome, h]⟩
  · rename_i elsewhere h
    refine (change_spec _ w₁).bind fun _ w₂ hw₂ => ?_
    have taken : Watches w₁ w₂ := hw₂ ▸ ⟨.setScope h (.inl rfl) nofun, rfl⟩
    have away : w₂.device.scopes scope = some ⟨false, none, false⟩ := by
      rw [hw₂]
      simp [Device.setScope]
    refine (tick_taken away).bind fun moment w₃ polled => ?_
    refine (change_spec _ w₃).bind fun _ w₄ hw₄ => Ensures.pure ?_
    have stored : Watches w₃ w₄ :=
      hw₄ ▸ ⟨.setScope polled.2 (.inl rfl) fun _ => FutureAnswer.rejected, rfl⟩
    refine ⟨((watched.trans taken).trans polled.1).trans stored, ?_⟩
    rw [hw₄, Device.outcome_setScope, if_pos rfl]
  · rename_i h
    exact Ensures.pure ⟨watched, by simp [Device.outcome, h]⟩
  · rename_i h
    exact Ensures.pure ⟨watched, by simp [Device.outcome, h]⟩

/-! Polling composed scopes -/

instance : IsPreorder World Watches where
  refl := Watches.refl
  trans _ _ _ := Watches.trans

/-- What the scopes have recorded in a world. -/
def World.recorded (w : World) : ScopeId → Option Outcome := w.device.outcome

theorem Watches.recording : Recording Watches World.recorded :=
  fun _ _ watched => watched.device.later.outcome

theorem Validation.poll_polled (validation : Validation) (w : World) :
    Ensures validation.poll w fun answer w' =>
      Watches w w' ∧ Polled World.recorded validation.scopes w answer w' := by
  rw [← validation.program_run]
  exact (validation.program_meets Watches.recording w).ensures fun scope w =>
    pollFuture_outcome scope w

theorem Polled.answers {scopes : List ScopeId} {answer : Option Outcome} {w w' : World}
    (h : Polled World.recorded scopes w answer w') : Answers scopes answer w'.device :=
  ⟨fun hanswer => (h.decided _ hanswer).accepted, fun _ hanswer => (h.decided _ hanswer).rejected⟩

theorem Validation.poll_spec (validation : Validation) (w : World) :
    Ensures validation.poll w fun answer w' =>
      Watches w w' ∧ Answers validation.scopes answer w'.device :=
  (validation.poll_polled w).mono fun _ _ polled => ⟨polled.1, polled.2.answers⟩

/-! Submissions -/

theorem Submission.observe_spec (submission : Submission) (w : World) :
    Ensures submission.observe w fun answer w' =>
      Watches w w' ∧ answer = w'.device.signals submission.signal :=
  (tick_spec w).bind fun _ _ watched => Ensures.get (Ensures.pure ⟨watched, rfl⟩)

end GpuInfo
