import GpuInfo.Wait.DeviceHistory

/-!
What submitting for one signal does to the device. It changes what concerns that
signal and leaves all others as they were, whether it returns or unwinds, and at
whatever point it unwinds.
-/

namespace GpuInfo
open StateProgram

/-- A signal for which nothing has been submitted yet. -/
structure Device.Fresh (d : Device) (signal : SignalId) : Prop where
  allocated : signal < d.nextSignal
  sent : d.sent signal = none
  callbacks : d.callbacks signal = none
  unwound : d.unwound signal = false
  unscoped : d.scopes (.submission signal) = none

/-- What may happen on behalf of `signal`. -/
structure Device.Submits (signal : SignalId) (commands : List CommandBuffer) (d d' : Device) :
    Prop where
  submitted : d.submitted ≤ d'.submitted
  retired : d.retired ≤ d'.retired
  loss : ∀ {reason}, d.loss = some reason → d'.loss = some reason
  outcome : ∀ {scope outcome}, d.outcome scope = some outcome → d'.outcome scope = some outcome
  present : ∀ {scope}, d.scopes scope ≠ none → d'.scopes scope ≠ none
  absent : ∀ {scope}, scope ≠ .submission signal → d.scopes scope = none →
    d'.scopes scope = none
  others : ∀ {signal'}, signal' ≠ signal →
    d'.sent signal' = d.sent signal' ∧ d'.callbacks signal' = d.callbacks signal' ∧
      d'.unwound signal' = d.unwound signal'
  awaited : ∀ {awaited}, d'.callbacks signal = some awaited →
    d.callbacks signal = some awaited ∨ d.submitted ≤ awaited
  passed : ∀ command ∈ d'.passed, command ∈ commands ∨ command ∈ d.passed
  nextSignal : d'.nextSignal = d.nextSignal
  nextLease : d'.nextLease = d.nextLease
  polledLoss : d'.polledLoss = d.polledLoss

namespace Device
variable {d d' d'' : Device} {signal : SignalId} {commands : List CommandBuffer}

theorem Observed.submits (h : Observed d d') : Submits signal commands d d' where
  submitted := h.submitted
  retired := h.retired
  loss := h.loss
  outcome := h.outcome
  present {scope} := mt (h.present scope).mp
  absent {scope} _ := (h.present scope).mpr
  others _ := by rw [h.sent, h.callbacks, h.unwound]; exact ⟨rfl, rfl, rfl⟩
  awaited hawaited := .inl (h.callbacks ▸ hawaited)
  passed _ hcommand := .inr (h.passed ▸ hcommand)
  nextSignal := h.nextSignal
  nextLease := h.nextLease
  polledLoss := h.polledLoss

theorem Submits.trans (h : Submits signal commands d d') (h' : Submits signal commands d' d'') :
    Submits signal commands d d'' where
  submitted := h.submitted.trans h'.submitted
  retired := h.retired.trans h'.retired
  loss hloss := h'.loss (h.loss hloss)
  outcome houtcome := h'.outcome (h.outcome houtcome)
  present hscope := h'.present (h.present hscope)
  absent hne hscope := h'.absent hne (h.absent hne hscope)
  others hne := by
    obtain ⟨hsent, hcallbacks, hunwound⟩ := h.others hne
    obtain ⟨hsent', hcallbacks', hunwound'⟩ := h'.others hne
    exact ⟨hsent'.trans hsent, hcallbacks'.trans hcallbacks, hunwound'.trans hunwound⟩
  awaited hawaited := by
    cases h'.awaited hawaited with
    | inl hold => exact h.awaited hold
    | inr hlater => exact .inr (h.submitted.trans hlater)
  passed command hcommand := by
    cases h'.passed command hcommand with
    | inl hnew => exact .inl hnew
    | inr hold => exact h.passed command hold
  nextSignal := h'.nextSignal.trans h.nextSignal
  nextLease := h'.nextLease.trans h.nextLease
  polledLoss := h'.polledLoss.trans h.polledLoss

/-- Submitting for a signal that did not exist at `d` is no news to what did. -/
theorem Later.submits (h : Later d d') (fresh : d.nextSignal ≤ signal)
    (h' : Submits signal commands d' d'') : Later d d'' where
  submitted := h.submitted.trans h'.submitted
  retired := h.retired.trans h'.retired
  nextSignal := h'.nextSignal ▸ h.nextSignal
  nextLease := h'.nextLease ▸ h.nextLease
  loss hloss := h'.loss (h.loss hloss)
  outcome houtcome := h'.outcome (h.outcome houtcome)
  old hold := by
    obtain ⟨hsent, hcallbacks, hunwound⟩ := h.old hold
    obtain ⟨hsent', hcallbacks', hunwound'⟩ := h'.others (Nat.ne_of_lt (hold.trans_le fresh))
    exact ⟨hsent'.trans hsent, hcallbacks'.trans hcallbacks, hunwound'.trans hunwound⟩
  present hscope := h'.present (h.present hscope)
  recording hold hscope := h'.absent nofun (h.recording hold hscope)

theorem submits_send : Submits signal commands d (d.send signal commands) where
  submitted := Nat.le_succ _
  retired := le_rfl
  loss := id
  outcome := id
  present := id
  absent _ := id
  others hne := ⟨by simp [send, hne], rfl, rfl⟩
  awaited := .inl
  passed _ := List.mem_append.mp
  nextSignal := rfl
  nextLease := rfl
  polledLoss := rfl

theorem Sound.send (hd : d.Sound) (fresh : d.Fresh signal) : (d.send signal commands).Sound where
  retired_le := Nat.le_succ_of_le hd.retired_le
  sent_le {signal' number} h := by
    simp only [Device.send, Function.update_apply] at h ⊢
    split at h
    · cases h
      exact le_rfl
    · exact Nat.le_succ_of_le (hd.sent_le h)
  callback {signal' awaited} h := by
    obtain ⟨hle, number, hsent, hnumber⟩ := hd.callback h
    have hne : signal' ≠ signal := by
      intro heq
      rw [heq, fresh.sent] at hsent
      cases hsent
    exact ⟨Nat.le_succ_of_le hle, number, by simp [Device.send, hne, hsent], hnumber⟩
  completed := hd.completed
  rejected := hd.rejected
  newSignal {signal'} h := by
    obtain ⟨hsent, hrest⟩ := hd.newSignal h
    have hne : signal' ≠ signal := (fresh.allocated.trans_le h).ne'
    exact ⟨by simp [Device.send, hne, hsent], hrest⟩
  newLease := hd.newLease

theorem submits_register : Submits signal commands d (d.register signal) where
  submitted := le_rfl
  retired := le_rfl
  loss := id
  outcome := id
  present := id
  absent _ := id
  others hne := ⟨rfl, by simp [register, hne], rfl⟩
  awaited h := by
    simp only [register, Function.update_self, Option.some.injEq] at h
    exact .inr h.le
  passed _ := .inr
  nextSignal := rfl
  nextLease := rfl
  polledLoss := rfl

theorem Sound.register (hd : d.Sound) {number : Nat} (sent : d.sent signal = some number)
    (unregistered : d.callbacks signal = none) : (d.register signal).Sound where
  retired_le := hd.retired_le
  sent_le := hd.sent_le
  callback {signal' awaited} h := by
    simp only [Device.register, Function.update_apply] at h
    split at h
    · rename_i heq
      cases h
      exact ⟨le_rfl, number, heq ▸ sent, hd.sent_le sent⟩
    · exact hd.callback h
  completed {signal'} h := by
    obtain ⟨awaited, hcallback, hle⟩ := hd.completed h
    have hne : signal' ≠ signal := by
      intro heq
      rw [heq, unregistered] at hcallback
      cases hcallback
    exact ⟨awaited, by simp [Device.register, hne, hcallback], hle⟩
  rejected := hd.rejected
  newSignal {signal'} h := by
    obtain ⟨hsent, hcallback, hrest⟩ := hd.newSignal h
    have hne : signal' ≠ signal := by
      intro heq
      rw [← heq, hsent] at sent
      cases sent
    exact ⟨hsent, by simp [Device.register, hne, hcallback], hrest⟩
  newLease := hd.newLease

theorem Fresh.observed (fresh : d.Fresh signal) (h : Observed d d') : d'.Fresh signal where
  allocated := h.nextSignal ▸ fresh.allocated
  sent := h.sent ▸ fresh.sent
  callbacks := h.callbacks ▸ fresh.callbacks
  unwound := h.unwound ▸ fresh.unwound
  unscoped := (h.present _).mpr fresh.unscoped

end Device

/-- A signal that nobody had. -/
structure NewSignal (w : World) (signal : SignalId) (w' : World) : Prop where
  trace : w'.trace = w.trace
  later : w.device.Later w'.device
  sound : w'.device.Sound
  unused : w.device.nextSignal ≤ signal
  fresh : w'.device.Fresh signal
  passed : w'.device.passed = w.device.passed
  polledLoss : w'.device.polledLoss = w.device.polledLoss

theorem newSignal_spec (w : World) (hw : w.device.Sound) :
    Ensures newSignal w (NewSignal w) := by
  refine Ensures.get ((change_spec _ w).bind fun _ w' hw' => Ensures.pure ?_)
  obtain ⟨hsent, hcallbacks, hunwound, hscope⟩ := hw.newSignal le_rfl
  subst hw'
  refine ⟨rfl, { Device.Later.refl w.device with nextSignal := Nat.le_succ _ }, ?_, le_rfl,
    ⟨Nat.lt_succ_self _, hsent, hcallbacks, hunwound, hscope⟩, rfl, rfl⟩
  exact { hw with newSignal := fun h => hw.newSignal (Nat.le_of_succ_le h) }

theorem Submission.pending_spec (w : World) (hw : w.device.Sound) :
    Ensures Submission.pending w fun observer w' =>
      observer.validation = none ∧ NewSignal w observer.signal w' :=
  (newSignal_spec w hw).bind fun _ _ h => Ensures.pure ⟨rfl, h⟩

/-- What `submit_to` leaves behind: the scopes are not its business. -/
structure Submitted (signal : SignalId) (commands : List CommandBuffer) (w w' : World) :
    Prop where
  trace : w'.trace = w.trace
  device : w.device.Submits signal commands w'.device
  sound : w'.device.Sound
  unwound : w'.device.unwound signal = false
  unscoped : w'.device.scopes (.submission signal) = none

theorem Submitted.refl {signal : SignalId} {commands : List CommandBuffer} {w : World}
    (hw : w.device.Sound) (fresh : w.device.Fresh signal) : Submitted signal commands w w :=
  ⟨rfl, (Device.Observed.refl _).submits, hw, fresh.unwound, fresh.unscoped⟩

theorem Submitted.watches {signal : SignalId} {commands : List CommandBuffer} {w w' w'' : World}
    (h : Submitted signal commands w w') (watched : Watches w' w'') :
    Submitted signal commands w w'' where
  trace := watched.trace.trans h.trace
  device := h.device.trans watched.device.submits
  sound := watched.device.sound h.sound
  unwound := watched.device.unwound ▸ h.unwound
  unscoped := (watched.device.present _).mpr h.unscoped

theorem Submitted.finish {signal : SignalId} {commands : List CommandBuffer} {w w' w'' : World}
    (h : Submitted signal commands w w') (error : WaitError)
    (hw : w'' = { w' with device := w'.device.finish signal (.error error) }) :
    Submitted signal commands w w'' :=
  h.watches (hw ▸ ⟨.finish signal _ nofun, rfl⟩)

theorem Submitted.send {signal : SignalId} {commands : List CommandBuffer} {w w' : World}
    (hw : w.device.Sound) (fresh : w.device.Fresh signal)
    (h : w' = { w with device := w.device.send signal commands }) :
    Submitted signal commands w w' := by
  subst h
  exact ⟨rfl, Device.submits_send, hw.send fresh, fresh.unwound, fresh.unscoped⟩

theorem submitTo_spec {signal : SignalId} (commands : List CommandBuffer) {w : World}
    (hw : w.device.Sound) (fresh : w.device.Fresh signal) :
    Ensures (submitTo signal commands) w fun result w' =>
      Submitted signal commands w w' ∧ ∀ submission, result = .ok submission →
        submission = ⟨signal, none⟩ ∧ ∃ number, w'.device.sent signal = some number := by
  refine (tick_spec w).bind fun moment w₁ watched => ?_
  have hw₁ := watched.device.sound hw
  have fresh₁ := fresh.observed watched.device
  have from₁ : ∀ w', Submitted signal commands w₁ w' → Submitted signal commands w w' :=
    fun w' h => ⟨h.trace.trans watched.trace, watched.device.submits.trans h.device, h.sound,
      h.unwound, h.unscoped⟩
  have here : Submitted signal commands w₁ w₁ := .refl hw₁ fresh₁
  split
  · refine (change_spec _ w₁).bind fun _ w₂ hw₂ => Ensures.pure ⟨?_, nofun⟩
    exact from₁ w₂ (here.finish _ hw₂)
  · refine (change_spec _ w₁).bind fun _ w₂ hw₂ => Ensures.pure ⟨?_, nofun⟩
    exact from₁ w₂ ((Submitted.send hw₁ fresh₁ rfl).finish _ hw₂)
  · refine (change_spec _ w₁).bind fun _ w₂ hw₂ => ?_
    refine (tick_spec w₂).bind fun _ w₃ watched₃ => ?_
    refine (change_spec _ w₃).bind fun _ w₄ hw₄ => Ensures.pure ⟨?_, nofun⟩
    exact from₁ w₄ (((Submitted.send hw₁ fresh₁ hw₂).watches watched₃).finish _ hw₄)
  · refine (change_spec _ w₁).bind fun _ w₂ hw₂ => ?_
    refine (tick_spec w₂).bind fun _ w₃ watched₃ => ?_
    refine (change_spec _ w₃).bind fun _ w₄ hw₄ => Ensures.pure ?_
    have sent := (Submitted.send hw₁ fresh₁ hw₂).watches watched₃
    have hsent : w₃.device.sent signal = some (w₁.device.submitted + 1) := by
      rw [watched₃.device.sent, hw₂]
      simp [Device.send]
    have unregistered : w₃.device.callbacks signal = none := by
      rw [watched₃.device.callbacks, hw₂]
      exact fresh₁.callbacks
    subst hw₄
    refine ⟨from₁ _ ⟨sent.trace, sent.device.trans Device.submits_register,
      sent.sound.register hsent unregistered, sent.unwound, sent.unscoped⟩, ?_⟩
    intro submission h
    cases h
    exact ⟨rfl, _, hsent⟩

/-- `checked` runs its operation between two looks, or not at all; the scope exists
only if `checked` returns. -/
theorem checked_spec {α : Type} {scope : ScopeId} {operation : Host (Except Payload α)}
    {w : World} {P : Except Payload α → World → Prop}
    (hoperation : ∀ w₁, Watches w w₁ → Ensures operation w₁ P) :
    Ensures (checked scope operation) w fun result w' =>
      match result with
      | .error _ => Watches w w' ∨ ∃ value w₁, P value w₁ ∧ Watches w₁ w'
      | .ok operation => ∃ value w₁ w₂, P value w₁ ∧ Watches w₁ w₂ ∧
          w' = { w₂ with device := w₂.device.setScope scope ⟨true, none, false⟩ } ∧
          operation = ⟨value.mapError fun payload => .submitPanicked (panicMessage payload),
            .future scope⟩ := by
  refine (tick_spec w).bind fun pushing w₁ watched => ?_
  split
  · exact Ensures.pure (.inl watched)
  · refine (hoperation w₁ watched).bind fun value w₂ hvalue => ?_
    refine (tick_spec w₂).bind fun popping w₃ watched₃ => ?_
    split
    · exact Ensures.pure (.inr ⟨value, w₂, hvalue, watched₃⟩)
    · refine (change_spec _ w₃).bind fun _ w₄ hw₄ => Ensures.pure ?_
      exact ⟨value, w₂, w₃, hvalue, watched₃, hw₄, rfl⟩

def ScopeId.Allocated (d : Device) : ScopeId → Prop
  | .recording lease => lease < d.nextLease
  | .submission signal => signal < d.nextSignal

theorem Device.outcome_newScope {d : Device} {scope : ScopeId} (absent : d.scopes scope = none)
    (scope' : ScopeId) : (d.setScope scope ⟨true, none, false⟩).outcome scope' =
      d.outcome scope' := by
  rw [outcome_setScope]
  split
  · rename_i heq
    simp [heq, Device.outcome, absent]
  · rfl

theorem Device.Sound.newScope {d : Device} (hd : d.Sound) {scope : ScopeId}
    (absent : d.scopes scope = none) (allocated : scope.Allocated d) :
    (d.setScope scope ⟨true, none, false⟩).Sound where
  retired_le := hd.retired_le
  sent_le := hd.sent_le
  callback := hd.callback
  completed := hd.completed
  rejected h := hd.rejected (outcome_newScope absent _ ▸ h)
  newSignal {signal} hold := by
    obtain ⟨hsent, hcallback, hunwound, hscope⟩ := hd.newSignal hold
    have hne : ScopeId.submission signal ≠ scope := by
      intro heq
      rw [← heq] at allocated
      exact absurd allocated (Nat.not_lt.mpr hold)
    exact ⟨hsent, hcallback, hunwound, by simp [Device.setScope, hne, hscope]⟩
  newLease {lease} hold := by
    have hne : ScopeId.recording lease ≠ scope := by
      intro heq
      rw [← heq] at allocated
      exact absurd allocated (Nat.not_lt.mpr hold)
    simp [Device.setScope, hne, hd.newLease hold]

theorem Device.submits_newScope {d : Device} {signal : SignalId} {commands : List CommandBuffer}
    (unscoped : d.scopes (.submission signal) = none) :
    Submits signal commands d (d.setScope (.submission signal) ⟨true, none, false⟩) where
  submitted := le_rfl
  retired := le_rfl
  loss := id
  outcome h := (outcome_newScope unscoped _).trans h
  present {scope} h := by
    simp only [setScope, Function.update_apply]
    split
    · exact Option.some_ne_none _
    · exact h
  absent hne h := by simp [setScope, hne, h]
  others _ := ⟨rfl, rfl, rfl⟩
  awaited := .inl
  passed _ := .inr
  nextSignal := rfl
  nextLease := rfl
  polledLoss := rfl

def Device.markUnwound (d : Device) (signal : SignalId) : Device :=
  { d with unwound := Function.update d.unwound signal true }

theorem Device.submits_markUnwound {d : Device} {signal : SignalId}
    {commands : List CommandBuffer} : Submits signal commands d (d.markUnwound signal) where
  submitted := le_rfl
  retired := le_rfl
  loss := id
  outcome := id
  present := id
  absent _ := id
  others hne := ⟨rfl, rfl, by simp [markUnwound, hne]⟩
  awaited := .inl
  passed _ := .inr
  nextSignal := rfl
  nextLease := rfl
  polledLoss := rfl

theorem Device.Sound.markUnwound {d : Device} (hd : d.Sound) {signal : SignalId}
    (allocated : signal < d.nextSignal) : (d.markUnwound signal).Sound where
  retired_le := hd.retired_le
  sent_le := hd.sent_le
  callback := hd.callback
  completed := hd.completed
  rejected := hd.rejected
  newSignal {signal'} hold := by
    obtain ⟨hsent, hcallback, hunwound, hscope⟩ := hd.newSignal hold
    have hne : signal' ≠ signal := (allocated.trans_le hold).ne'
    exact ⟨hsent, hcallback, by simp [Device.markUnwound, hne, hunwound], hscope⟩
  newLease := hd.newLease

/-- The submission of an entry or of a fence. -/
structure SubmittedChecked (signal : SignalId) (commands : List CommandBuffer) (w : World)
    (result : Except Payload (Checked Submission)) (w' : World) : Prop where
  trace : w'.trace = w.trace
  device : w.device.Submits signal commands w'.device
  sound : w'.device.Sound
  validation : ∀ operation, result = .ok operation →
    operation.validation = .future (.submission signal)
  accepted : ∀ operation submission, result = .ok operation → operation.value = .ok submission →
    submission = ⟨signal, none⟩ ∧ w'.device.unwound signal = false ∧
      (∃ number, w'.device.sent signal = some number) ∧
      w'.device.scopes (.submission signal) ≠ none
  unwound : ∀ operation error, result = .ok operation → operation.value = .error error →
    ∃ message, error = .submitPanicked message

theorem submitChecked_spec {signal : SignalId} (commands : List CommandBuffer) {w : World}
    (hw : w.device.Sound) (fresh : w.device.Fresh signal) :
    Ensures (submitChecked signal commands) w (SubmittedChecked signal commands w) := by
  have hoperation : ∀ w₁, Watches w w₁ → Ensures (submitTo signal commands) w₁
      fun result w' => Submitted signal commands w w' ∧ ∀ submission, result = .ok submission →
        submission = ⟨signal, none⟩ ∧ ∃ number, w'.device.sent signal = some number := by
    intro w₁ watched
    have fresh₁ := fresh.observed watched.device
    refine (submitTo_spec commands (watched.device.sound hw) fresh₁).mono fun result w' h => ?_
    exact ⟨⟨h.1.trace.trans watched.trace, watched.device.submits.trans h.1.device, h.1.sound,
      h.1.unwound, h.1.unscoped⟩, h.2⟩
  refine (checked_spec hoperation).bind fun result w₁ hresult => ?_
  cases result with
  | error payload =>
      refine (change_spec _ w₁).bind fun _ w₂ hw₂ => Ensures.pure ?_
      have submitted : Submitted signal commands w w₁ := by
        cases hresult with
        | inl watched => exact (Submitted.refl hw fresh).watches watched
        | inr hvalue =>
            obtain ⟨value, w', ⟨submitted, -⟩, watched⟩ := hvalue
            exact submitted.watches watched
      have allocated : signal < w₁.device.nextSignal :=
        submitted.device.nextSignal ▸ fresh.allocated
      subst hw₂
      exact ⟨submitted.trace, submitted.device.trans Device.submits_markUnwound,
        submitted.sound.markUnwound allocated, nofun, nofun, nofun⟩
  | ok operation =>
      obtain ⟨value, w', w₂, ⟨hsubmitted, hvalue⟩, watched, hw₁, hoperation⟩ := hresult
      have submitted := hsubmitted.watches watched
      have allocated : signal < w₂.device.nextSignal :=
        submitted.device.nextSignal ▸ fresh.allocated
      have created := submitted.device.trans (Device.submits_newScope submitted.unscoped)
      have sound := submitted.sound.newScope submitted.unscoped
        (show ScopeId.Allocated w₂.device (.submission signal) from allocated)
      subst hw₁ hoperation
      cases value with
      | ok submission =>
          obtain ⟨rfl, number, hnumber⟩ := hvalue submission rfl
          refine Ensures.pure ⟨submitted.trace, created, sound, ?_, ?_, ?_⟩
          · intro operation h
            cases h
            rfl
          · intro operation submission h hvalue
            cases h
            cases hvalue
            refine ⟨rfl, submitted.unwound, ⟨number, ?_⟩, by simp [Device.setScope]⟩
            exact (congrFun watched.device.sent signal).trans hnumber
          · intro operation error h hvalue
            cases h
            cases hvalue
      | error payload =>
          refine (change_spec _ _).bind fun _ w₃ hw₃ => Ensures.pure ?_
          subst hw₃
          refine ⟨submitted.trace, created.trans Device.submits_markUnwound,
            sound.markUnwound allocated, ?_, ?_, ?_⟩
          · intro operation h
            cases h
            rfl
          · intro operation submission h hvalue
            cases h
            cases hvalue
          · intro operation error h hvalue
            cases h
            cases hvalue
            exact ⟨_, rfl⟩

theorem Submission.status_spec (submission : Submission) (w : World) :
    Ensures submission.status w fun answer w' =>
      Watches w w' ∧ (answer = some (.ok ()) →
        (∀ validation, submission.validation = some validation →
          w'.device.Accepted validation.scopes) ∧
        w'.device.signals submission.signal = some (.ok ())) := by
  obtain ⟨signal, validation⟩ := submission
  cases validation with
  | none =>
      refine (Submission.observe_spec ⟨signal, none⟩ w).mono fun answer w' h => ?_
      exact ⟨h.1, fun hanswer => ⟨nofun, h.2.symm.trans hanswer⟩⟩
  | some validation =>
      refine (validation.poll_spec w).bind fun answer w₁ polled => ?_
      obtain ⟨watched, accepted, -⟩ := polled
      split
      · exact Ensures.pure ⟨watched, nofun⟩
      · exact Ensures.pure ⟨watched, nofun⟩
      · refine (Submission.observe_spec _ w₁).mono fun answer w' h => ?_
        refine ⟨watched.trans h.1, fun hanswer => ⟨fun validation' heq => ?_,
          h.2.symm.trans hanswer⟩⟩
        cases heq
        exact (accepted rfl).later h.1.device.later

theorem Submission.validationStatus_spec (submission : Submission) (w : World) :
    Ensures submission.validationStatus w fun answer w' =>
      Watches w w' ∧ (∀ validation, submission.validation = some validation →
        Answers validation.scopes answer w'.device) ∧
      (submission.validation = none → answer = none) := by
  obtain ⟨signal, validation⟩ := submission
  cases validation with
  | none => exact Ensures.pure ⟨.refl w, nofun, fun _ => rfl⟩
  | some validation =>
      refine (validation.poll_spec w).mono fun answer w' polled => ⟨polled.1, ?_, nofun⟩
      intro validation' heq
      cases heq
      exact polled.2

theorem lossReason_spec (w : World) :
    Ensures lossReason w fun loss w' => Watches w w' ∧ loss = w'.device.loss :=
  (tick_spec w).bind fun _ _ watched => Ensures.get (Ensures.pure ⟨watched, rfl⟩)

/-- A poll that reports an empty queue proves everything submitted so far retired. -/
theorem poll_spec (w : World) (hw : w.device.Sound) :
    Ensures poll w fun polled w' =>
      w'.trace = w.trace ∧ w.device.Later w'.device ∧ w'.device.Sound ∧
        w'.device.passed = w.device.passed ∧ w'.device.polledLoss = w'.device.loss ∧
        (polled = .ok .queueEmpty → w'.device.retired = w'.device.submitted) := by
  refine (tick_spec w).bind fun moment w₁ watched => ?_
  refine (change_spec _ w₁).bind fun _ w₂ hw₂ => Ensures.get (Ensures.pure ?_)
  have later : w₁.device.Later { w₁.device with polledLoss := w₁.device.loss } :=
    { Device.Later.refl w₁.device with }
  subst hw₂
  refine ⟨watched.trace, watched.device.later.trans later,
    { watched.device.sound hw with }, watched.device.passed, rfl, fun h => ?_⟩
  cases hpoll : moment.poll with
  | queueEmpty =>
      simp only [hpoll, Except.ok.injEq] at h
      by_contra hne
      rw [if_neg hne] at h
      cases h
  | waitSucceeded | poll | failed _ | panicked _ => simp [hpoll] at h

end GpuInfo
