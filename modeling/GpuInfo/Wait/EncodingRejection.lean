import GpuInfo.Wait.DeviceFootprint
import GpuInfo.Wait.QueueLog

/-!
Known encoding rejections. A work one of whose recordings has been rejected is to be
aborted before anything reaches the queue. The check in `try_submit` does so exactly when
every scope of the work has settled: one that is still pending hides the rejection of
another, and the work is submitted.
-/

namespace GpuInfo
open StateProgram

/-- What each part answers, polled one after the other. -/
def Validation.pollEach : List Validation → Host (List (Option Outcome))
  | [] => pure []
  | part :: parts => do
      let polled ← part.poll
      let answers ← Validation.pollEach parts
      pure (polled :: answers)

theorem Validation.pollParts_eq (parts : List Validation) (tally : PollTally) :
    Validation.pollParts parts tally =
      (fun answers => answers.foldl PollTally.add tally) <$> Validation.pollEach parts := by
  induction parts generalizing tally with
  | nil => simp [pollParts, pollEach]
  | cons part parts ih =>
      simp only [pollParts, pollEach]
      rw [map_bind]
      refine bind_congr fun polled => ?_
      rw [ih, map_bind]
      exact map_eq_pure_bind _ _

theorem Validation.pollAll_eq (parts : List Validation) :
    Validation.pollAll parts = (fun answers =>
      (answers.foldl PollTally.add ⟨false, none⟩).outcome) <$> Validation.pollEach parts := by
  simp only [pollAll, poll]
  rw [pollParts_eq, bind_map_left]
  exact (map_eq_pure_bind _ _).symm

/-! The tally -/

namespace PollTally

theorem pending_foldl (answers : List (Option Outcome)) (tally : PollTally) :
    (answers.foldl add tally).pending = true ↔ tally.pending = true ∨ none ∈ answers := by
  induction answers generalizing tally with
  | nil => simp
  | cons answer answers ih =>
      rw [List.foldl_cons, ih]
      cases answer with
      | none => simp [add]
      | some outcome =>
          have same : (tally.add (some outcome)).pending = tally.pending := by
            cases outcome <;> rfl
          simp [same]

theorem failure_foldl (answers : List (Option Outcome)) (tally : PollTally) :
    (answers.foldl add tally).failure = none ↔
      tally.failure = none ∧ ∀ error, some (.error error) ∉ answers := by
  induction answers generalizing tally with
  | nil => simp
  | cons answer answers ih =>
      rw [List.foldl_cons, ih]
      cases answer with
      | none => simp [add]
      | some outcome =>
          cases outcome with
          | ok value => simp [add]
          | error error =>
              have failed : (tally.add (some (.error error))).failure ≠ none := by
                simp [add]
              refine ⟨fun h => absurd h.1 failed, fun h => ?_⟩
              exact absurd List.mem_cons_self (h.2 error)

/-- A part that is pending hides the failures of the others. -/
theorem outcome_hidden {answers : List (Option Outcome)} (h : none ∈ answers) :
    (answers.foldl add ⟨false, none⟩).outcome = none := by
  have pending := (pending_foldl answers ⟨false, none⟩).mpr (.inr h)
  simp [outcome, pending]

theorem outcome_rejected {answers : List (Option Outcome)} (settled : none ∉ answers)
    {error : WaitError} (h : some (.error error) ∈ answers) :
    ∃ first, (answers.foldl add ⟨false, none⟩).outcome = some (.error first) := by
  have pending : (answers.foldl add ⟨false, none⟩).pending = false := by
    have h := (pending_foldl answers ⟨false, none⟩).not.mpr (by simpa using settled)
    exact Bool.not_eq_true _ ▸ h
  have failed : (answers.foldl add ⟨false, none⟩).failure ≠ none := fun hnone =>
    ((failure_foldl answers ⟨false, none⟩).mp hnone).2 error h
  obtain ⟨first, hfirst⟩ := Option.ne_none_iff_exists'.mp failed
  exact ⟨first, by simp [outcome, pending, hfirst]⟩

end PollTally

/-! The check -/

namespace WorkQueue
variable (queue : WorkQueue) (work : RecordedWork) (w : World)

/-- The queue and the world that the collect of a `try_submit` leaves. -/
def collected : WorkQueue × World := ((queue.collect w).1.1, (queue.collect w).2)

/-- `try_submit` comes as far as its look at the scopes of the work. -/
structure ReachesCheck : Prop where
  context : work.context = queue.context
  ok : ∃ completed, (queue.collect w).1.2 = .ok completed
  unpoisoned : (queue.collected w).1.poisoned = false
  room : (queue.collected w).1.pending.length ≠ (queue.collected w).1.capacity

/-- What each scope of the work answers at this look. -/
def scopeAnswers : List (Option Outcome) :=
  ((do
    let _ ← Submission.pending
    Validation.pollEach work.validation : Host _) (queue.collected w).2).1

/-- The work is refused, none of its command buffers reaches the device queue, no entry is
added, and each of its leases is told of the abort, and of nothing else. -/
structure TrueAbort (result : WorkQueue × Except WorkSubmitError Submission) (w' : World) :
    Prop where
  refused : ∃ error, result.2 = .error error
  unsent : w'.device.passed = (queue.collected w).2.device.passed
  unretained : result.1.pending = (queue.collected w).1.pending
  aborted : w'.trace.map (·.1) =
    (work.leases.map Event.aborted).reverse ++ (queue.collected w).2.trace.map (·.1)

variable {queue : WorkQueue} {work : RecordedWork} {w : World}

theorem ReachesCheck.trySubmit_eq (h : queue.ReachesCheck work w) :
    queue.trySubmit work w =
      (queue.collected w).1.submitCollected work (queue.collected w).2 := by
  obtain ⟨completed, hok⟩ := h.ok
  have hcollect : queue.collect w =
      (((queue.collected w).1, .ok completed), (queue.collected w).2) := by
    rw [← hok]
    rfl
  rw [trySubmit, if_neg (not_not_intro h.context)]
  simp only [bind, StateT.bind]
  rw [hcollect]
  rfl

/-- Once past the check the work has an entry, however submitting it ends. -/
theorem submitOwned_retains (queue : WorkQueue) (observer : Submission) (work : RecordedWork)
    (w : World) :
    Ensures (queue.submitOwned observer work) w fun result _ =>
      ∃ entry, result.1.pending = queue.pending ++ [entry] := by
  have retained : ∀ {w : World} (entry error rejection),
      Ensures (queue.retainFailed entry error rejection) w fun result _ =>
        ∃ entry, result.1.pending = queue.pending ++ [entry] := by
    intro w entry error rejection
    exact Ensures.andThen fun entry' _ => Ensures.pure ⟨entry', rfl⟩
  refine Ensures.andThen fun result w₁ => ?_
  obtain ⟨scope, submitted⟩ := result
  cases submitted with
  | error error =>
      cases error with
      | submitPanicked message => exact retained _ _ _
      | poll _ | map _ | dropped | submitRejected _ | pollPanicked _ | deviceLost _ =>
          exact retained _ _ _
  | ok submission =>
      refine Ensures.andThen fun status w₂ => ?_
      split
      · exact Ensures.andThen fun entry _ => Ensures.pure ⟨entry, rfl⟩
      · exact retained _ _ _
      · exact Ensures.pure ⟨_, rfl⟩

theorem pollAll_answers (parts : List Validation) (w : World) :
    Ensures (Validation.pollAll parts) w fun outcome w' => Watches w w' ∧
      outcome = ((Validation.pollEach parts w).1.foldl PollTally.add ⟨false, none⟩).outcome := by
  have watches : Ensures (Validation.pollAll parts) w fun _ w' => Watches w w' :=
    (Validation.poll_spec (.all parts) w).mono fun _ _ h => h.1
  refine watches.and ?_
  rw [Validation.pollAll_eq]
  exact rfl

/-- The answers decide how `try_submit` goes on. -/
theorem ReachesCheck.decides (h : queue.ReachesCheck work w)
    {Q : WorkQueue × Except WorkSubmitError Submission → World → Prop} {outcome : Option Outcome}
    (houtcome : ((queue.scopeAnswers work w).foldl PollTally.add ⟨false, none⟩).outcome = outcome)
    (rejects : ∀ error w', outcome = some (.error error) →
      w'.device.passed = (queue.collected w).2.device.passed →
      w'.trace = (queue.collected w).2.trace →
      Ensures work.drop w' fun _ w'' =>
        Q ((queue.collected w).1, .error (.rejected error.toString)) w'')
    (goesOn : (∀ error, outcome ≠ some (.error error)) → ∀ observer w',
      Ensures ((queue.collected w).1.submitOwned observer work) w' Q) :
    Ensures (queue.trySubmit work) w Q := by
  have collectedEnsures : Ensures ((queue.collected w).1.submitCollected work)
      (queue.collected w).2 Q := by
    have unpoisoned : ¬ (queue.collected w).1.poisoned = true := by simp [h.unpoisoned]
    rw [submitCollected, if_neg unpoisoned, if_neg h.room]
    have signals : Ensures Submission.pending (queue.collected w).2 fun _ w' =>
        w' = (Submission.pending (queue.collected w).2).2 := by
      exact rfl
    refine (withFootprint signals Footprint.frame.pending).bind fun observer w₁ h₁ => ?_
    obtain ⟨rfl, footprint₁⟩ := h₁
    refine (withFootprint (pollAll_answers _ _) (Footprint.frame.validation _)).bind
      fun answer w₂ h₂ => ?_
    obtain ⟨⟨watched, hanswer⟩, footprint₂⟩ := h₂
    have hanswer' : answer = outcome := hanswer.trans houtcome
    have unpassed := (footprint₂.passed rfl).trans (footprint₁.passed rfl)
    cases answer with
    | none => exact goesOn (fun error heq => by cases hanswer'.trans heq) observer w₂
    | some answer =>
        cases answer with
        | ok value =>
            exact goesOn (fun error heq => by cases hanswer'.trans heq) observer w₂
        | error error =>
            exact (rejects error w₂ hanswer'.symm unpassed watched.trace).bind
              fun _ _ h => Ensures.pure h
  rw [Ensures, h.trySubmit_eq]
  exact collectedEnsures

/-- A pending scope lets the work pass. -/
theorem ReachesCheck.submits (h : queue.ReachesCheck work w)
    (hidden : none ∈ queue.scopeAnswers work w) :
    Ensures (queue.trySubmit work) w fun result _ =>
      ∃ entry, result.1.pending = (queue.collected w).1.pending ++ [entry] :=
  h.decides (PollTally.outcome_hidden hidden) (fun _ _ heq => by cases heq)
    fun _ _ _ => submitOwned_retains _ _ _ _

theorem ReachesCheck.aborts (h : queue.ReachesCheck work w)
    (settled : none ∉ queue.scopeAnswers work w) {error : WaitError}
    (rejected : some (.error error) ∈ queue.scopeAnswers work w) :
    Ensures (queue.trySubmit work) w (queue.TrueAbort work w) := by
  obtain ⟨first, hfirst⟩ := PollTally.outcome_rejected settled rejected
  refine h.decides hfirst (fun error w' _ unpassed untraced => ?_)
    fun other => absurd rfl (other first)
  have drops := withFootprint (runHooks_trace .aborted work.leases w')
    (Footprint.frame.dropWork work)
  refine drops.mono fun _ w'' h'' => ?_
  obtain ⟨htrace, footprint⟩ := h''
  refine ⟨⟨_, rfl⟩, (footprint.passed rfl).trans unpassed, rfl, ?_⟩
  rw [htrace, untraced]

theorem ReachesCheck.not_aborts (h : queue.ReachesCheck work w)
    (hidden : none ∈ queue.scopeAnswers work w) :
    ¬ Ensures (queue.trySubmit work) w (queue.TrueAbort work w) := by
  intro aborted
  obtain ⟨entry, hpending⟩ := h.submits hidden
  have hlength := congrArg List.length (hpending.symm.trans aborted.unretained)
  simp at hlength

end WorkQueue

/-- A work of which some scope has settled with an error when `try_submit` looks at it is
aborted exactly if all its scopes have settled by then. -/
theorem known_rejection_aborts {queue : WorkQueue} {work : RecordedWork} {w : World}
    (h : queue.ReachesCheck work w)
    (rejected : ∃ error, some (.error error) ∈ queue.scopeAnswers work w) :
    Ensures (queue.trySubmit work) w (queue.TrueAbort work w) ↔
      none ∉ queue.scopeAnswers work w := by
  obtain ⟨error, rejected⟩ := rejected
  exact ⟨fun aborted hidden => h.not_aborts hidden aborted, fun settled =>
    h.aborts settled rejected⟩

/-- Only the look numbered `settled` finds a scope settled, with an error. -/
def rejectingAt (settled look : Nat) : Moment :=
  ⟨[], 0, if look = settled then .ready none none (some "invalid") else .pending, .poll,
    .accepted, none⟩

/-- The one work of a client reaches the check, with these answers. -/
theorem Client.reachesCheck {client : Client} {w : World} {answers : List (Option Outcome)}
    (hanswers : client.works.map (fun work =>
      (work.context, client.queue.scopeAnswers work w)) = [(client.queue.context, answers)])
    (hqueue : ((client.queue.collect w).1.2, (client.queue.collected w).1.poisoned,
      (client.queue.collected w).1.pending.length, (client.queue.collected w).1.capacity) =
        (.ok 0, false, 0, 1)) :
    ∃ work, client.works = [work] ∧ client.queue.ReachesCheck work w ∧
      client.queue.scopeAnswers work w = answers := by
  obtain ⟨work, hworks, hwork⟩ := List.map_eq_singleton_iff.mp hanswers
  obtain ⟨hcontext, hanswers⟩ := Prod.mk.inj hwork
  simp only [Prod.mk.injEq] at hqueue
  obtain ⟨hok, unpoisoned, hpending, hcapacity⟩ := hqueue
  refine ⟨work, hworks, ⟨hcontext, ⟨0, hok⟩, unpoisoned, ?_⟩, hanswers⟩
  rw [hpending, hcapacity]
  exact Nat.zero_ne_one

/-- One recording, which is rejected. -/
def rejectedRecording : Client × World := runQueue (rejectingAt 8) 0 0 1 [.record 0 none]

theorem known_rejection_aborts_one_recording :
    ∃ work, rejectedRecording.1.works = [work] ∧
      Ensures (rejectedRecording.1.queue.trySubmit work) rejectedRecording.2
        (rejectedRecording.1.queue.TrueAbort work rejectedRecording.2) := by
  have hanswers : rejectedRecording.1.works.map (fun work =>
      (work.context, rejectedRecording.1.queue.scopeAnswers work rejectedRecording.2)) =
        [(rejectedRecording.1.queue.context, [some (.error (.submitRejected "invalid"))])] := by
    decide +kernel
  obtain ⟨work, hworks, reaches, answers⟩ := Client.reachesCheck hanswers (by decide +kernel)
  refine ⟨work, hworks, (known_rejection_aborts reaches ?_).mpr ?_⟩
  · rw [answers]
    exact ⟨_, List.mem_cons_self⟩
  · rw [answers]
    simp

/-- Two recordings in one work; one is rejected while the other is still pending. -/
def halfRejectedWork : Client × World :=
  runQueue (rejectingAt 12) 0 0 1 [.record 0 none, .record 0 none, .append 0 0]

theorem known_rejection_can_be_submitted :
    ∃ work, halfRejectedWork.1.works = [work] ∧
      halfRejectedWork.1.queue.ReachesCheck work halfRejectedWork.2 ∧
      (∃ error, some (.error error) ∈
        halfRejectedWork.1.queue.scopeAnswers work halfRejectedWork.2) ∧
      ¬ Ensures (halfRejectedWork.1.queue.trySubmit work) halfRejectedWork.2
        (halfRejectedWork.1.queue.TrueAbort work halfRejectedWork.2) := by
  have hanswers : halfRejectedWork.1.works.map (fun work =>
      (work.context, halfRejectedWork.1.queue.scopeAnswers work halfRejectedWork.2)) =
        [(halfRejectedWork.1.queue.context,
          [some (.error (.submitRejected "invalid")), none])] := by
    decide +kernel
  obtain ⟨work, hworks, reaches, answers⟩ := Client.reachesCheck hanswers (by decide +kernel)
  refine ⟨work, hworks, reaches, ?_, reaches.not_aborts ?_⟩
  · rw [answers]
    exact ⟨_, List.mem_cons_self⟩
  · rw [answers]
    simp

end GpuInfo
