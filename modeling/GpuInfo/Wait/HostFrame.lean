import GpuInfo.Wait.DeviceHistory
import GpuInfo.Wait.WorkQueue

/-!
What holds across each look at the device and each write to it holds across everything the
queue does, wherever it starts. Only a submission of works is left out: what it passes on is
not the queue's own.
-/

namespace GpuInfo
open StateProgram

/-- A relation between worlds that each look keeps, and each write but a submission's. -/
structure Looks (rel : World → World → Prop) : Prop where
  tick : Keeps rel tick
  note : ∀ event, Keeps rel (note event)
  setScope : ∀ scope state, (∀ error, state.outcome = some (.error error) →
    ∃ message, error = .submitRejected message) → Keeps rel (change (·.setScope scope state))
  newSignal : Keeps rel newSignal
  newLease : Keeps rel newLease
  polled : Keeps rel (change fun d => { d with polledLoss := d.loss })

/-- A fence is submitted as well. -/
structure Frame (rel : World → World → Prop) : Prop extends Looks rel where
  fence : ∀ signal, Keeps rel (submitChecked signal [])

/-- The hooks run one after the other. -/
theorem runHooks_trace (event : Lease → Event) (leases : List Lease) (w : World) :
    Ensures (runHooks event leases) w fun _ w' =>
      w'.trace.map (·.1) = (leases.map event).reverse ++ w.trace.map (·.1) := by
  induction leases generalizing w with
  | nil => exact Ensures.pure rfl
  | cons lease leases ih =>
      refine (tick_spec w).bind fun _ w₁ watched => ?_
      have notes : Ensures (note (event lease)) w₁ fun _ w₂ =>
          w₂.trace.map (·.1) = event lease :: w₁.trace.map (·.1) := rfl
      refine notes.bind fun _ w₂ h₂ => (ih w₂).mono fun _ w₃ h₃ => ?_
      rw [h₃, h₂, watched.trace, List.map_cons, List.reverse_cons, List.append_assoc]
      rfl

variable {rel : World → World → Prop} [IsPreorder World rel]

theorem Looks.checked (looks : Looks rel) {α : Type} (scope : ScopeId)
    {operation : Host (Except Payload α)} (h : Keeps rel operation) :
    Keeps rel (checked scope operation) := by
  refine looks.tick.bind fun _ => ?_
  split
  · exact Keeps.pure _
  · refine h.bind fun _ => looks.tick.bind fun _ => ?_
    split
    · exact Keeps.pure _
    · exact (looks.setScope scope _ (by simp)).bind fun _ => Keeps.pure _

namespace Frame

theorem runHooks (frame : Frame rel) (event : Lease → Event) (leases : List Lease) :
    Keeps rel (runHooks event leases) := by
  induction leases with
  | nil => exact Keeps.pure ()
  | cons lease leases ih =>
      exact frame.tick.bind fun _ => (frame.note (event lease)).bind fun _ => ih

theorem pollFuture (frame : Frame rel) (scope : ScopeId) : Keeps rel (pollFuture scope) := by
  refine frame.tick.bind fun _ => Keeps.get fun w => ?_
  split
  · exact Keeps.pure _
  · refine (frame.setScope scope _ (by simp)).bind fun _ => frame.tick.bind fun moment => ?_
    refine (frame.setScope scope _ fun _ => FutureAnswer.rejected).bind fun _ => ?_
    exact Keeps.pure _
  · exact Keeps.pure _
  · exact Keeps.pure _

mutual

theorem validation (frame : Frame rel) (validation : Validation) : Keeps rel validation.poll :=
  match validation with
  | .future scope => by
      rw [Validation.poll]
      exact frame.pollFuture scope
  | .all parts => by
      rw [Validation.poll]
      exact (frame.pollParts parts _).bind fun _ => Keeps.pure _

theorem pollParts (frame : Frame rel) (parts : List Validation) (tally : PollTally) :
    Keeps rel (Validation.pollParts parts tally) :=
  match parts with
  | [] => by
      rw [Validation.pollParts]
      exact Keeps.pure tally
  | part :: parts => by
      rw [Validation.pollParts]
      exact (frame.validation part).bind fun _ => frame.pollParts parts _

end

theorem pending (frame : Frame rel) : Keeps rel Submission.pending :=
  frame.newSignal.bind fun _ => Keeps.pure _

theorem validationStatus (frame : Frame rel) (submission : Submission) :
    Keeps rel submission.validationStatus := by
  unfold Submission.validationStatus
  split
  · exact frame.validation _
  · exact Keeps.pure _

theorem observe (frame : Frame rel) (submission : Submission) : Keeps rel submission.observe :=
  frame.tick.bind fun _ => Keeps.get fun _ => Keeps.pure _

theorem status (frame : Frame rel) (submission : Submission) : Keeps rel submission.status := by
  unfold Submission.status
  split
  · refine (frame.validation _).bind fun answer => ?_
    split
    · exact Keeps.pure _
    · exact Keeps.pure _
    · exact frame.observe submission
  · exact frame.observe submission

theorem poll (frame : Frame rel) : Keeps rel poll :=
  frame.tick.bind fun _ => frame.polled.bind fun _ => Keeps.get fun _ => Keeps.pure _

theorem lossReason (frame : Frame rel) : Keeps rel lossReason :=
  frame.tick.bind fun _ => Keeps.get fun _ => Keeps.pure _

/-! Entries -/

theorem scopesSettled (frame : Frame rel) (validation : Option Validation) :
    Keeps rel (scopesSettled validation) := by
  unfold GpuInfo.scopesSettled
  split
  · exact (frame.validation _).bind fun _ => Keeps.pure _
  · exact Keeps.pure _

section
variable (entry : PendingWork)

theorem validationsSettled (frame : Frame rel) : Keeps rel entry.validationsSettled :=
  (frame.scopesSettled _).bind fun _ => (frame.scopesSettled _).bind fun _ => Keeps.pure _

theorem submitted (frame : Frame rel) : Keeps rel entry.submitted :=
  (frame.runHooks _ _).bind fun _ => Keeps.pure _

theorem finish (frame : Frame rel) (outcome : Outcome) : Keeps rel (entry.finish outcome) :=
  frame.runHooks _ _

theorem recover (frame : Frame rel) : Keeps rel entry.recover := by
  refine frame.newSignal.bind fun fence => (frame.fence fence).bind fun result => ?_
  split
  · exact Keeps.pure _
  · exact Keeps.pure _
  · exact frame.pending.bind fun _ => Keeps.pure _

theorem commit (frame : Frame rel) (validation : Option Outcome) :
    Keeps rel (entry.commit validation) := by
  unfold PendingWork.commit
  split
  · exact frame.submitted entry
  · exact Keeps.pure _

theorem noteFailure (frame : Frame rel) (queueEmpty : Bool) (status : Option Outcome) :
    Keeps rel (entry.noteFailure queueEmpty status) := by
  unfold PendingWork.noteFailure
  split
  · simp only
    split
    · exact Keeps.pure _
    · exact frame.recover _
  · exact Keeps.pure _

theorem retired (frame : Frame rel) (queueEmpty : Bool) : Keeps rel (entry.retired queueEmpty) := by
  refine (frame.validationsSettled entry).bind fun settled => ?_
  split
  · exact Keeps.pure _
  · split
    · exact Keeps.pure _
    · split
      · refine (frame.status _).bind fun status => ?_
        split <;> exact Keeps.pure _
      · exact Keeps.pure _

theorem recovered (frame : Frame rel) (retired : Bool) : Keeps rel (entry.recovered retired) := by
  unfold PendingWork.recovered
  split
  · refine frame.lossReason.bind fun loss => ?_
    split
    · exact Keeps.pure _
    · refine (frame.validation _).bind fun answer => ?_
      split <;> exact Keeps.pure _
  · exact frame.lossReason.bind fun _ => Keeps.pure _
  · exact Keeps.pure _

theorem commitRecovered (frame : Frame rel) (recovered : Bool) :
    Keeps rel (entry.commitRecovered recovered) := by
  unfold PendingWork.commitRecovered
  split
  · exact frame.submitted entry
  · exact Keeps.pure _

theorem settle (frame : Frame rel) (queueEmpty : Bool) : Keeps rel (entry.settle queueEmpty) :=
  (frame.validationStatus _).bind fun _ => (frame.commit _ _).bind fun _ =>
    (frame.status _).bind fun _ => (frame.note _).bind fun _ =>
    (frame.noteFailure _ _ _).bind fun _ => (frame.retired _ _).bind fun _ =>
    (frame.recovered _ _).bind fun _ => (frame.commitRecovered _ _).bind fun _ => Keeps.pure _

end

/-! The queue -/

theorem finishAll (frame : Frame rel) (outcome : Outcome) (entries : List PendingWork) :
    Keeps rel (WorkQueue.finishAll outcome entries) := by
  induction entries with
  | nil => exact Keeps.pure ()
  | cons entry entries ih => exact (frame.finish entry outcome).bind fun _ => ih

theorem collectPending (frame : Frame rel) (queueEmpty : Bool) (entries : List PendingWork)
    (collected : Collected) :
    Keeps rel (WorkQueue.collectPending queueEmpty entries collected) := by
  induction entries generalizing collected with
  | nil => exact Keeps.pure _
  | cons entry entries ih =>
      refine (frame.settle entry queueEmpty).bind fun result => ?_
      obtain ⟨entry, outcome⟩ := result
      cases outcome with
      | some outcome => exact (frame.finish entry outcome).bind fun _ => ih _
      | none => exact (ih collected).bind fun _ => Keeps.pure _

section
variable (queue : WorkQueue)

theorem terminalLoss (frame : Frame rel) : Keeps rel queue.terminalLoss := by
  refine frame.lossReason.bind fun loss => ?_
  split
  · exact Keeps.pure _
  · exact (frame.finishAll _ _).bind fun _ => Keeps.pure _

theorem collectPolled (frame : Frame rel) (polled : Except WaitError PollStatus) :
    Keeps rel (queue.collectPolled polled) := by
  unfold WorkQueue.collectPolled
  split
  · exact Keeps.pure _
  · exact Keeps.pure _
  · exact (frame.collectPending _ _ _).bind fun _ => Keeps.pure _

theorem collect (frame : Frame rel) : Keeps rel queue.collect := by
  refine (frame.terminalLoss queue).bind fun result => ?_
  split
  · exact Keeps.pure _
  · split
    · exact Keeps.pure _
    · refine frame.poll.bind fun polled => (frame.terminalLoss _).bind fun result => ?_
      split
      · exact Keeps.pure _
      · exact frame.collectPolled _ polled

theorem waitSlice (frame : Frame rel) : Keeps rel queue.waitSlice := by
  unfold WorkQueue.waitSlice
  split
  · exact Keeps.pure ()
  · refine (frame.validationsSettled _).bind fun settled => (frame.observe _).bind fun guard => ?_
    split
    · exact frame.tick.bind fun _ => Keeps.pure ()
    · exact Keeps.pure ()

theorem pauseIfPending (frame : Frame rel) : Keeps rel queue.pauseIfPending := by
  unfold WorkQueue.pauseIfPending
  split
  · exact Keeps.pure ()
  · exact frame.waitSlice queue

end

theorem instant (frame : Frame rel) : Keeps rel WorkQueue.instant :=
  frame.tick.bind fun _ => Keeps.get fun _ => Keeps.pure _

theorem remaining (frame : Frame rel) (start timeout : Nat) :
    Keeps rel (WorkQueue.remaining start timeout) := by
  refine frame.instant.bind fun now => Keeps.get fun w => ?_
  simp only
  split
  · split <;> exact Keeps.pure _
  · exact Keeps.pure _

theorem waitLoop (frame : Frame rel) (maxPending start timeout fuel : Nat) (queue : WorkQueue)
    (total : Nat) : Keeps rel (WorkQueue.waitLoop maxPending start timeout fuel queue total) := by
  induction fuel generalizing queue total with
  | zero => exact Keeps.pure _
  | succ fuel ih =>
      rw [WorkQueue.waitLoop]
      split
      · exact Keeps.pure _
      · refine (frame.remaining start timeout).bind fun left => ?_
        split
        · exact Keeps.pure _
        · exact Keeps.pure _
        · refine (frame.waitSlice queue).bind fun _ => (frame.collect queue).bind fun result => ?_
          obtain ⟨queue, collected⟩ := result
          cases collected with
          | error error => exact Keeps.pure _
          | ok completed => exact ih queue _

theorem waitForSlots (frame : Frame rel) (queue : WorkQueue) (needed timeout fuel : Nat) :
    Keeps rel (queue.waitForSlots needed timeout fuel) := by
  refine (frame.collect queue).bind fun result => ?_
  obtain ⟨queue, collected⟩ := result
  cases collected with
  | error error => exact Keeps.pure _
  | ok total =>
      simp only
      split
      · exact Keeps.pure _
      · exact frame.instant.bind fun start => frame.waitLoop _ start timeout fuel queue total

theorem shutdownLoop (frame : Frame rel) (fuel : Nat) (queue : WorkQueue)
    (failure : Option WaitError) : Keeps rel (WorkQueue.shutdownLoop fuel queue failure) := by
  induction fuel generalizing queue failure with
  | zero => exact Keeps.pure _
  | succ fuel ih =>
      simp only [WorkQueue.shutdownLoop]
      split
      · exact Keeps.pure _
      · refine (frame.collect queue).bind fun result => ?_
        obtain ⟨queue, collected⟩ := result
        cases collected with
        | ok completed => exact (frame.pauseIfPending queue).bind fun _ => ih queue _
        | error error =>
            simp only
            split
            · exact Keeps.pure _
            · exact (frame.pauseIfPending queue).bind fun _ => ih queue _

theorem drop (frame : Frame rel) (fuel : Nat) (queue : WorkQueue) :
    Keeps rel (WorkQueue.drop fuel queue) := by
  induction fuel generalizing queue with
  | zero => exact Keeps.pure _
  | succ fuel ih =>
      rw [WorkQueue.drop]
      split
      · exact Keeps.pure _
      · refine (frame.shutdownLoop fuel queue none).bind fun result => ?_
        obtain ⟨queue, finished⟩ := result
        simp only
        split
        · exact (frame.pauseIfPending queue).bind fun _ => ih queue
        · exact ih queue
        · exact ih queue

/-! Works -/

theorem newWork (frame : Frame rel) (context : WorkContext) (commands : List CommandBuffer)
    (lease : Lease) : Keeps rel (RecordedWork.new context commands lease) :=
  (frame.note _).bind fun _ => Keeps.pure _

theorem dropWork (frame : Frame rel) (work : RecordedWork) : Keeps rel work.drop :=
  frame.runHooks _ _

theorem record (frame : Frame rel) (context : WorkContext)
    (operation : Except Payload CommandBuffer) (lease : Lease) :
    Keeps rel (RecordedWork.record context operation lease) := by
  refine (frame.checked _ (Keeps.pure operation)).bind fun result => ?_
  split
  · exact Keeps.pure _
  · refine (frame.newWork context [] lease).bind fun work => ?_
    simp only
    split
    · exact (frame.dropWork _).bind fun _ => Keeps.pure _
    · refine (frame.validation _).bind fun status => ?_
      split
      · exact (frame.dropWork _).bind fun _ => Keeps.pure _
      · exact Keeps.pure _
      · exact Keeps.pure _

/-- Every call but the one that submits works. -/
theorem call (frame : Frame rel) (client : Client) {call : Call}
    (h : ∀ index, call ≠ .trySubmit index) : Keeps rel (client.call call) := by
  cases call with
  | new context count =>
      exact frame.newLease.bind fun lease => (frame.newWork _ _ _).bind fun _ => Keeps.pure _
  | record context panic =>
      refine frame.newLease.bind fun lease => (frame.record _ _ _).bind fun result => ?_
      split <;> exact Keeps.pure _
  | append into other =>
      simp only [Client.call]
      split <;> exact Keeps.pure _
  | dropWork index =>
      simp only [Client.call]
      split
      · exact (frame.dropWork _).bind fun _ => Keeps.pure _
      · exact Keeps.pure _
  | trySubmit index => exact absurd rfl (h index)
  | collect => exact (frame.collect _).bind fun _ => Keeps.pure _
  | waitForSlots needed timeout fuel =>
      exact (frame.waitForSlots _ _ _ _).bind fun _ => Keeps.pure _
  | shutdown fuel => exact (frame.shutdownLoop _ _ _).bind fun _ => Keeps.pure _
  | dropQueue fuel => exact (frame.drop _ _).bind fun _ => Keeps.pure _

end Frame

end GpuInfo
