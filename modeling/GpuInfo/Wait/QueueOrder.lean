import GpuInfo.Wait.DeviceFootprint
import GpuInfo.Wait.Guarantees
import GpuInfo.Wait.QueueRule
import GpuInfo.Wait.SubmissionHistory

/-!
Order and bound of a work queue, and what it is poisoned by. Whatever the device answers, the
entries a queue retains are in the order of their submission and no more than its capacity, and
it is poisoned while one of them carries a failure, once polling has panicked and once a collect
has reported the device lost.
-/

namespace GpuInfo
open StateProgram

/-- Any error but the loss of the device. -/
def WaitError.NotLoss (error : WaitError) : Prop := ∀ reason, error ≠ .deviceLost reason

/-- What an entry can fail with: neither the loss of the device nor a panic of its polling. -/
structure WaitError.OfEntry (error : WaitError) : Prop where
  notLoss : error.NotLoss
  notPolling : ∀ message, error ≠ .pollPanicked message

def PendingWork.FailedPlainly (entry : PendingWork) : Prop :=
  ∀ error, entry.failure = some error → error.OfEntry

def WorkQueue.Failed (queue : WorkQueue) : Prop :=
  ∃ entry ∈ queue.pending, entry.failure.isSome = true

def QueueLog.Lost (log : QueueLog) : Prop :=
  ∃ reason, Except.error (.deviceLost reason) ∈ log.collects

/-- A collect has reported that polling has panicked. -/
def QueueLog.Faulted (log : QueueLog) : Prop :=
  ∃ message, Except.error (.pollPanicked message) ∈ log.collects

structure WorkQueue.Orderly (queue : WorkQueue) (log : QueueLog) (w : World) : Prop where
  plain : w.device.Plain
  order : (queue.pending.map (·.completion.signal)).Sublist log.pushed
  increasing : log.pushed.Pairwise (· < ·)
  known : ∀ signal ∈ log.pushed, signal < w.device.nextSignal
  bound : queue.pending.length ≤ queue.capacity
  plainly : ∀ entry ∈ queue.pending, entry.FailedPlainly
  failed : queue.Failed → queue.poisoned = true
  fault : ∀ error, queue.pollFault = some error → queue.poisoned = true ∧ error.NotLoss
  lost : log.Lost → w.device.loss ≠ none ∧ queue.poisoned = true
  faulted : log.Faulted → queue.pollFault ≠ none

section
variable {w w' : World} {commands : List CommandBuffer}

theorem Device.Plain.kept {α : Type} {f : Host α} (hplain : w.device.Plain)
    (h : Keeps (GpuInfo.Footprint []) f) : Ensures f w fun _ w' => w'.device.Plain :=
  (h w).plain hplain

theorem Device.Plain.ofEntry {scopes : List ScopeId} {error : WaitError} {d : Device}
    (hplain : d.Plain) (h : d.Rejected scopes error) : error.OfEntry := by
  obtain ⟨scope, -, houtcome⟩ := h
  obtain ⟨message, rfl⟩ := hplain.scopes houtcome
  exact ⟨nofun, nofun⟩

/-! Answers about an entry -/

namespace Submission
variable (submission : Submission)

theorem validationStatus_plain (hplain : w.device.Plain) :
    Ensures submission.validationStatus w fun answer w' =>
      w'.device.Plain ∧ ∀ error, answer = some (.error error) → error.OfEntry := by
  refine ((submission.validationStatus_spec w).and
    (hplain.kept (Footprint.frame.validationStatus submission))).mono fun answer w' h => ⟨h.2, ?_⟩
  intro error hanswer
  obtain ⟨⟨-, answers, unscoped⟩, hplain'⟩ := h
  cases hvalidation : submission.validation with
  | none => simp [unscoped hvalidation] at hanswer
  | some validation => exact hplain'.ofEntry ((answers validation hvalidation).2 error hanswer)

theorem observe_plain (hplain : w.device.Plain) :
    Ensures submission.observe w fun answer w' =>
      w'.device.Plain ∧ ∀ error, answer = some (.error error) → error.OfEntry := by
  refine ((submission.observe_spec w).and (hplain.kept (Footprint.frame.observe submission))).mono
    fun answer w' h => ⟨h.2, fun error hanswer => ?_⟩
  rw [h.1.2] at hanswer
  rw [h.2.signals hanswer]
  exact ⟨nofun, nofun⟩

theorem status_plain (hplain : w.device.Plain) :
    Ensures submission.status w fun answer w' =>
      w'.device.Plain ∧ ∀ error, answer = some (.error error) → error.OfEntry := by
  obtain ⟨signal, validation⟩ := submission
  cases validation with
  | none => exact observe_plain ⟨signal, none⟩ hplain
  | some validation =>
      have polled := (validation.poll_spec w).and
        (hplain.kept (Footprint.frame.validation validation))
      refine polled.bind fun answer w₁ h => ?_
      obtain ⟨⟨-, answers⟩, hplain₁⟩ := h
      split
      · exact Ensures.pure ⟨hplain₁, nofun⟩
      · rename_i error
        refine Ensures.pure ⟨hplain₁, fun error' heq => ?_⟩
        cases heq
        exact hplain₁.ofEntry (answers.2 error rfl)
      · exact observe_plain _ hplain₁

end Submission

/-! One entry -/

/-- Neither whose it is nor whether it failed has changed. -/
structure PendingWork.Same (entry entry' : PendingWork) : Prop where
  completion : entry'.completion = entry.completion
  failure : entry'.failure = entry.failure

/-- Whose it is has not changed, and neither has the failure that it carries, if any. -/
structure PendingWork.Stays (entry entry' : PendingWork) : Prop where
  completion : entry'.completion = entry.completion
  failure : ∀ error, entry.failure = some error → entry'.failure = some error

theorem PendingWork.Same.stays {entry entry' : PendingWork} (h : Same entry entry') :
    Stays entry entry' := ⟨h.completion, fun _ hfailure => h.failure.trans hfailure⟩

theorem PendingWork.Stays.trans {entry entry' entry'' : PendingWork} (h : Stays entry entry')
    (h' : Stays entry' entry'') : Stays entry entry'' :=
  ⟨h'.completion.trans h.completion,
    fun error hfailure => h'.failure error (h.failure error hfailure)⟩

namespace PendingWork
variable (entry : PendingWork)

theorem Same.refl : Same entry entry := ⟨rfl, rfl⟩

theorem submitted_same : Ensures entry.submitted w fun entry' _ => Same entry entry' :=
  Ensures.andThen fun _ _ => Ensures.pure ⟨rfl, rfl⟩

theorem recover_same : Ensures entry.recover w fun entry' _ => Same entry entry' := by
  refine Ensures.andThen fun fence w₁ => Ensures.andThen fun result w₂ => ?_
  split
  · exact Ensures.pure (.refl entry)
  · exact Ensures.pure ⟨rfl, rfl⟩
  · exact Ensures.andThen fun _ _ => Ensures.pure ⟨rfl, rfl⟩

theorem commit_same (validation : Option Outcome) :
    Ensures (entry.commit validation) w fun entry' _ => Same entry entry' := by
  unfold commit
  split
  · exact entry.submitted_same
  · exact Ensures.pure (.refl entry)

theorem commitRecovered_same (recovered : Bool) :
    Ensures (entry.commitRecovered recovered) w fun entry' _ => Same entry entry' := by
  unfold commitRecovered
  split
  · exact entry.submitted_same
  · exact Ensures.pure (.refl entry)

theorem noteFailure_plain (queueEmpty : Bool) {status : Option Outcome}
    (hentry : entry.FailedPlainly)
    (hstatus : ∀ error, status = some (.error error) → error.OfEntry) :
    Ensures (entry.noteFailure queueEmpty status) w fun entry' _ =>
      Stays entry entry' ∧ entry'.FailedPlainly := by
  unfold noteFailure
  split
  · rename_i error hnone
    have unfailed : ∀ {entry' : PendingWork} (before : WaitError),
        entry.failure = some before → entry'.failure = some before := fun _ heq => by
      cases hnone.symm.trans heq
    have plainly : FailedPlainly { entry with failure := some error } := by
      intro error' heq
      cases heq
      exact hstatus error rfl
    simp only
    split
    · exact Ensures.pure ⟨⟨rfl, unfailed⟩, plainly⟩
    · refine (recover_same _).mono fun entry' _ same =>
        ⟨⟨same.completion, unfailed⟩, fun error' heq => ?_⟩
      exact plainly error' (same.failure.symm.trans heq)
  · exact Ensures.pure ⟨(Same.refl entry).stays, hentry⟩

theorem outcome_plain {retired recovered : Bool} {status : Option Outcome}
    (hentry : entry.FailedPlainly)
    (hstatus : ∀ error, status = some (.error error) → error.OfEntry) {error : WaitError}
    (h : entry.outcome retired recovered status = some (.error error)) : error.OfEntry := by
  unfold outcome at h
  split at h
  · rename_i failure hfailure
    split at h
    · cases h
    · split at h
      · cases h
        exact hentry error hfailure
      · cases h
  · exact hstatus error h

/-- A turn of the loop knows the entry again, and reports no failure that is not an entry's. -/
theorem settle_plain (queueEmpty : Bool) (hplain : w.device.Plain)
    (hentry : entry.FailedPlainly) :
    Ensures (entry.settle queueEmpty) w fun result w' => w'.device.Plain ∧
      Stays entry result.1 ∧ result.1.FailedPlainly ∧
      ∀ error, result.2 = some (.error error) → error.OfEntry := by
  refine (hplain.kept (Footprint.frame.settle entry queueEmpty)).and ?_
  refine (hplain.kept (Footprint.frame.validationStatus _)).bind fun validation w₁ hplain₁ => ?_
  have committed := (hplain₁.kept (Footprint.frame.commit entry validation)).and
    (entry.commit_same validation)
  refine committed.bind fun entry₁ w₂ h₂ => ?_
  obtain ⟨hplain₂, same₁⟩ := h₂
  refine (Submission.status_plain _ hplain₂).bind fun status w₃ h₃ => ?_
  obtain ⟨-, hstatus⟩ := h₃
  refine Ensures.andThen fun _ w₄ => ?_
  have hentry₁ : entry₁.FailedPlainly := fun error heq =>
    hentry error (same₁.failure.symm.trans heq)
  refine (entry₁.noteFailure_plain queueEmpty hentry₁ hstatus).bind fun entry₂ w₅ h₅ => ?_
  obtain ⟨stays₂, hentry₂⟩ := h₅
  refine Ensures.andThen fun retired w₆ => Ensures.andThen fun recovered w₇ => ?_
  refine (entry₂.commitRecovered_same recovered).bind fun entry₃ w₈ same₃ => Ensures.pure ?_
  have hentry₃ : entry₃.FailedPlainly := fun error heq =>
    hentry₂ error (same₃.failure.symm.trans heq)
  refine ⟨?_, hentry₃, fun error h => entry₃.outcome_plain hentry₃ hstatus h⟩
  exact (same₁.stays.trans stays₂).trans same₃.stays

end PendingWork

/-! A collect -/

theorem Collected.add_plain {collected : Collected} {outcome : Outcome}
    (h : ∀ error, collected.failure = some error → error.OfEntry)
    (houtcome : ∀ error, outcome = .error error → error.OfEntry) :
    ∀ error, (collected.add outcome).failure = some error → error.OfEntry := by
  intro error hfailure
  cases outcome with
  | ok value => exact h error hfailure
  | error failed =>
      cases hbefore : collected.failure with
      | none =>
          simp only [Collected.add, hbefore] at hfailure
          cases hfailure
          exact houtcome error rfl
      | some before =>
          simp only [Collected.add, hbefore] at hfailure
          cases hfailure
          exact h error hbefore

namespace WorkQueue

/-- The entries that stay are still in order, and stay as they were. -/
theorem collectPending_plain (queueEmpty : Bool) (entries : List PendingWork)
    {collected : Collected} (hplain : w.device.Plain)
    (hentries : ∀ entry ∈ entries, entry.FailedPlainly)
    (hcollected : ∀ error, collected.failure = some error → error.OfEntry) :
    Ensures (collectPending queueEmpty entries collected) w fun result _ =>
      (result.1.map (·.completion.signal)).Sublist (entries.map (·.completion.signal)) ∧
      (∀ entry' ∈ result.1, entry'.FailedPlainly ∧ ∃ entry ∈ entries, entry.Stays entry') ∧
      ∀ error, result.2.failure = some error → error.OfEntry := by
  induction entries generalizing collected w with
  | nil => exact Ensures.pure ⟨.slnil, nofun, hcollected⟩
  | cons entry entries ih =>
      have hrest : ∀ entry ∈ entries, entry.FailedPlainly :=
        fun other hother => hentries other (List.mem_cons_of_mem entry hother)
      refine (entry.settle_plain queueEmpty hplain (hentries entry List.mem_cons_self)).bind
        fun result w₁ h₁ => ?_
      obtain ⟨entry₁, outcome⟩ := result
      obtain ⟨hplain₁, stays, hentry₁, houtcome⟩ := h₁
      have later : ∀ {entry' : PendingWork}, (∃ before ∈ entries, before.Stays entry') →
          ∃ before ∈ entry :: entries, before.Stays entry' := fun h => by
        obtain ⟨before, hbefore, hstays⟩ := h
        exact ⟨before, List.mem_cons_of_mem entry hbefore, hstays⟩
      cases outcome with
      | some outcome =>
          refine (hplain₁.kept (Footprint.frame.finish entry₁ outcome)).bind fun _ w₂ hplain₂ => ?_
          have hadded : ∀ error, (collected.add outcome).failure = some error → error.OfEntry :=
            Collected.add_plain hcollected fun error herror => houtcome error (by rw [herror])
          refine (ih hplain₂ hrest hadded).mono fun result _ h => ?_
          obtain ⟨hsublist, hkept, hfailure⟩ := h
          exact ⟨hsublist.cons _, fun other hother =>
            ⟨(hkept other hother).1, later (hkept other hother).2⟩, hfailure⟩
      | none =>
          refine (ih hplain₁ hrest hcollected).bind fun result w₂ h₂ => Ensures.pure ?_
          obtain ⟨hsublist, hkept, hfailure⟩ := h₂
          refine ⟨?_, fun other hother => ?_, hfailure⟩
          · rw [List.map_cons, List.map_cons, congrArg Submission.signal stays.completion]
            exact hsublist.cons_cons _
          · cases List.mem_cons.mp hother with
            | inl heq =>
                rw [heq]
                exact ⟨hentry₁, entry, List.mem_cons_self, stays⟩
            | inr hother => exact ⟨(hkept other hother).1, later (hkept other hother).2⟩

/-- Either no loss is known, or everything is settled with it. -/
theorem terminalLoss_cases (queue : WorkQueue) (w : World) :
    Ensures queue.terminalLoss w fun result w' =>
      (result = (queue, none) ∧ w'.device.loss = none) ∨
      ∃ reason, result = ({ queue with pending := [], poisoned := true },
        some (.deviceLost reason)) ∧ w'.device.loss ≠ none := by
  refine (lossReason_spec w).bind fun loss w₁ h₁ => ?_
  obtain ⟨-, hloss⟩ := h₁
  cases loss with
  | none => exact Ensures.pure (.inl ⟨rfl, hloss.symm⟩)
  | some reason =>
      have finished :
          Keeps (Footprint []) (finishAll (.error (.deviceLost reason)) queue.pending) :=
        Footprint.frame.finishAll _ _
      refine (finished w₁).bind fun _ w₂ footprint => Ensures.pure (.inr ⟨reason, rfl, ?_⟩)
      rw [footprint.loss hloss.symm]
      exact nofun

namespace Orderly
variable {queue : WorkQueue} {log : QueueLog}

/-- What only looks and notes keeps the queue in order. -/
theorem kept (h : queue.Orderly log w) (footprint : Footprint commands w w') :
    queue.Orderly log w' where
  plain := footprint.plain h.plain
  order := h.order
  increasing := h.increasing
  known signal hsignal := (h.known signal hsignal).trans_le footprint.nextSignal
  bound := h.bound
  plainly := h.plainly
  failed := h.failed
  fault := h.fault
  lost hlost := by
    obtain ⟨hloss, hpoisoned⟩ := h.lost hlost
    obtain ⟨reason, hreason⟩ := Option.ne_none_iff_exists'.mp hloss
    rw [footprint.loss hreason]
    exact ⟨nofun, hpoisoned⟩
  faulted := h.faulted

theorem lost_add {result : Except WaitError Nat}
    (h : (log.add (.collected result)).Lost) :
    log.Lost ∨ ∃ reason, result = .error (.deviceLost reason) := by
  obtain ⟨reason, hmem⟩ := h
  cases List.mem_append.mp hmem with
  | inl hold => exact .inl ⟨reason, hold⟩
  | inr hnew => exact .inr ⟨reason, (List.mem_singleton.mp hnew).symm⟩

theorem faulted_add {result : Except WaitError Nat}
    (h : (log.add (.collected result)).Faulted) :
    log.Faulted ∨ ∃ message, result = .error (.pollPanicked message) := by
  obtain ⟨message, hmem⟩ := h
  cases List.mem_append.mp hmem with
  | inl hold => exact .inl ⟨message, hold⟩
  | inr hnew => exact .inr ⟨message, (List.mem_singleton.mp hnew).symm⟩

/-- A collect that reports something else than a loss; a panic of polling it has latched. -/
theorem collected (h : queue.Orderly log w) {result : Except WaitError Nat}
    (notLost : ∀ error, result = .error error → error.NotLoss)
    (latched : ∀ message, result = .error (.pollPanicked message) → queue.pollFault ≠ none) :
    queue.Orderly (log.add (.collected result)) w where
  plain := h.plain
  order := by
    rw [QueueLog.add, QueueLog.collected, List.append_nil]
    exact h.order
  increasing := by
    rw [QueueLog.add, QueueLog.collected, List.append_nil]
    exact h.increasing
  known := by
    rw [QueueLog.add, QueueLog.collected, List.append_nil]
    exact h.known
  bound := h.bound
  plainly := h.plainly
  failed := h.failed
  fault := h.fault
  lost hlost := by
    cases lost_add hlost with
    | inl hold => exact h.lost hold
    | inr hnew =>
        obtain ⟨reason, rfl⟩ := hnew
        exact absurd rfl (notLost _ rfl reason)
  faulted hfaulted := by
    cases faulted_add hfaulted with
    | inl hold => exact h.faulted hold
    | inr hnew =>
        obtain ⟨message, hmessage⟩ := hnew
        exact latched message hmessage

/-- A collect that finds the device lost settles everything. -/
theorem lostNow (h : queue.Orderly log w) (hloss : w.device.loss ≠ none) (reason : String) :
    ({ queue with pending := [], poisoned := true } : WorkQueue).Orderly
      (log.add (.collected (.error (.deviceLost reason)))) w where
  plain := h.plain
  order := List.nil_sublist _
  increasing := by
    rw [QueueLog.add, QueueLog.collected, List.append_nil]
    exact h.increasing
  known := by
    rw [QueueLog.add, QueueLog.collected, List.append_nil]
    exact h.known
  bound := Nat.zero_le _
  plainly := nofun
  failed _ := rfl
  fault error hfault := ⟨rfl, (h.fault error hfault).2⟩
  lost _ := ⟨hloss, rfl⟩
  faulted hfaulted := by
    cases faulted_add hfaulted with
    | inl hold => exact h.faulted hold
    | inr hnew =>
        obtain ⟨message, hmessage⟩ := hnew
        cases hmessage

end Orderly

/-- What a collect leaves of a queue: entries it had before, and a latched fault. -/
structure Leaves (queue result : WorkQueue) : Prop where
  entries : ∀ entry' ∈ result.pending, ∃ entry ∈ queue.pending, entry.Stays entry'
  fault : ∀ error, queue.pollFault = some error → result.pollFault = some error

theorem Leaves.refl (queue : WorkQueue) : queue.Leaves queue :=
  ⟨fun entry hentry => ⟨entry, hentry, (PendingWork.Same.refl entry).stays⟩, fun _ => id⟩

/-- What a collect that succeeds has found. -/
structure Sound (log : QueueLog) (queue : WorkQueue) : Prop where
  fault : queue.pollFault = none
  poisoned : queue.poisoned = true ↔ queue.Failed
  notLost : ¬ log.Lost

/-- What a collect leaves and reports. -/
structure CollectOrder (queue : WorkQueue) (log : QueueLog)
    (result : WorkQueue × Except WaitError Nat) (w : World) : Prop where
  orderly : result.1.Orderly (log.add (.collected result.2)) w
  sound : ∀ completed, result.2 = .ok completed → Sound log result.1
  leaves : queue.Leaves result.1

theorem failed_iff (queue : WorkQueue) :
    queue.Failed ↔ queue.pending.any (·.failure.isSome) = true := by
  rw [List.any_eq_true]
  rfl

/-- A collect that polled reports the failure of an entry, if any. -/
theorem reported_ofEntry {collected : Collected}
    (h : ∀ error, collected.failure = some error → error.OfEntry) {error : WaitError}
    (heq : (match collected.failure with
      | none => .ok collected.completed
      | some error => .error error : Except WaitError Nat) = .error error) : error.OfEntry := by
  cases hcollected : collected.failure with
  | none => simp [hcollected] at heq
  | some first =>
      simp only [hcollected] at heq
      cases heq
      exact h error hcollected

theorem collectPolled_orderly {queue : WorkQueue} {log : QueueLog} (h : queue.Orderly log w)
    (hloss : w.device.loss = none) (hfault : queue.pollFault = none)
    {polled : Except WaitError PollStatus}
    (notLost : ∀ error, polled = .error error → error.NotLoss) :
    Ensures (queue.collectPolled polled) w (queue.CollectOrder log) := by
  have hnotLost : ¬ log.Lost := fun hlost => (h.lost hlost).1 hloss
  unfold collectPolled
  split
  · rename_i message
    have latched : ({ queue with pollFault := some (.pollPanicked message), poisoned := true } :
        WorkQueue).Orderly log w := by
      refine { h with
        failed := fun _ => rfl
        fault := fun error heq => ?_
        lost := fun hlost => absurd hlost hnotLost
        faulted := fun _ => nofun }
      cases heq
      exact ⟨rfl, nofun⟩
    have leaves : queue.Leaves
        { queue with pollFault := some (.pollPanicked message), poisoned := true } :=
      ⟨(Leaves.refl queue).entries, fun _ heq => by cases hfault.symm.trans heq⟩
    refine Ensures.pure ⟨latched.collected (fun error heq => ?_) fun _ _ => nofun, nofun, leaves⟩
    cases heq
    exact nofun
  · rename_i error notPanicked
    have other : ∀ message,
        (.error error : Except WaitError Nat) ≠ .error (.pollPanicked message) :=
      fun message heq => notPanicked message (Except.error.inj heq)
    refine Ensures.pure ⟨h.collected (fun error' heq => ?_) fun message heq =>
      absurd heq (other message), nofun, .refl queue⟩
    cases heq
    exact notLost error rfl
  · rename_i status
    have unfailed : ∀ error, (⟨0, none⟩ : Collected).failure = some error → error.OfEntry := nofun
    have spec := collectPending_plain (status == .queueEmpty) queue.pending h.plain h.plainly
      unfailed
    refine (withFootprint spec (Footprint.frame.collectPending _ _ _)).bind fun result w₁ h₁ =>
      Ensures.pure ?_
    obtain ⟨pending, collected⟩ := result
    obtain ⟨⟨hsublist, hkept, hfailure⟩, footprint⟩ := h₁
    have settled : ({ queue with pending, poisoned := pending.any (·.failure.isSome) } :
        WorkQueue).Orderly log w₁ := by
      refine { h.kept footprint with
        order := hsublist.trans h.order
        bound := ?_
        plainly := fun entry hentry => (hkept entry hentry).1
        failed := (failed_iff _).mp
        fault := ?_
        lost := fun hlost => absurd hlost hnotLost }
      · have hlength := hsublist.length_le
        rw [List.length_map, List.length_map] at hlength
        exact hlength.trans h.bound
      · intro error heq
        cases hfault.symm.trans heq
    refine ⟨settled.collected (fun error heq => (reported_ofEntry hfailure heq).notLoss)
      fun message heq => absurd rfl ((reported_ofEntry hfailure heq).notPolling message),
      fun completed heq => ⟨hfault, ?_, hnotLost⟩, fun entry' hentry => (hkept entry' hentry).2,
      fun _ => id⟩
    exact (failed_iff { queue with pending, poisoned := pending.any (·.failure.isSome) }).symm

theorem poll_notLost (w : World) :
    Ensures poll w fun polled _ => ∀ error, polled = .error error → error.NotLoss := by
  refine Ensures.andThen fun moment w₁ => Ensures.andThen fun _ w₂ => Ensures.get
    (Ensures.pure fun error heq => ?_)
  cases hpoll : moment.poll with
  | queueEmpty =>
      simp only [hpoll] at heq
      split at heq <;> cases heq
  | waitSucceeded | poll =>
      rw [hpoll] at heq
      cases heq
  | failed message | panicked payload =>
      rw [hpoll] at heq
      cases heq
      exact nofun

theorem collect_orderly {queue : WorkQueue} {log : QueueLog} (h : queue.Orderly log w) :
    Ensures queue.collect w (queue.CollectOrder log) := by
  have looked := withFootprint (queue.terminalLoss_cases w) (Footprint.frame.terminalLoss queue)
  refine looked.bind fun result w₁ h₁ => ?_
  obtain ⟨hcases, footprint₁⟩ := h₁
  have orderly₁ := h.kept footprint₁
  cases hcases with
  | inr lost =>
      obtain ⟨reason, rfl, hloss⟩ := lost
      exact Ensures.pure ⟨orderly₁.lostNow hloss reason, nofun, nofun, fun _ => id⟩
  | inl unlost =>
      obtain ⟨rfl, -⟩ := unlost
      simp only
      split
      · rename_i error hfault
        have latched : queue.pollFault ≠ none := by
          rw [hfault]
          exact nofun
        refine Ensures.pure ⟨orderly₁.collected (fun error' heq => ?_) fun _ _ => latched, nofun,
          .refl queue⟩
        cases heq
        exact (h.fault error hfault).2
      · rename_i hfault
        refine (withFootprint (poll_notLost w₁) Footprint.frame.poll).bind fun polled w₂ h₂ => ?_
        obtain ⟨notLost, footprint₂⟩ := h₂
        have looked := withFootprint (queue.terminalLoss_cases w₂)
          (Footprint.frame.terminalLoss queue)
        refine looked.bind fun result w₃ h₃ => ?_
        obtain ⟨hcases, footprint₃⟩ := h₃
        have orderly₃ := (orderly₁.kept footprint₂).kept footprint₃
        cases hcases with
        | inr lost =>
            obtain ⟨reason, rfl, hloss⟩ := lost
            exact Ensures.pure ⟨orderly₃.lostNow hloss reason, nofun, nofun, fun _ => id⟩
        | inl unlost =>
            obtain ⟨rfl, hloss⟩ := unlost
            exact collectPolled_orderly orderly₃ hloss hfault notLost

end WorkQueue

/-! A submission -/

theorem submitTo_signal (signal : SignalId) (commands : List CommandBuffer) (w : World) :
    Ensures (submitTo signal commands) w fun result _ =>
      ∀ submission, result = .ok submission → submission.signal = signal := by
  refine Ensures.andThen fun moment w₁ => ?_
  split
  · exact Ensures.andThen fun _ _ => Ensures.pure nofun
  · exact Ensures.andThen fun _ _ => Ensures.pure nofun
  · exact Ensures.andThen fun _ _ => Ensures.andThen fun _ _ => Ensures.andThen fun _ _ =>
      Ensures.pure nofun
  · refine Ensures.andThen fun _ _ => Ensures.andThen fun _ _ => Ensures.andThen fun _ _ =>
      Ensures.pure fun submission heq => ?_
    cases heq
    rfl

/-- A submission is known by the signal it was made for, and fails as an entry can. -/
theorem submitFor_answers (observer : Submission) (commands : List CommandBuffer) (w : World) :
    Ensures (WorkQueue.submitFor observer commands) w fun result _ =>
      (∀ submission, result.2 = .ok submission → submission.signal = observer.signal) ∧
      ∀ error, result.2 = .error error → error.OfEntry := by
  have submits : ∀ w₁, Watches w w₁ → Ensures (submitTo observer.signal commands) w₁ _ :=
    fun w₁ _ => submitTo_signal observer.signal commands w₁
  refine Ensures.bind (P := fun result _ => ∀ operation, result = .ok operation →
      (∀ submission, operation.value = .ok submission → submission.signal = observer.signal) ∧
      ∀ error, operation.value = .error error → error.OfEntry) ?_ fun result w₁ h => ?_
  · refine (checked_spec submits).bind fun result w₁ h => ?_
    have answers : ∀ operation, result = .ok operation →
        (∀ submission, operation.value = .ok submission → submission.signal = observer.signal) ∧
        ∀ error, operation.value = .error error → error.OfEntry := by
      intro operation heq
      subst heq
      obtain ⟨value, w₂, w₃, hvalue, -, -, rfl⟩ := h
      cases value with
      | ok submission =>
          refine ⟨fun submission' heq => ?_, nofun⟩
          cases heq
          exact hvalue submission rfl
      | error payload =>
          refine ⟨nofun, fun error heq => ?_⟩
          cases heq
          exact ⟨nofun, nofun⟩
    split
    · exact Ensures.pure answers
    · exact Ensures.andThen fun _ _ => Ensures.pure answers
  · split
    · exact Ensures.pure (h _ rfl)
    · refine Ensures.pure ⟨nofun, fun error heq => ?_⟩
      cases heq
      exact ⟨nofun, nofun⟩

namespace QueueLog

/-- An entry is pushed. -/
def push (signal : SignalId) : QueueLog := ⟨[], [signal]⟩

theorem lost_push {log : QueueLog} {signal : SignalId} (h : (log.add (push signal)).Lost) :
    log.Lost := by
  obtain ⟨reason, hmem⟩ := h
  exact ⟨reason, by simpa [add, push] using hmem⟩

theorem faulted_push {log : QueueLog} {signal : SignalId}
    (h : (log.add (push signal)).Faulted) : log.Faulted := by
  obtain ⟨message, hmem⟩ := h
  exact ⟨message, by simpa [add, push] using hmem⟩

end QueueLog

namespace WorkQueue
variable {queue : WorkQueue} {log : QueueLog}

/-- A new entry is the latest. -/
theorem Orderly.push (h : queue.Orderly log w) {signal : SignalId}
    (fresh : ∀ signal' ∈ log.pushed, signal' < signal) (known : signal < w.device.nextSignal)
    (room : queue.pending.length < queue.capacity) {entry : PendingWork}
    (hsignal : entry.completion.signal = signal) (plainly : entry.FailedPlainly)
    {poisoned : Bool} (stays : queue.poisoned = true → poisoned = true)
    (failed : entry.failure.isSome = true → poisoned = true) :
    ({ queue with pending := queue.pending ++ [entry], poisoned } : WorkQueue).Orderly
      (log.add (.push signal)) w where
  plain := h.plain
  order := by
    rw [List.map_append, List.map_singleton, hsignal]
    exact h.order.append (List.Sublist.refl _)
  increasing := by
    refine List.pairwise_append.mpr ⟨h.increasing, List.pairwise_singleton _ _,
      fun signal' hsignal' last hlast => ?_⟩
    rw [List.mem_singleton.mp hlast]
    exact fresh signal' hsignal'
  known signal' hsignal' := by
    cases List.mem_append.mp hsignal' with
    | inl hold => exact h.known signal' hold
    | inr hnew => exact List.mem_singleton.mp hnew ▸ known
  bound := by
    rw [List.length_append, List.length_singleton]
    exact room
  plainly other hother := by
    cases List.mem_append.mp hother with
    | inl hold => exact h.plainly other hold
    | inr hnew => exact List.mem_singleton.mp hnew ▸ plainly
  failed hfailed := by
    obtain ⟨other, hother, hfailure⟩ := hfailed
    cases List.mem_append.mp hother with
    | inl hold => exact stays (h.failed ⟨other, hold, hfailure⟩)
    | inr hnew => exact failed (List.mem_singleton.mp hnew ▸ hfailure)
  fault error hfault := ⟨stays (h.fault error hfault).1, (h.fault error hfault).2⟩
  lost hlost := by
    obtain ⟨hloss, hpoisoned⟩ := h.lost (QueueLog.lost_push hlost)
    exact ⟨hloss, stays hpoisoned⟩
  faulted hfaulted := h.faulted (QueueLog.faulted_push hfaulted)

/-- What a submission leaves, however it ends: its entry is the last, and says so if the
submission has failed. -/
def Pushed (queue : WorkQueue) (log : QueueLog) (signal : SignalId)
    (result : WorkQueue × Except WorkSubmitError Submission) (w : World) : Prop :=
  result.1.Orderly (log.add (.push signal)) w ∧
    ∃ entry, result.1.pending = queue.pending ++ [entry] ∧ entry.completion.signal = signal ∧
      ∀ error, result.2 = .error error → entry.failure.isSome = true

/-- A place in the queue and a signal for the next entry. -/
structure Open (queue : WorkQueue) (log : QueueLog) (signal : SignalId) (w : World) : Prop where
  orderly : queue.Orderly log w
  fresh : ∀ signal' ∈ log.pushed, signal' < signal
  known : signal < w.device.nextSignal
  room : queue.pending.length < queue.capacity

theorem Open.kept {signal : SignalId} (h : queue.Open log signal w)
    (footprint : Footprint commands w w') : queue.Open log signal w' :=
  ⟨h.orderly.kept footprint, h.fresh, h.known.trans_le footprint.nextSignal, h.room⟩

theorem Open.push_unfailed {signal : SignalId} (h : queue.Open log signal w)
    {entry : PendingWork} (hsignal : entry.completion.signal = signal)
    (unfailed : entry.failure = none) :
    ({ queue with pending := queue.pending ++ [entry] } : WorkQueue).Orderly
      (log.add (.push signal)) w := by
  refine h.orderly.push h.fresh h.known h.room hsignal (fun error heq => ?_) id fun hsome => ?_
  · cases unfailed.symm.trans heq
  · rw [unfailed] at hsome
    cases hsome

theorem retainFailed_orderly {signal : SignalId} (h : queue.Open log signal w)
    {entry : PendingWork} (hsignal : entry.completion.signal = signal) {error : WaitError}
    (ofEntry : error.OfEntry) (rejection : WorkSubmitError) :
    Ensures (queue.retainFailed entry error rejection) w fun result w' =>
      queue.Pushed log signal result w' := by
  have recovers := withFootprint (w := w)
    (PendingWork.recover_same { entry with failure := some error }) (Footprint.frame.recover _)
  refine recovers.bind fun entry' w₁ h₁ => Ensures.pure ?_
  obtain ⟨same, footprint⟩ := h₁
  have open₁ := h.kept footprint
  have hsignal' : entry'.completion.signal = signal :=
    (congrArg Submission.signal same.completion).trans hsignal
  have plainly : entry'.FailedPlainly := by
    intro error' heq
    cases same.failure.symm.trans heq
    exact ofEntry
  exact ⟨open₁.orderly.push open₁.fresh open₁.known open₁.room hsignal' plainly (fun _ => rfl)
    fun _ => rfl, entry', rfl, hsignal', fun _ _ => by rw [same.failure]; rfl⟩

theorem submitOwned_orderly {observer : Submission} (h : queue.Open log observer.signal w)
    (work : RecordedWork) :
    Ensures (queue.submitOwned observer work) w fun result w' =>
      queue.Pushed log observer.signal result w' := by
  have submits := (submitFor_answers observer work.commands w).and (submitFor_keeps observer w)
  refine submits.bind fun result w₁ h₁ => ?_
  obtain ⟨scope, result⟩ := result
  obtain ⟨⟨hsubmitted, hfailed⟩, footprint⟩ := h₁
  have open₁ := h.kept footprint
  cases result with
  | error error =>
      have ofEntry := hfailed error rfl
      cases error with
      | submitPanicked message => exact retainFailed_orderly open₁ rfl ofEntry _
      | poll _ | map _ | dropped | submitRejected _ | pollPanicked _ | deviceLost _ =>
          exact retainFailed_orderly open₁ rfl ofEntry _
  | ok submission =>
      have hsignal := hsubmitted submission rfl
      simp only
      have checks := withFootprint (Submission.validationStatus_plain
        { submission with validation := some (.all (work.validation ++ scope)) }
        open₁.orderly.plain) (Footprint.frame.validationStatus _)
      refine checks.bind fun status w₂ h₂ => ?_
      obtain ⟨⟨-, hstatus⟩, footprint₂⟩ := h₂
      have open₂ := open₁.kept footprint₂
      split
      · have commits := withFootprint (PendingWork.submitted_same (w := w₂)
          ⟨{ submission with validation := some (.all (work.validation ++ scope)) }, work.leases,
            none, none, false⟩) (Footprint.frame.submitted _)
        refine commits.bind fun entry w₃ h₃ => Ensures.pure ?_
        obtain ⟨same, footprint₃⟩ := h₃
        have open₃ := open₂.kept footprint₃
        have hsignal' : entry.completion.signal = observer.signal :=
          (congrArg Submission.signal same.completion).trans hsignal
        exact ⟨open₃.push_unfailed hsignal' same.failure, entry, rfl, hsignal', nofun⟩
      · rename_i error
        exact retainFailed_orderly open₂ hsignal (hstatus error rfl) _
      · exact Ensures.pure ⟨open₂.push_unfailed hsignal rfl, _, rfl, hsignal, nofun⟩

/-- How a `try_submit` ends once its collect has succeeded. -/
inductive Submitted (queue : WorkQueue) (log : QueueLog) (w : World) :
    WorkQueue × Except WorkSubmitError Submission → World → Prop
  /-- The work was refused before anything of it was submitted. -/
  | refused {error : WorkSubmitError} {w' : World} (orderly : queue.Orderly log w')
      (passed : w'.device.passed = w.device.passed)
      (unsubmitted : ∀ message, error ≠ .submitPanicked message) :
      Submitted queue log w (queue, .error error) w'
  | pushed {signal : SignalId} {result : WorkQueue × Except WorkSubmitError Submission}
      {w' : World} (h : queue.Pushed log signal result w') (clear : queue.poisoned = false) :
      Submitted queue log w result w'

theorem Submitted.logged {result : WorkQueue × Except WorkSubmitError Submission}
    (h : queue.Submitted log w result w') :
    result.1.Orderly (log.add ⟨[], queue.newSignals result.1⟩) w' := by
  cases h with
  | refused orderly _ _ =>
      have hnone : queue.newSignals queue = [] := by simp [newSignals]
      rw [hnone]
      exact log.add_empty.symm ▸ orderly
  | pushed h _ =>
      obtain ⟨orderly, entry, hpending, hsignal, -⟩ := h
      have hnew : queue.newSignals result.1 = [entry.completion.signal] := by
        simp [newSignals, hpending]
      rw [hnew, hsignal]
      exact orderly

theorem pending_fresh (w : World) :
    Ensures Submission.pending w fun observer w' =>
      observer.signal = w.device.nextSignal ∧ observer.signal < w'.device.nextSignal :=
  ⟨rfl, Nat.lt_succ_self _⟩

theorem submitCollected_orderly (h : queue.Orderly log w) (work : RecordedWork) :
    Ensures (queue.submitCollected work) w (queue.Submitted log w) := by
  unfold submitCollected
  split
  · exact Ensures.pure (.refused h rfl nofun)
  · rename_i hclear
    split
    · exact Ensures.pure (.refused h rfl nofun)
    · rename_i hfull
      refine (withFootprint (pending_fresh w) Footprint.frame.pending).bind
        fun observer w₁ h₁ => ?_
      obtain ⟨⟨hsignal, known⟩, footprint₁⟩ := h₁
      have open₁ : queue.Open log observer.signal w₁ := by
        refine ⟨h.kept footprint₁, fun signal hsignal' => ?_, known,
          Nat.lt_of_le_of_ne h.bound hfull⟩
        rw [hsignal]
        exact h.known signal hsignal'
      have polls : Keeps (Footprint []) (Validation.pollAll work.validation) :=
        Footprint.frame.validation _
      refine (polls w₁).bind fun status w₂ footprint₂ => ?_
      have open₂ := open₁.kept footprint₂
      have submits : Ensures (queue.submitOwned observer work) w₂ (queue.Submitted log w) :=
        (submitOwned_orderly open₂ work).mono fun _ _ h =>
          .pushed h (Bool.eq_false_iff.mpr hclear)
      split
      · have drops : Keeps (Footprint []) work.drop := Footprint.frame.dropWork work
        refine (drops w₂).bind fun _ w₃ footprint₃ => Ensures.pure ?_
        have unpassed := ((footprint₁.passed rfl).symm.trans
          (footprint₂.passed rfl).symm).trans (footprint₃.passed rfl).symm
        exact .refused (open₂.kept footprint₃).orderly unpassed.symm nofun
      · exact submits
      · exact submits

/-- Being orderly is an invariant of runs. -/
theorem orderly_rule : QueueRule (fun _ => True) (Footprint []) Orderly where
  frame := Footprint.frame
  moved := Orderly.kept
  single _ := trivial
  append _ _ := trivial
  collect h := (collect_orderly h).mono fun _ _ h' => h'.orderly
  submit h _ := (submitCollected_orderly h _).mono fun _ _ => Submitted.logged

end WorkQueue

/-! Runs -/

theorem WorkQueue.new_orderly (schedule : Nat → Moment) (lastInstant : Nat)
    (context : WorkContext) (capacity : Nat) :
    (WorkQueue.new context capacity).Orderly .empty ⟨schedule, 0, 0, lastInstant, .new, []⟩ where
  plain := ⟨by simp [Device.new], by simp [Device.new, Device.outcome]⟩
  order := .slnil
  increasing := .nil
  known := nofun
  bound := Nat.zero_le _
  plainly := nofun
  failed := nofun
  fault := nofun
  lost := nofun
  faulted := nofun

end

end GpuInfo
