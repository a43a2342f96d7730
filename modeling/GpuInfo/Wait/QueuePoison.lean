import GpuInfo.Wait.QueueOrder

/-!
What a poisoned queue withholds. User commands reach the device queue only in a `try_submit`
whose collect has found no failure; so a submission that fails stops all further ones until its
entry is settled, and a panic of polling or the loss of the device stops them for good.
-/

namespace GpuInfo
open StateProgram

section
variable {w w' : World} {queue : WorkQueue} {log : QueueLog}

/-! What passes -/

/-- The state in which a `try_submit` passes user commands on, if it does: the one its
collect has left. -/
structure WorkQueue.Passes (queue : WorkQueue) (log : QueueLog) (w : World)
    (result : WorkQueue × Except WaitError Nat) (w' : World) : Prop where
  collected : queue.collect w = (result, w')
  ok : ∃ completed, result.2 = .ok completed
  unpassed : w'.device.passed = w.device.passed
  unfailed : ¬ result.1.Failed
  fault : result.1.pollFault = none
  notLost : ¬ log.Lost

theorem WorkQueue.trySubmit_passes (queue : WorkQueue) (work : RecordedWork) {log : QueueLog}
    (h : queue.Orderly log w) :
    Ensures (queue.trySubmit work) w fun _ w' =>
      w'.device.passed = w.device.passed ∨ ∃ result w₁, queue.Passes log w result w₁ := by
  unfold trySubmit
  split
  · exact Ensures.pure (.inl rfl)
  · have collects : Ensures queue.collect w fun result w₁ => queue.collect w = (result, w₁) := rfl
    have spec := withFootprint (collects.and (collect_orderly h)) (Footprint.frame.collect queue)
    refine spec.bind fun result w₁ h₁ => ?_
    obtain ⟨⟨hcollected, -, hsound, -⟩, footprint⟩ := h₁
    have unpassed : w₁.device.passed = w.device.passed := footprint.passed rfl
    obtain ⟨queue₁, collected⟩ := result
    cases collected with
    | error error => exact Ensures.pure (.inl unpassed)
    | ok completed =>
        have sound := hsound completed rfl
        by_cases hpoisoned : queue₁.poisoned = true
        · simp only [hpoisoned, if_true]
          exact Ensures.pure (.inl unpassed)
        · have passes : queue.Passes log w (queue₁, .ok completed) w₁ :=
            ⟨hcollected, ⟨completed, rfl⟩, unpassed, mt sound.poisoned.mpr hpoisoned,
              sound.fault, sound.notLost⟩
          exact Ensures.mono (P := fun _ _ => True) trivial fun _ _ _ => .inr ⟨_, w₁, passes⟩

/-- User commands reach the device queue only in a `try_submit` whose collect has found the
queue without a failure. -/
theorem Client.call_passes (client : Client) (call : Call) {log : QueueLog}
    (h : client.queue.Orderly log w) :
    Ensures (client.call call) w fun _ w' =>
      w'.device.passed = w.device.passed ∨ ∃ index work result w₁, call = .trySubmit index ∧
        client.works[index]? = some work ∧ client.queue.Passes log w result w₁ := by
  by_cases hcall : ∃ index, call = .trySubmit index
  · obtain ⟨index, rfl⟩ := hcall
    cases hwork : client.works[index]? with
    | none =>
        simp only [Client.call, hwork]
        exact Ensures.pure (.inl rfl)
    | some work =>
        simp only [Client.call, hwork]
        refine (client.queue.trySubmit_passes work h).bind fun result w₁ h₁ => Ensures.pure ?_
        cases h₁ with
        | inl unpassed => exact .inl unpassed
        | inr passes =>
            obtain ⟨result, w₂, passes⟩ := passes
            exact .inr ⟨index, work, result, w₂, rfl, hwork, passes⟩
  · have keeps : Keeps (Footprint []) (client.call call) :=
      Footprint.frame.call client fun index heq => hcall ⟨index, heq⟩
    exact Ensures.mono (keeps w) fun _ _ footprint => .inl (footprint.passed rfl)

/-! A submission that fails -/

/-- How a `try_submit` that fails leaves a queue: a work that was refused has left no entry and
passed no command on; a submission that failed has left its entry, with the failure. -/
inductive WorkQueue.Fails (queue : WorkQueue) (log : QueueLog) (w : World)
    (error : WorkSubmitError) (result : WorkQueue) (w' : World) : Prop
  | refused (passed : w'.device.passed = w.device.passed)
      (unsubmitted : ∀ message, error ≠ .submitPanicked message)
      (entries : ∀ entry' ∈ result.pending, ∃ entry ∈ queue.pending, entry.Stays entry')
  | retained (kept : List PendingWork) (entry : PendingWork)
      (last : result.pending = kept ++ [entry])
      (fresh : ∀ signal ∈ log.pushed, signal < entry.completion.signal)
      (failed : entry.failure.isSome = true)

/-- The signal of the last entry is later than all before it. -/
theorem WorkQueue.Orderly.fresh {signal : SignalId}
    (h : queue.Orderly (log.add (.push signal)) w) :
    ∀ signal' ∈ log.pushed, signal' < signal := fun signal' hsignal' =>
  (List.pairwise_append.mp h.increasing).2.2 signal' hsignal' signal (List.mem_singleton_self _)

theorem WorkQueue.trySubmit_fails (h : queue.Orderly log w) (work : RecordedWork) :
    Ensures (queue.trySubmit work) w fun result w' =>
      ∀ error, result.2 = .error error → queue.Fails log w error result.1 w' := by
  unfold trySubmit
  split
  · refine Ensures.pure fun error heq => ?_
    cases heq
    exact .refused rfl nofun (Leaves.refl queue).entries
  · refine (withFootprint (collect_orderly h) (Footprint.frame.collect queue)).bind
      fun result w₁ h₁ => ?_
    obtain ⟨collects, footprint⟩ := h₁
    have unpassed : w₁.device.passed = w.device.passed := footprint.passed rfl
    obtain ⟨queue₁, collected⟩ := result
    cases collected with
    | error error =>
        refine Ensures.pure fun error' heq => ?_
        cases heq
        exact .refused unpassed nofun collects.leaves.entries
    | ok completed =>
        have submits := submitCollected_orderly collects.orderly work
        refine Ensures.mono submits fun result w₂ submitted error heq => ?_
        cases submitted with
        | refused _ passed unsubmitted =>
            cases heq
            exact .refused (passed.trans unpassed) unsubmitted collects.leaves.entries
        | pushed pushed _ =>
            obtain ⟨orderly, entry, hpending, rfl, hfailed⟩ := pushed
            refine .retained _ entry hpending (fun signal hsignal => ?_) (hfailed error heq)
            exact orderly.fresh signal (List.mem_append_left _ hsignal)

/-! What is withheld -/

/-- What a queue withholds between one state and a later one: while an entry that had failed is
still there, it carries the same failure and no user command has passed; and none has passed
after a latched fault, which stays, or a reported loss of the device. -/
structure WorkQueue.Withholds (queue : WorkQueue) (log : QueueLog) (w : World)
    (queue' : WorkQueue) (w' : World) : Prop where
  failed : ∀ entry ∈ queue.pending, ∀ error, entry.failure = some error →
    ∀ entry' ∈ queue'.pending, entry'.completion.signal = entry.completion.signal →
      entry'.failure = some error ∧ w'.device.passed = w.device.passed
  fault : ∀ error, queue.pollFault = some error →
    queue'.pollFault = some error ∧ w'.device.passed = w.device.passed
  lost : log.Lost → w'.device.passed = w.device.passed

theorem WorkQueue.Withholds.unpassed {before queue : WorkQueue} {past : QueueLog}
    {w₀ w w' : World} (h : before.Withholds past w₀ queue w)
    (passed : w'.device.passed = w.device.passed) : before.Withholds past w₀ queue w' := by
  refine ⟨?_, ?_, ?_⟩
  · rw [passed]
    exact h.failed
  · rw [passed]
    exact h.fault
  · rw [passed]
    exact h.lost

/-- A loss that was reported stays in the log. -/
theorem QueueLog.Lost.add {log : QueueLog} (h : log.Lost) (more : QueueLog) :
    (log.add more).Lost := by
  obtain ⟨reason, hreason⟩ := h
  exact ⟨reason, List.mem_append_left _ hreason⟩

/-- What holds from a state on. -/
structure WorkQueue.Since (before : WorkQueue) (past : QueueLog) (w₀ : World)
    (queue : WorkQueue) (log : QueueLog) (w : World) : Prop where
  orderly : queue.Orderly log w
  pushed : past.pushed ⊆ log.pushed
  lost : past.Lost → log.Lost
  withholds : before.Withholds past w₀ queue w

namespace WorkQueue.Since
variable {before : WorkQueue} {past : QueueLog} {w₀ : World}

theorem start (h : queue.Orderly log w) : queue.Since log w queue log w := by
  refine ⟨h, fun _ => id, id, fun entry hentry error hfailure entry' hentry' hsignal => ?_,
    fun error hfault => ⟨hfault, rfl⟩, fun _ => rfl⟩
  have once : (queue.pending.map (·.completion.signal)).Nodup :=
    h.order.nodup (h.increasing.imp Nat.ne_of_lt)
  rw [List.inj_on_of_nodup_map once hentry' hentry hsignal]
  exact ⟨hfailure, rfl⟩

theorem moved (h : before.Since past w₀ queue log w) (footprint : Footprint [] w w') :
    before.Since past w₀ queue log w' :=
  ⟨h.orderly.kept footprint, h.pushed, h.lost, h.withholds.unpassed (footprint.passed rfl)⟩

theorem collect (h : before.Since past w₀ queue log w) :
    Ensures queue.collect w fun result w' =>
      before.Since past w₀ result.1 (log.add (.collected result.2)) w' := by
  refine (withFootprint (collect_orderly h.orderly) (Footprint.frame.collect queue)).mono
    fun result w₁ h₁ => ?_
  obtain ⟨collects, footprint⟩ := h₁
  have later := h.moved footprint
  refine ⟨collects.orderly, fun signal hsignal => List.mem_append_left _ (h.pushed hsignal),
    fun hlost => (h.lost hlost).add _,
    fun entry hentry error hfailure entry' hentry' hsignal => ?_, fun error hfault => ?_,
    later.withholds.lost⟩
  · obtain ⟨entry₁, hentry₁, stays⟩ := collects.leaves.entries entry' hentry'
    have hsignal₁ : entry₁.completion.signal = entry.completion.signal :=
      (congrArg Submission.signal stays.completion).symm.trans hsignal
    obtain ⟨hfailure₁, unpassed⟩ :=
      later.withholds.failed entry hentry error hfailure entry₁ hentry₁ hsignal₁
    exact ⟨stays.failure error hfailure₁, unpassed⟩
  · obtain ⟨hfault₁, unpassed⟩ := later.withholds.fault error hfault
    exact ⟨collects.leaves.fault error hfault₁, unpassed⟩

/-- A submission goes on only where nothing is withheld. -/
theorem submit (known : ∀ entry ∈ before.pending, entry.completion.signal ∈ past.pushed)
    (h : before.Since past w₀ queue log w) (work : RecordedWork) :
    Ensures (queue.submitCollected work) w fun result w' =>
      before.Since past w₀ result.1 (log.add ⟨[], queue.newSignals result.1⟩) w' := by
  refine (submitCollected_orderly h.orderly work).mono fun result w₁ submitted => ?_
  have orderly := submitted.logged
  have pushed : past.pushed ⊆ (log.add ⟨[], queue.newSignals result.1⟩).pushed :=
    fun signal hsignal => List.mem_append_left _ (h.pushed hsignal)
  refine ⟨orderly, pushed, fun hlost => (h.lost hlost).add _, ?_⟩
  cases submitted with
  | refused _ passed _ => exact h.withholds.unpassed passed
  | pushed pushes clear =>
      have unpoisoned : queue.poisoned ≠ true := Bool.eq_false_iff.mp clear
      refine ⟨fun entry hentry error hfailure entry' hentry' hsignal => ?_,
        fun error hfault => absurd ?_ unpoisoned, fun hlost => absurd ?_ unpoisoned⟩
      · obtain ⟨orderly', new, hpending, rfl, -⟩ := pushes
        rw [hpending] at hentry'
        cases List.mem_append.mp hentry' with
        | inl hold =>
            obtain ⟨hfailure', -⟩ :=
              h.withholds.failed entry hentry error hfailure entry' hold hsignal
            refine absurd (h.orderly.failed ⟨entry', hold, ?_⟩) unpoisoned
            rw [hfailure']
            rfl
        | inr hnew =>
            rw [List.mem_singleton.mp hnew] at hsignal
            have earlier := orderly'.fresh _ (h.pushed (known entry hentry))
            exact absurd hsignal (Nat.ne_of_gt earlier)
      · exact (h.orderly.fault error (h.withholds.fault error hfault).1).1
      · exact (h.orderly.lost (h.lost hlost)).2

theorem rule (known : ∀ entry ∈ before.pending, entry.completion.signal ∈ past.pushed) :
    QueueRule (fun _ => True) (Footprint []) (before.Since past w₀) where
  frame := Footprint.frame
  moved := moved
  single _ := trivial
  append _ _ := trivial
  collect := collect
  submit h _ := submit known h _

end WorkQueue.Since

/-- What a client's queue withholds, whatever is called from now on. -/
theorem Client.run_withholds {client client' : Client} (h : client.queue.Orderly log w)
    (calls : List Call) (run : client.run calls w = (client', w')) :
    client.queue.Withholds log w client'.queue w' := by
  have known : ∀ entry ∈ client.queue.pending, entry.completion.signal ∈ log.pushed :=
    fun entry hentry => h.order.subset (List.mem_map_of_mem hentry)
  have start : QueueRule.Holds (fun _ => True) (client.queue.Since log w) client log w :=
    ⟨.start h, fun _ _ => trivial⟩
  have spec := (WorkQueue.Since.rule known).run calls start
  have herased := congrFun (client.runLogged_fst calls) w
  rw [run] at herased
  have hclient := congrArg Prod.fst herased
  have hworld := congrArg Prod.snd herased
  have later := spec.1.withholds
  rw [show (client.runLogged calls w).1.1 = client' from hclient,
    show (client.runLogged calls w).2 = w' from hworld] at later
  exact later

end

section
variable (schedule : Nat → Moment) (lastInstant : Nat) (context : WorkContext) (capacity : Nat)
  (calls : List Call)

/-- After every run, whatever the device has answered: the retained entries are a
subsequence of those ever pushed, which are all different, and no more than the capacity;
the queue is poisoned if one of them carries a failure, a poll fault is latched or some
collect has reported the device lost, and after a collect that succeeds exactly if one of
them carries a failure. The next call passes user commands on only if it is a `try_submit`
whose collect succeeded and left no failure and no poll fault, and no collect before it
has reported the device lost. A `try_submit` that fails after it has submitted leaves its
entry, with the failure. Whatever is called after that, no user command passes while this
entry is there, and none ever does once a poll fault is latched, which a reported panic of
polling is, or the loss of the device reported. -/
theorem work_queue_orderly {client : Client} {log : QueueLog} {w : World}
    (run : runQueueLogged schedule lastInstant context capacity calls = ((client, log), w)) :
    runQueue schedule lastInstant context capacity calls = (client, w) ∧
    (client.queue.pending.map (·.completion.signal)).Sublist log.pushed ∧ log.pushed.Nodup ∧
    client.queue.pending.length ≤ client.queue.capacity ∧
    (client.queue.Failed ∨ client.queue.pollFault ≠ none ∨ log.Lost →
      client.queue.poisoned = true) ∧
    (∀ queue w' completed, client.queue.collect w = ((queue, .ok completed), w') →
      (queue.poisoned = true ↔ queue.Failed)) ∧
    (∀ call, (client.call call w).2.device.passed ≠ w.device.passed →
      ∃ index work result w', call = .trySubmit index ∧ client.works[index]? = some work ∧
        client.queue.Passes log w result w') ∧
    (∀ work queue error w', client.queue.trySubmit work w = ((queue, .error error), w') →
      client.queue.Fails log w error queue w') ∧
    (log.Faulted → client.queue.pollFault ≠ none) ∧
    ∀ more client' w', client.run more w = (client', w') →
      client.queue.Withholds log w client'.queue w' := by
  have herased := runQueueLogged_fst schedule lastInstant context capacity calls
  rw [run] at herased
  have orderly : client.queue.Orderly log w := (WorkQueue.orderly_rule.runQueue
    (WorkQueue.new_orderly schedule lastInstant context capacity) run).1
  refine ⟨herased.symm, orderly.order, orderly.increasing.imp Nat.ne_of_lt, orderly.bound,
    fun h => ?_, fun queue w' completed h => ?_, fun call passed => ?_,
    fun work queue error w' h => ?_, orderly.faulted,
    fun more _ _ => Client.run_withholds orderly more⟩
  · cases h with
    | inl failed => exact orderly.failed failed
    | inr h =>
        cases h with
        | inl latched =>
            obtain ⟨error, herror⟩ := Option.ne_none_iff_exists'.mp latched
            exact (orderly.fault error herror).1
        | inr lost => exact (orderly.lost lost).2
  · have collects := WorkQueue.collect_orderly orderly
    rw [Ensures, h] at collects
    exact (collects.sound completed rfl).poisoned
  · exact (client.call_passes call orderly).resolve_left passed
  · have fails := WorkQueue.trySubmit_fails orderly work
    rw [Ensures, h] at fails
    exact fails error rfl

/-- Every submission unwinds once its commands are on the device queue. -/
def unwinding (_ : Nat) : Moment :=
  ⟨[], 0, .pending, .poll, .unwindsAfter .other, none⟩

/-- A submission fails, and the next work is not submitted. -/
theorem work_queue_orderly_failed_submission :
    ∃ client log w client' w', runQueueLogged unwinding 0 0 2 [.new 0 1, .trySubmit 0] =
        ((client, log), w) ∧
      (client.queue.pending.map (·.completion.signal)).Sublist log.pushed ∧
      client.queue.pending.length ≤ client.queue.capacity ∧ log.pushed = [0] ∧
      client.queue.poisoned = true ∧ w.device.passed ≠ [] ∧
      client.run [.new 0 1, .trySubmit 0] w = (client', w') ∧
      client'.queue.Failed ∧ w'.device.passed = w.device.passed := by
  have hpushed :
      (runQueueLogged unwinding 0 0 2 [.new 0 1, .trySubmit 0]).1.2.pushed = [0] := by
    decide +kernel
  have hpassed : (runQueueLogged unwinding 0 0 2
      [.new 0 1, .trySubmit 0]).2.device.passed.isEmpty = false := by decide +kernel
  have before : (runQueueLogged unwinding 0 0 2 [.new 0 1, .trySubmit 0]).1.1.queue.pending.map
      (fun entry => (entry.completion.signal, entry.failure.isSome)) = [(0, true)] := by
    decide +kernel
  have after : ((runQueueLogged unwinding 0 0 2 [.new 0 1, .trySubmit 0]).1.1.run
      [.new 0 1, .trySubmit 0]
      (runQueueLogged unwinding 0 0 2 [.new 0 1, .trySubmit 0]).2).1.queue.pending.map
        (·.completion.signal) = [0] := by decide +kernel
  generalize hrun : runQueueLogged unwinding 0 0 2 [.new 0 1, .trySubmit 0] = run at *
  obtain ⟨⟨client, log⟩, w⟩ := run
  generalize hmore : client.run [.new 0 1, .trySubmit 0] w = more at after
  obtain ⟨client', w'⟩ := more
  obtain ⟨-, order, -, bound, poisoned, -, -, -, -, withholds⟩ :=
    work_queue_orderly _ _ _ _ _ hrun
  obtain ⟨entry, hentry, hbefore⟩ := List.map_eq_singleton_iff.mp before
  obtain ⟨entry', hentry', hafter⟩ := List.map_eq_singleton_iff.mp after
  obtain ⟨hsignal, hfailed⟩ := Prod.mk.inj hbefore
  obtain ⟨error, herror⟩ := Option.isSome_iff_exists.mp hfailed
  have hmem : entry ∈ client.queue.pending := by rw [hentry]; exact List.mem_singleton_self _
  have hmem' : entry' ∈ client'.queue.pending := by rw [hentry']; exact List.mem_singleton_self _
  obtain ⟨hfailure, unpassed⟩ := (withholds _ client' w' hmore).failed entry hmem error herror
    entry' hmem' (hafter.trans hsignal.symm)
  exact ⟨client, log, w, client', w', rfl, order, bound, hpushed,
    poisoned (.inl ⟨entry, hmem, hfailed⟩), fun hnone => by simp [hnone] at hpassed, hmore,
    ⟨entry', hmem', by rw [hfailure]; rfl⟩, unpassed⟩

end

end GpuInfo
