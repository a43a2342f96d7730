import GpuInfo.Wait.Guarantees
import GpuInfo.Wait.QueueRule

/-!
What the result of a shutdown says of the entries that were retained when it was called: which
leases were told of success, that one was told of a failure, or that the queue still keeps them.
A collect may settle some entries and keep others, and a shutdown makes many.
-/

namespace GpuInfo
open StateProgram

/-- The signal of an entry and its leases, which are its own for as long as it is retained. -/
def PendingWork.tag (entry : PendingWork) : SignalId × List Lease :=
  (entry.completion.signal, entry.leases)

def WorkQueue.tags (queue : WorkQueue) : List (SignalId × List Lease) :=
  queue.pending.map PendingWork.tag

/-- What has happened, the newest first. -/
def World.events (w : World) : List Event := w.trace.map (·.1)

/-- Every lease was told. -/
def Told (tag : SignalId × List Lease) (outcome : Outcome) (events : List Event) : Prop :=
  ∀ lease ∈ tag.2, .completed tag.1 tag.2 lease outcome ∈ events

/-- Between these entries and those, with these events: an entry is retained or its leases are
told, all of success unless there was a failure, and then some of a failure. -/
structure Collects (tags tags' : List (SignalId × List Lease)) (failure : Option WaitError)
    (events : List Event) : Prop where
  kept : tags'.Sublist tags
  told : ∀ tag ∈ tags, tag ∈ tags' ∨
    ∃ outcome, Told tag outcome events ∧ (failure = none → outcome = .ok ())
  failed : failure ≠ none → ∃ tag ∈ tags, ∃ error, Told tag (.error error) events

section
variable {tags tags' tags'' : List (SignalId × List Lease)} {tag : SignalId × List Lease}
  {failure failure' : Option WaitError} {events events' : List Event} {outcome : Outcome}

theorem Told.mono (h : Told tag outcome events) (kept : events ⊆ events') :
    Told tag outcome events' := fun lease hlease => kept (h lease hlease)

theorem none_of_orElse : (failure <|> failure') = none ↔ failure = none ∧ failure' = none := by
  cases failure with
  | none => simp
  | some error => simp

theorem orElse_assoc (first failure failure' : Option WaitError) :
    ((first <|> failure) <|> failure') = (first <|> (failure <|> failure')) := by
  cases first with
  | none => rfl
  | some error => rfl

theorem orElse_none (failure : Option WaitError) : (failure <|> none) = failure := by
  cases failure with
  | none => rfl
  | some error => rfl

theorem Collects.trans (h : Collects tags tags' failure events)
    (h' : Collects tags' tags'' failure' events') :
    Collects tags tags'' (failure <|> failure') (events' ++ events) where
  kept := h'.kept.trans h.kept
  told tag htag := by
    rcases h.told tag htag with hkept | ⟨outcome, htold, hok⟩
    · refine (h'.told tag hkept).imp_right fun ⟨outcome, htold, hok⟩ => ⟨outcome, ?_, ?_⟩
      · exact htold.mono (List.subset_append_left _ _)
      · exact fun hnone => hok (none_of_orElse.mp hnone).2
    · exact .inr ⟨outcome, htold.mono (List.subset_append_right _ _),
        fun hnone => hok (none_of_orElse.mp hnone).1⟩
  failed hfailed := by
    cases failure with
    | some error =>
        obtain ⟨tag, htag, error, htold⟩ := h.failed (by simp)
        exact ⟨tag, htag, error, htold.mono (List.subset_append_right _ _)⟩
    | none =>
        obtain ⟨tag, htag, error, htold⟩ := h'.failed hfailed
        exact ⟨tag, h.kept.mem htag, error, htold.mono (List.subset_append_left _ _)⟩

/-- An entry that stays. -/
theorem Collects.cons_kept (h : Collects tags tags' failure events)
    (tag : SignalId × List Lease) : Collects (tag :: tags) (tag :: tags') failure events where
  kept := h.kept.cons_cons tag
  told other hother := by
    cases List.mem_cons.mp hother with
    | inl heq => exact .inl (heq ▸ List.mem_cons_self)
    | inr hmem => exact (h.told other hmem).imp_left (List.mem_cons_of_mem tag)
  failed hfailed := by
    obtain ⟨other, hmem, error, htold⟩ := h.failed hfailed
    exact ⟨other, List.mem_cons_of_mem tag hmem, error, htold⟩

/-- An outcome as a failure. -/
def failureOf : Outcome → Option WaitError
  | .ok () => none
  | .error error => some error

/-- An entry whose leases are told. -/
theorem Collects.told_first (told : Told tag outcome events) (tags : List (SignalId × List Lease)) :
    Collects (tag :: tags) tags (failureOf outcome) events where
  kept := List.sublist_cons_self tag tags
  told other hother := by
    cases List.mem_cons.mp hother with
    | inl heq =>
        refine .inr ⟨outcome, heq ▸ told, fun hnone => ?_⟩
        cases outcome with
        | ok value => rfl
        | error error => cases hnone
    | inr hmem => exact .inl hmem
  failed hfailed := by
    cases outcome with
    | ok value => exact absurd rfl hfailed
    | error error => exact ⟨tag, List.mem_cons_self, error, told⟩

end

/-! What an iteration leaves of an entry -/

/-- The events only become more. -/
def Recorded (w w' : World) : Prop := w.events <:+ w'.events

instance : IsPreorder World Recorded where
  refl _ := List.suffix_rfl
  trans _ _ _ := List.IsSuffix.trans

theorem recorded_change (f : Device → Device) : Keeps Recorded (change f) :=
  fun _ => List.suffix_rfl

theorem recorded_tick : Keeps Recorded tick := fun _ => List.suffix_rfl

theorem Recorded.looks : Looks Recorded where
  tick := recorded_tick
  note event _ := List.suffix_cons event _
  setScope _ _ _ := recorded_change _
  newSignal := Keeps.get fun _ => (recorded_change _).bind fun _ => Keeps.pure _
  newLease := Keeps.get fun _ => (recorded_change _).bind fun _ => Keeps.pure _
  polled := recorded_change _

theorem recorded_submitTo (signal : SignalId) (commands : List CommandBuffer) :
    Keeps Recorded (submitTo signal commands) := by
  refine recorded_tick.bind fun moment => ?_
  split
  · exact (recorded_change _).bind fun _ => Keeps.pure _
  · exact (recorded_change _).bind fun _ => Keeps.pure _
  · exact (recorded_change _).bind fun _ => recorded_tick.bind fun _ =>
      (recorded_change _).bind fun _ => Keeps.pure _
  · exact (recorded_change _).bind fun _ => recorded_tick.bind fun _ =>
      (recorded_change _).bind fun _ => Keeps.pure _

theorem Recorded.frame : Frame Recorded :=
  { Recorded.looks with
    fence := fun signal => by
      refine (Recorded.looks.checked _ (recorded_submitTo signal [])).bind fun operation => ?_
      split
      · exact Keeps.pure _
      · exact (recorded_change _).bind fun _ => Keeps.pure _ }

namespace PendingWork
variable {entry : PendingWork} {w : World}

theorem submitted_tag : Ensures entry.submitted w fun entry' _ => entry'.tag = entry.tag :=
  Ensures.andThen fun _ _ => Ensures.pure rfl

theorem recover_tag : Ensures entry.recover w fun entry' _ => entry'.tag = entry.tag := by
  refine Ensures.andThen fun fence w₁ => Ensures.andThen fun result w₂ => ?_
  split
  · exact Ensures.pure rfl
  · exact Ensures.pure rfl
  · exact Ensures.andThen fun _ _ => Ensures.pure rfl

theorem commit_tag (validation : Option Outcome) :
    Ensures (entry.commit validation) w fun entry' _ => entry'.tag = entry.tag := by
  unfold commit
  split
  · exact submitted_tag
  · exact Ensures.pure rfl

theorem noteFailure_tag (queueEmpty : Bool) (status : Option Outcome) :
    Ensures (entry.noteFailure queueEmpty status) w fun entry' _ => entry'.tag = entry.tag := by
  unfold noteFailure
  split
  · simp only
    split
    · exact Ensures.pure rfl
    · exact recover_tag
  · exact Ensures.pure rfl

theorem commitRecovered_tag (recovered : Bool) :
    Ensures (entry.commitRecovered recovered) w fun entry' _ => entry'.tag = entry.tag := by
  unfold commitRecovered
  split
  · exact submitted_tag
  · exact Ensures.pure rfl

theorem settle_tag (queueEmpty : Bool) :
    Ensures (entry.settle queueEmpty) w fun result _ => result.1.tag = entry.tag := by
  refine Ensures.andThen fun validation w₁ => ?_
  refine (commit_tag validation).bind fun entry₁ w₂ h₁ => ?_
  refine Ensures.andThen fun status w₃ => Ensures.andThen fun _ w₄ => ?_
  refine (noteFailure_tag queueEmpty status).bind fun entry₂ w₅ h₂ => ?_
  refine Ensures.andThen fun retired w₆ => Ensures.andThen fun recovered w₇ => ?_
  exact (commitRecovered_tag recovered).bind fun entry₃ w₈ h₃ =>
    Ensures.pure (h₃.trans (h₂.trans h₁))

theorem finish_told (entry : PendingWork) (outcome : Outcome) (w : World) :
    Ensures (entry.finish outcome) w fun _ w' =>
      ∃ events, w'.events = events ++ w.events ∧ Told entry.tag outcome events := by
  refine (runHooks_trace _ entry.leases w).mono fun _ w' h => ⟨_, h, fun lease hlease => ?_⟩
  exact List.mem_reverse.mpr (List.mem_map_of_mem hlease)

end PendingWork

/-! A collect -/

/-- What has happened since. -/
theorem Recorded.since {w w' : World} (h : Recorded w w') :
    ∃ events, w'.events = events ++ w.events := by
  obtain ⟨events, hevents⟩ := h
  exact ⟨events, hevents.symm⟩

namespace Collects
variable {tags tags' tags'' : List (SignalId × List Lease)} {failure failure' : Option WaitError}
  {w w' w'' : World}

/-- From one world to a later one. -/
def Across (tags tags' : List (SignalId × List Lease)) (failure : Option WaitError)
    (w w' : World) : Prop :=
  ∃ events, w'.events = events ++ w.events ∧ Collects tags tags' failure events

theorem Across.trans (h : Across tags tags' failure w w')
    (h' : Across tags' tags'' failure' w' w'') :
    Across tags tags'' (failure <|> failure') w w'' := by
  obtain ⟨events, hevents, collects⟩ := h
  obtain ⟨events', hevents', collects'⟩ := h'
  exact ⟨events' ++ events, by rw [hevents', hevents, List.append_assoc], collects.trans collects'⟩

/-- Time passes, and more may happen. -/
theorem Across.recorded (tags : List (SignalId × List Lease)) (h : Recorded w w') :
    Across tags tags none w w' := by
  obtain ⟨events, hevents⟩ := h.since
  exact ⟨events, hevents, .refl tags, fun _ hmem => .inl hmem, fun hfailed => absurd rfl hfailed⟩

theorem Across.cons_kept (h : Across tags tags' failure w w') (tag : SignalId × List Lease) :
    Across (tag :: tags) (tag :: tags') failure w w' := by
  obtain ⟨events, hevents, collects⟩ := h
  exact ⟨events, hevents, collects.cons_kept tag⟩

end Collects

open Collects in
theorem PendingWork.finish_across (entry : PendingWork) (outcome : Outcome)
    (tags : List (SignalId × List Lease)) (w : World) :
    Ensures (entry.finish outcome) w fun _ w' =>
      Across (entry.tag :: tags) tags (failureOf outcome) w w' :=
  (entry.finish_told outcome w).mono fun _ _ h => by
    obtain ⟨events, hevents, told⟩ := h
    exact ⟨events, hevents, .told_first told tags⟩

namespace WorkQueue
open Collects

/-- What a collect has counted so far, and the first failure among it. -/
theorem Collected.add_failure (collected : Collected) (outcome : Outcome) :
    (collected.add outcome).failure = (collected.failure <|> failureOf outcome) := by
  cases outcome with
  | ok value =>
      cases hfailure : collected.failure with
      | none => simp [Collected.add, failureOf, hfailure]
      | some error => simp [Collected.add, hfailure]
  | error error => rfl

theorem collectPending_across (queueEmpty : Bool) (entries : List PendingWork)
    (collected : Collected) (w : World) :
    Ensures (collectPending queueEmpty entries collected) w fun result w' =>
      ∃ failure, result.2.failure = (collected.failure <|> failure) ∧
        Across (entries.map PendingWork.tag) (result.1.map PendingWork.tag) failure w w' := by
  induction entries generalizing collected w with
  | nil => exact Ensures.pure ⟨none, by simp, .recorded [] (refl_of Recorded w)⟩
  | cons entry entries ih =>
      refine ((PendingWork.settle_tag queueEmpty).and
        (Recorded.frame.settle entry queueEmpty w)).bind fun result w₁ h₁ => ?_
      obtain ⟨htag, hsettled⟩ := h₁
      obtain ⟨entry₁, outcome⟩ := result
      have settled := Across.recorded (entry.tag :: entries.map PendingWork.tag) hsettled
      cases outcome with
      | some outcome =>
          refine (entry₁.finish_across outcome (entries.map PendingWork.tag) w₁).bind
            fun _ w₂ h₂ => ?_
          rw [show entry₁.tag = entry.tag from htag] at h₂
          refine (ih (collected.add outcome) w₂).mono fun result w₃ h₃ => ?_
          obtain ⟨failure, hfailure, across⟩ := h₃
          refine ⟨failureOf outcome <|> failure, ?_, (settled.trans h₂).trans across⟩
          rw [hfailure, Collected.add_failure, orElse_assoc]
      | none =>
          refine (ih collected w₁).bind fun result w₂ h₂ => Ensures.pure ?_
          obtain ⟨failure, hfailure, across⟩ := h₂
          have kept : Across (entry.tag :: entries.map PendingWork.tag)
              (entry₁.tag :: result.1.map PendingWork.tag) failure w w₂ := by
            rw [show entry₁.tag = entry.tag from htag]
            exact settled.trans (across.cons_kept entry.tag)
          exact ⟨failure, hfailure, kept⟩

/-- A lost device settles every entry, and every lease is told of the loss. -/
theorem finishAll_across (error : WaitError) (entries : List PendingWork) (w : World) :
    Ensures (finishAll (.error error) entries) w fun _ w' => ∃ failure,
      (entries ≠ [] → failure = some error) ∧
        Across (entries.map PendingWork.tag) [] failure w w' := by
  induction entries generalizing w with
  | nil => exact Ensures.pure ⟨none, fun h => absurd rfl h, .recorded [] (refl_of Recorded w)⟩
  | cons entry entries ih =>
      refine (entry.finish_across _ (entries.map PendingWork.tag) w).bind fun _ w₁ h₁ => ?_
      refine (ih w₁).mono fun _ w₂ h₂ => ?_
      obtain ⟨failure, -, across⟩ := h₂
      exact ⟨some error <|> failure, fun _ => rfl, h₁.trans across⟩

/-- Polling has only failed for good with a panic. -/
def FaultPolls (queue : WorkQueue) : Prop :=
  ∀ error, queue.pollFault = some error → WaitError.polling error = true

/-- An answer of a collect, and what it means for the entries that were retained. -/
structure CollectAnswers (queue : WorkQueue) (w : World)
    (result : WorkQueue × Except WaitError Nat) (w' : World) : Prop where
  fault : result.1.FaultPolls
  kept : result.1.tags.Sublist queue.tags
  ok : ∀ completed, result.2 = .ok completed → Across queue.tags result.1.tags none w w'
  error : ∀ error, result.2 = .error error → queue.pending ≠ [] →
    (result.1.pending = queue.pending ∧ WaitError.polling error = true ∧ Recorded w w') ∨
      Across queue.tags result.1.tags (some error) w w'

theorem CollectAnswers.after {queue : WorkQueue} {w w' w'' : World}
    {result : WorkQueue × Except WaitError Nat} (h : queue.CollectAnswers w' result w'')
    (recorded : Recorded w w') : queue.CollectAnswers w result w'' where
  fault := h.fault
  kept := h.kept
  ok completed heq := (Across.recorded queue.tags recorded).trans (h.ok completed heq)
  error error heq hpending := by
    rcases h.error error heq hpending with ⟨hsame, hpolling, later⟩ | across
    · exact .inl ⟨hsame, hpolling, trans_of Recorded recorded later⟩
    · exact .inr ((Across.recorded queue.tags recorded).trans across)

theorem terminalLoss_across (queue : WorkQueue) (w : World) :
    Ensures queue.terminalLoss w fun result w' => Recorded w w' ∧
      (result.2 = none → result.1 = queue) ∧ ∀ error, result.2 = some error →
        result.1.pollFault = queue.pollFault ∧ result.1.tags = [] ∧
          (queue.pending ≠ [] → Across queue.tags result.1.tags (some error) w w') := by
  refine (Recorded.frame.lossReason w).bind fun loss w₁ h₁ => ?_
  cases loss with
  | none =>
      refine Ensures.pure ⟨h₁, fun _ => rfl, fun error h => ?_⟩
      cases h
  | some reason =>
      have finished := (finishAll_across (.deviceLost reason) queue.pending w₁).and
        (Recorded.frame.finishAll (.error (.deviceLost reason)) queue.pending w₁)
      refine finished.bind fun _ w₂ h₂ => Ensures.pure ⟨h₁.trans h₂.2, fun h => ?_, ?_⟩
      · cases h
      · intro error h
        cases h
        obtain ⟨⟨failure, hfailure, across⟩, -⟩ := h₂
        refine ⟨rfl, rfl, fun hpending => ?_⟩
        rw [hfailure hpending] at across
        exact (Across.recorded queue.tags h₁).trans across

theorem poll_polling (w : World) : Ensures poll w fun polled _ =>
    ∀ error, polled = .error error → WaitError.polling error = true := by
  refine Ensures.andThen fun moment w₁ => Ensures.andThen fun _ w₂ => Ensures.get
    (Ensures.pure fun error heq => ?_)
  cases hpoll : moment.poll with
  | queueEmpty =>
      simp only [hpoll] at heq
      split at heq <;> cases heq
  | waitSucceeded | poll =>
      rw [hpoll] at heq
      cases heq
  | failed message | panicked payload =>
      rw [hpoll] at heq
      cases heq
      rfl

theorem collectPolled_across (queue : WorkQueue) {polled : Except WaitError PollStatus}
    (polling : ∀ error, polled = .error error → WaitError.polling error = true)
    (hfault : queue.FaultPolls) (w : World) :
    Ensures (queue.collectPolled polled) w (queue.CollectAnswers w) := by
  unfold collectPolled
  split
  · refine Ensures.pure ⟨fun error h => ?_, .refl _, fun completed h => ?_,
      fun error h hpending => ?_⟩
    · cases h
      rfl
    · cases h
    · cases h
      exact .inl ⟨rfl, rfl, refl_of Recorded w⟩
  · rename_i error hother
    refine Ensures.pure ⟨hfault, .refl _, fun completed h => ?_, fun error h hpending => ?_⟩
    · cases h
    · cases h
      exact .inl ⟨rfl, polling error rfl, refl_of Recorded w⟩
  · rename_i status
    refine (collectPending_across (status == .queueEmpty) queue.pending ⟨0, none⟩ w).bind
      fun result w₁ h₁ => ?_
    obtain ⟨failure, hfailure, across⟩ := h₁
    have hcollected : result.2.failure = failure := hfailure
    have hkept : (result.1.map PendingWork.tag).Sublist queue.tags := by
      obtain ⟨events, -, collects⟩ := across
      exact collects.kept
    refine Ensures.pure ⟨hfault, hkept, fun completed h => ?_, fun error h hpending => .inr ?_⟩
    · cases failure with
      | none => exact across
      | some first =>
          rw [hcollected] at h
          cases h
    · cases failure with
      | none =>
          rw [hcollected] at h
          cases h
      | some first =>
          rw [hcollected] at h
          cases h
          exact across

theorem collect_across {queue : WorkQueue} (hfault : queue.FaultPolls) (w : World) :
    Ensures queue.collect w (queue.CollectAnswers w) := by
  have lost : ∀ {result : WorkQueue × Option WaitError} {w' w'' : World} {error : WaitError},
      Recorded w w' → (result.1.pollFault = queue.pollFault ∧ result.1.tags = [] ∧
        (queue.pending ≠ [] → Across queue.tags result.1.tags (some error) w' w'')) →
      queue.CollectAnswers w (result.1, .error error) w'' := by
    intro result w' w'' error recorded h
    obtain ⟨hsame, hnone, hacross⟩ := h
    refine ⟨fun error hlatched => hfault error (hsame ▸ hlatched), ?_, fun completed heq => ?_,
      fun error heq hpending => ?_⟩
    · rw [show tags (result.1, Except.error error).1 = [] from hnone]
      exact List.nil_sublist _
    · cases heq
    · cases heq
      exact .inr ((Across.recorded queue.tags recorded).trans (hacross hpending))
  refine (queue.terminalLoss_across w).bind fun result w₁ h₁ => ?_
  obtain ⟨recorded₁, hsame, hlost⟩ := h₁
  obtain ⟨queue₁, error⟩ := result
  cases error with
  | some error => exact Ensures.pure (lost (refl_of Recorded w) (hlost error rfl))
  | none =>
      obtain rfl := hsame rfl
      simp only
      split
      · rename_i error herror
        refine Ensures.pure ⟨hfault, .refl _, fun completed heq => ?_,
          fun error' heq hpending => .inl ?_⟩
        · cases heq
        · cases heq
          exact ⟨rfl, hfault _ herror, recorded₁⟩
      · refine ((poll_polling w₁).and (Recorded.frame.poll w₁)).bind fun polled w₂ h₂ => ?_
        obtain ⟨polling, recorded₂⟩ := h₂
        refine (queue₁.terminalLoss_across w₂).bind fun result w₃ h₃ => ?_
        obtain ⟨recorded₃, hsame, hlost⟩ := h₃
        obtain ⟨queue₃, error⟩ := result
        cases error with
        | some error =>
            exact Ensures.pure (lost (trans_of Recorded recorded₁ recorded₂) (hlost error rfl))
        | none =>
            obtain rfl := hsame rfl
            have recorded := trans_of Recorded (trans_of Recorded recorded₁ recorded₂) recorded₃
            exact (queue₃.collectPolled_across polling hfault w₃).mono fun _ _ h => h.after recorded

/-! The loop -/

/-- The answer of a shutdown that has seen this failure first. -/
def shutdownAnswer : Option WaitError → Except WaitError Unit
  | none => .ok ()
  | some error => .error error

/-- A shutdown returns once nothing is retained, or at an error of polling. -/
def ShutdownEnds (queue : WorkQueue) (failure : Option WaitError) (w : World)
    (result : WorkQueue × Option (Except WaitError Unit)) (w' : World) : Prop :=
  ∀ answer, result.2 = some answer → ∃ later, Across queue.tags result.1.tags later w w' ∧
    (result.1.pending = [] ∧ answer = shutdownAnswer (failure <|> later) ∨
      result.1.pending ≠ [] ∧ ∃ error, answer = .error error ∧ WaitError.polling error = true)

theorem ShutdownEnds.later {queue queue' : WorkQueue} {failure more : Option WaitError}
    {w w' w'' : World} {result : WorkQueue × Option (Except WaitError Unit)}
    (across : Across queue.tags queue'.tags more w w')
    (h : queue'.ShutdownEnds (failure <|> more) w' result w'') :
    queue.ShutdownEnds failure w result w'' := by
  intro answer hanswer
  obtain ⟨later, across', hends⟩ := h answer hanswer
  rw [orElse_assoc] at hends
  exact ⟨more <|> later, across.trans across', hends⟩

theorem shutdownLoop_ends (fuel : Nat) {queue : WorkQueue} (failure : Option WaitError)
    (hfault : queue.FaultPolls) (w : World) :
    Ensures (shutdownLoop fuel queue failure) w (queue.ShutdownEnds failure w) := by
  induction fuel generalizing queue failure w with
  | zero =>
      refine Ensures.pure fun answer h => ?_
      cases h
  | succ fuel ih =>
      simp only [shutdownLoop]
      split
      · rename_i hempty
        refine Ensures.pure fun answer h => ?_
        cases h
        refine ⟨none, .recorded queue.tags (refl_of Recorded w), .inl ⟨?_, ?_⟩⟩
        · exact List.isEmpty_iff.mp hempty
        · cases failure with
          | none => rfl
          | some error => rfl
      · rename_i hretained
        have hpending : queue.pending ≠ [] := by simpa using hretained
        refine (collect_across hfault w).bind fun result w₁ h₁ => ?_
        obtain ⟨queue₁, collected⟩ := result
        -- what the rest of the loop adds to what has been collected so far
        have goesOn : ∀ {more : Option WaitError}, Across queue.tags queue₁.tags more w w₁ →
            Ensures (queue₁.pauseIfPending >>= fun _ =>
              shutdownLoop fuel queue₁ (failure <|> more)) w₁ (queue.ShutdownEnds failure w) := by
          intro more across
          refine (Recorded.frame.pauseIfPending queue₁ w₁).bind fun _ w₂ recorded => ?_
          refine (ih (failure <|> more) h₁.fault w₂).mono fun _ _ h => ?_
          have paused : Across queue₁.tags queue₁.tags none w₁ w₂ := .recorded _ recorded
          refine .later (across.trans paused) ?_
          rw [orElse_none]
          exact h
        cases collected with
        | ok completed =>
            have hnext := goesOn (h₁.ok completed rfl)
            rw [orElse_none] at hnext
            exact hnext
        | error error =>
            simp only
            split
            · rename_i hends
              simp only [Bool.and_eq_true, Bool.not_eq_true', List.isEmpty_eq_false_iff] at hends
              refine Ensures.pure fun answer h => ?_
              cases h
              have hstays : ∃ later, Across queue.tags queue₁.tags later w w₁ := by
                rcases h₁.error error rfl hpending with ⟨hsame, -, recorded⟩ | across
                · refine ⟨none, ?_⟩
                  rw [tags, tags, show queue₁.pending = queue.pending from hsame]
                  exact .recorded _ recorded
                · exact ⟨some error, across⟩
              obtain ⟨later, across⟩ := hstays
              exact ⟨later, across, .inr ⟨hends.1, error, rfl, hends.2⟩⟩
            · rename_i hgoes
              rcases h₁.error error rfl hpending with ⟨hsame, hpolling, -⟩ | across
              · have hretained₁ : queue₁.pending ≠ [] := by
                  rw [show queue₁.pending = queue.pending from hsame]
                  exact hpending
                exact absurd (by simp [hretained₁, hpolling]) hgoes
              · exact goesOn across

/-! Runs -/

/-- Every entry has a lease, and polling has only failed for good with a panic. -/
def Leased (queue : WorkQueue) : Prop :=
  queue.FaultPolls ∧ ∀ tag ∈ queue.tags, tag.2 ≠ []

/-- An entry is pushed with the leases of its work. -/
def Pushes (queue : WorkQueue) (work : RecordedWork) (result : WorkQueue) : Prop :=
  result.pollFault = queue.pollFault ∧
    ∃ signal, result.tags = queue.tags ++ [(signal, work.leases)]

theorem Pushes.leased {queue result : WorkQueue} {work : RecordedWork}
    (h : queue.Pushes work result) (leased : queue.Leased) (hwork : work.leases ≠ []) :
    result.Leased := by
  obtain ⟨hfault, signal, htags⟩ := h
  refine ⟨fun error herror => leased.1 error (hfault ▸ herror), fun tag htag => ?_⟩
  rw [htags] at htag
  cases List.mem_append.mp htag with
  | inl hold => exact leased.2 tag hold
  | inr hnew =>
      rw [List.mem_singleton.mp hnew]
      exact hwork

theorem pushes_entry (queue : WorkQueue) {work : RecordedWork} {entry : PendingWork}
    {poisoned : Bool} (leases : entry.leases = work.leases) :
    queue.Pushes work { queue with pending := queue.pending ++ [entry], poisoned } := by
  refine ⟨rfl, entry.completion.signal, ?_⟩
  rw [tags, List.map_append, List.map_singleton, PendingWork.tag, leases]
  rfl

theorem retainFailed_pushes (queue : WorkQueue) {work : RecordedWork} {entry : PendingWork}
    (leases : entry.leases = work.leases) (error : WaitError) (rejection : WorkSubmitError)
    (w : World) : Ensures (queue.retainFailed entry error rejection) w fun result _ =>
      queue.Pushes work result.1 := by
  refine PendingWork.recover_tag.bind fun entry' w₁ htag => Ensures.pure ?_
  exact queue.pushes_entry ((congrArg Prod.snd htag).trans leases)

theorem submitOwned_pushes (queue : WorkQueue) (observer : Submission) (work : RecordedWork)
    (w : World) : Ensures (queue.submitOwned observer work) w fun result _ =>
      queue.Pushes work result.1 := by
  refine Ensures.andThen fun answer w₁ => ?_
  obtain ⟨scope, submitted⟩ := answer
  cases submitted with
  | ok submission =>
      refine Ensures.andThen fun status w₂ => ?_
      split
      · refine PendingWork.submitted_tag.bind fun entry w₃ htag => Ensures.pure ?_
        exact queue.pushes_entry (congrArg Prod.snd htag)
      · exact queue.retainFailed_pushes rfl _ _ _
      · exact Ensures.pure (queue.pushes_entry rfl)
  | error error =>
      simp only
      split
      · rename_i heq
        cases heq
      · exact queue.retainFailed_pushes rfl _ _ _
      · exact queue.retainFailed_pushes rfl _ _ _

theorem submitCollected_leased {queue : WorkQueue} {work : RecordedWork} (leased : queue.Leased)
    (hwork : work.leases ≠ []) (w : World) :
    Ensures (queue.submitCollected work) w fun result _ => result.1.Leased := by
  have pushed : ∀ (observer : Submission) (w : World), Ensures (queue.submitOwned observer work) w
      fun result _ => result.1.Leased := fun observer w =>
    (queue.submitOwned_pushes observer work w).mono fun _ _ h => h.leased leased hwork
  unfold submitCollected
  split
  · exact Ensures.pure leased
  · split
    · exact Ensures.pure leased
    · refine Ensures.andThen fun observer _ => Ensures.andThen fun status _ => ?_
      split
      · exact Ensures.andThen fun _ _ => Ensures.pure leased
      · exact pushed observer _
      · exact pushed observer _

theorem collect_leased {queue : WorkQueue} (leased : queue.Leased) (w : World) :
    Ensures queue.collect w fun result _ => result.1.Leased :=
  (collect_across leased.1 w).mono fun _ _ h =>
    ⟨h.fault, fun tag htag => leased.2 tag (h.kept.mem htag)⟩

theorem leased_rule : QueueRule (· ≠ []) Recorded fun queue _ _ => queue.Leased where
  frame := Recorded.frame
  moved h _ := h
  single _ := List.cons_ne_nil _ _
  append h _ := fun hnil => h (List.append_eq_nil_iff.mp hnil).1
  collect h := collect_leased h _
  submit h hwork := submitCollected_leased h hwork _

end WorkQueue

section
variable {schedule : Nat → Moment} {lastInstant : Nat} {context : WorkContext} {capacity : Nat}
  {calls : List Call} {client : Client} {w : World}

theorem runQueue_leased (run : runQueue schedule lastInstant context capacity calls = (client, w)) :
    client.queue.Leased := by
  rw [← runQueueLogged_fst] at run
  cases hlogged : runQueueLogged schedule lastInstant context capacity calls with
  | mk logged w' =>
      obtain ⟨client', log⟩ := logged
      rw [hlogged] at run
      cases run
      exact (WorkQueue.leased_rule.runQueue ⟨nofun, nofun⟩ hlogged).1

/-- A retained entry's leases have received no terminal hook. -/
theorem Books.unsettled {works : Multiset RecordedWork} {pending : List PendingWork}
    (books : Books w works pending) {entry : PendingWork} (hentry : entry ∈ pending) {lease : Lease}
    (hlease : lease ∈ entry.leases) : ∀ event ∈ w.events, event.settles ≠ some lease := by
  intro event hevent hsettles
  obtain ⟨⟨event', d⟩, hmem, rfl⟩ := List.mem_map.mp hevent
  exact books.ledger.not_settled (held_of_entry (Multiset.mem_coe.mpr hentry) hlease)
    (mem_leasesOf hmem hsettles)

/-- In every run, whatever the device answers: a shutdown that reports success retains nothing
and has told every lease of success; one that reports an error and retains nothing has told
some lease of a failure; one that retains entries reports an error of polling, and what it
retains keeps its leases, none of which has been told of its end. -/
theorem shutdown_truthful
    (run : runQueue schedule lastInstant context capacity calls = (client, w)) {fuel : Nat}
    {queue : WorkQueue} {answer : Except WaitError Unit} {w' : World}
    (returned : client.queue.shutdown fuel w = ((queue, some answer), w')) :
    ∃ events, w'.events = events ++ w.events ∧
      (answer = .ok () → queue.pending = [] ∧ ∀ entry ∈ client.queue.pending,
        ∀ lease ∈ entry.leases,
          .completed entry.completion.signal entry.leases lease (.ok ()) ∈ events) ∧
      (answer ≠ .ok () → queue.pending = [] → ∃ entry ∈ client.queue.pending,
        ∃ lease ∈ entry.leases, ∃ error,
          .completed entry.completion.signal entry.leases lease (.error error) ∈ events) ∧
      (queue.pending ≠ [] →
        (∃ error, answer = .error error ∧ WorkQueue.WaitError.polling error = true) ∧
        queue.tags.Sublist client.queue.tags ∧ ∀ entry ∈ queue.pending, ∀ lease ∈ entry.leases,
          ∀ event ∈ w'.events, event.settles ≠ some lease) := by
  obtain ⟨hfault, hleased⟩ := runQueue_leased run
  have books : client.Books w := by
    have h := runQueue_books schedule lastInstant context capacity calls
    rw [run] at h
    exact h
  have hbooks := client.queue.shutdown_spec fuel books
  have hends := WorkQueue.shutdownLoop_ends fuel none hfault w
  rw [WorkQueue.shutdown] at returned hbooks
  rw [Ensures, returned] at hends hbooks
  obtain ⟨later, ⟨events, hevents, collects⟩, hanswer⟩ := hends answer rfl
  have member : ∀ {entry : PendingWork}, entry ∈ client.queue.pending →
      entry.tag ∈ client.queue.tags := fun h => List.mem_map_of_mem h
  refine ⟨events, hevents, fun hok => ?_, fun herror hempty => ?_, fun hpending => ?_⟩
  · rcases hanswer with ⟨hempty, hlater⟩ | ⟨-, error, herror, -⟩
    · have hnone : later = none := by
        cases later with
        | none => rfl
        | some error => cases hlater.symm.trans hok
      refine ⟨hempty, fun entry hentry lease hlease => ?_⟩
      rcases collects.told entry.tag (member hentry) with hkept | ⟨outcome, htold, hgood⟩
      · rw [WorkQueue.tags, hempty] at hkept
        cases hkept
      · rw [hgood hnone] at htold
        exact htold lease hlease
    · cases herror.symm.trans hok
  · rcases hanswer with ⟨-, hlater⟩ | ⟨hpending, -⟩
    · have hfailed : later ≠ none := by
        intro hnone
        rw [hnone] at hlater
        exact herror hlater
      obtain ⟨tag, htag, error, htold⟩ := collects.failed hfailed
      obtain ⟨lease, hlease⟩ := List.exists_mem_of_ne_nil tag.2 (hleased tag htag)
      obtain ⟨entry, hentry, rfl⟩ := List.mem_map.mp htag
      exact ⟨entry, hentry, lease, hlease, error, htold lease hlease⟩
    · exact absurd hempty hpending
  · rcases hanswer with ⟨hempty, -⟩ | ⟨-, hpolling⟩
    · exact absurd hempty hpending
    · exact ⟨hpolling, collects.kept, fun entry hentry lease hlease =>
        hbooks.unsettled hentry hlease⟩

/-- A work of one command, submitted and not collected yet. -/
def submittedOnce : Client × World := runQueue (answering 0) 0 0 1 [.new 0 1, .trySubmit 0]

theorem shutdown_truthful_one_submission : ∃ queue w' events,
    submittedOnce.1.queue.shutdown 2 submittedOnce.2 = ((queue, some (.ok ())), w') ∧
      submittedOnce.1.queue.tags = [(0, [0])] ∧ w'.events = events ++ submittedOnce.2.events ∧
      queue.pending = [] ∧ ∀ entry ∈ submittedOnce.1.queue.pending, ∀ lease ∈ entry.leases,
        .completed entry.completion.signal entry.leases lease (.ok ()) ∈ events := by
  have hanswer : (submittedOnce.1.queue.shutdown 2 submittedOnce.2).1.2 = some (.ok ()) := by
    decide +kernel
  have htags : submittedOnce.1.queue.tags = [(0, [0])] := by decide +kernel
  generalize hreturned : submittedOnce.1.queue.shutdown 2 submittedOnce.2 = returned at hanswer
  obtain ⟨⟨queue, answer⟩, w'⟩ := returned
  cases hanswer
  have run : runQueue (answering 0) 0 0 1 [.new 0 1, .trySubmit 0] =
      (submittedOnce.1, submittedOnce.2) := (Prod.mk.eta (p := submittedOnce)).symm
  obtain ⟨events, hevents, hok, -⟩ := shutdown_truthful run hreturned
  exact ⟨queue, w', events, rfl, htags, hevents, hok rfl⟩

end

end GpuInfo
