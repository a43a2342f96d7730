import GpuInfo.Wait.QueueOrder

/-!
What becomes of the fences. A submission that fails leaves its entry a fence to prove its
retirement by, and the callback of the fence may be dropped as well: nothing replaces the fence
then. A signal fails only if its callback was dropped or its submission unwound, so where no
fence's callback is dropped, each failed entry that stays keeps a fence that may still succeed.
-/

namespace GpuInfo
open StateProgram

namespace World
variable (w : World) (signal : SignalId)

def Failing : Prop := ∃ error, w.device.signals signal = some (.error error)

/-- The others have dropped the callback of a signal, if it had one. -/
def Dropped : Prop := ∃ look < w.clock, EnvAct.dropCallback signal ∈ (w.schedule look).acts

/-- Why a signal may have failed. -/
def Explains : Prop := w.device.unwound signal = true ∨ w.Dropped signal

end World

/-- Time goes on, and whatever signal fails in it can be explained, but for the `spared` ones. -/
structure Onward (spared : List SignalId) (w w' : World) : Prop where
  schedule : w'.schedule = w.schedule
  clock : w.clock ≤ w'.clock
  nextSignal : w.device.nextSignal ≤ w'.device.nextSignal
  unwound : ∀ {signal}, w.device.unwound signal = true → w'.device.unwound signal = true
  explained : ∀ {signal}, w'.Failing signal →
    w.Failing signal ∨ w'.Explains signal ∨ signal ∈ spared

namespace Onward
variable {spared : List SignalId} {w w' w'' : World}

theorem refl (w : World) : Onward spared w w := ⟨rfl, le_rfl, le_rfl, id, .inl⟩

theorem explains (h : Onward spared w w') {signal : SignalId} (explains : w.Explains signal) :
    w'.Explains signal := by
  cases explains with
  | inl hunwound => exact .inl (h.unwound hunwound)
  | inr dropped =>
      obtain ⟨look, hlook, hact⟩ := dropped
      exact .inr ⟨look, hlook.trans_le h.clock, h.schedule.symm ▸ hact⟩

theorem trans (h : Onward spared w w') (h' : Onward spared w' w'') : Onward spared w w'' where
  schedule := h'.schedule.trans h.schedule
  clock := h.clock.trans h'.clock
  nextSignal := h.nextSignal.trans h'.nextSignal
  unwound hunwound := h'.unwound (h.unwound hunwound)
  explained failing := by
    cases h'.explained failing with
    | inr explained => exact .inr explained
    | inl failing' =>
        rcases h.explained failing' with before | explains | hspared
        · exact .inl before
        · exact .inr (.inl (h'.explains explains))
        · exact .inr (.inr hspared)

instance : IsPreorder World (Onward spared) where
  refl := refl
  trans _ _ _ := trans

theorem weaken (h : Onward [] w w') : Onward spared w w' where
  schedule := h.schedule
  clock := h.clock
  nextSignal := h.nextSignal
  unwound := h.unwound
  explained failing := (h.explained failing).imp id fun h => h.imp id (by simp)

/-- Nothing has to be spared once it is explained. -/
theorem settled (h : Onward spared w w') (explains : ∀ signal ∈ spared, w'.Explains signal) :
    Onward [] w w' where
  schedule := h.schedule
  clock := h.clock
  nextSignal := h.nextSignal
  unwound := h.unwound
  explained {signal} failing := by
    rcases h.explained failing with before | explained | hspared
    · exact .inl before
    · exact .inr (.inl explained)
    · exact .inr (.inl (explains signal hspared))

/-- A change that is about no signal's outcome. -/
theorem change {f : Device → Device} (signals : ∀ d, (f d).signals = d.signals)
    (nextSignal : ∀ d, d.nextSignal ≤ (f d).nextSignal)
    (unwound : ∀ d signal, d.unwound signal = true → (f d).unwound signal = true) :
    Keeps (Onward spared) (change f) := by
  intro w
  refine ⟨rfl, le_rfl, nextSignal w.device, unwound w.device _, fun failing => .inl ?_⟩
  obtain ⟨error, herror⟩ := failing
  exact ⟨error, (congrFun (signals w.device) _).symm.trans herror⟩

end Onward

/-! Looking -/

theorem Device.finish_failing {d : Device} {signal signal' : SignalId} {result : Outcome}
    {error : WaitError} (h : (d.finish signal result).signals signal' = some (.error error)) :
    d.signals signal' = some (.error error) ∨ (signal' = signal ∧ result = .error error) := by
  unfold Device.finish at h
  split at h
  · exact .inl h
  · simp only [Function.update_apply] at h
    split at h
    · rename_i heq
      exact .inr ⟨heq, Option.some.inj h⟩
    · exact .inl h

/-- Others fail a signal only by dropping its callback. -/
theorem EnvAct.failing {d : Device} {act : EnvAct} {signal : SignalId} {error : WaitError}
    (h : (act.apply d).signals signal = some (.error error)) :
    d.signals signal = some (.error error) ∨ act = .dropCallback signal := by
  cases act with
  | retire =>
      simp only [apply] at h
      split at h <;> exact .inl h
  | submitElsewhere => exact .inl h
  | runCallback signal' =>
      simp only [apply] at h
      split at h
      · split at h
        · cases Device.finish_failing h with
          | inl before => exact .inl before
          | inr finished => cases finished.2
        · exact .inl h
      · exact .inl h
  | dropCallback signal' =>
      simp only [apply] at h
      split at h
      · cases Device.finish_failing h with
        | inl before => exact .inl before
        | inr dropped => exact .inr (congrArg dropCallback dropped.1.symm)
      · exact .inl h
  | takeFuture scope | storeAnswer scope answer =>
      simp only [apply] at h
      split at h <;> exact .inl h
  | markLost reason =>
      simp only [apply, Device.markLost] at h
      split at h <;> exact .inl h

theorem failing_foldl {acts : List EnvAct} {d : Device} {signal : SignalId} {error : WaitError}
    (h : (acts.foldl EnvAct.apply d).signals signal = some (.error error)) :
    d.signals signal = some (.error error) ∨ EnvAct.dropCallback signal ∈ acts := by
  induction acts generalizing d with
  | nil => exact .inl h
  | cons act acts ih =>
      cases ih h with
      | inr later => exact .inr (List.mem_cons_of_mem act later)
      | inl applied =>
          refine (EnvAct.failing applied).imp id fun heq => ?_
          rw [heq]
          exact List.mem_cons_self

section
variable {spared : List SignalId} {w w' : World}

theorem tick_onward : Keeps (Onward spared) tick := by
  intro w
  have observed := observed_foldl (w.schedule w.clock).acts w.device
  refine ⟨rfl, Nat.le_succ _, observed.nextSignal.ge, ?_, fun failing => ?_⟩
  · intro signal hunwound
    exact (congrFun observed.unwound signal).trans hunwound
  · obtain ⟨error, herror⟩ := failing
    cases failing_foldl herror with
    | inl before => exact .inl ⟨error, before⟩
    | inr dropped => exact .inr (.inl (.inr ⟨w.clock, Nat.lt_succ_self _, dropped⟩))

theorem Onward.looks : Looks (Onward spared) where
  tick := tick_onward
  note _ w := by
    show Onward spared w { w with trace := _ }
    exact ⟨rfl, le_rfl, le_rfl, id, .inl⟩
  setScope _ _ _ := .change (fun _ => rfl) (fun _ => le_rfl) fun _ _ => id
  newSignal := by
    refine Keeps.get fun w => Keeps.bind ?_ fun _ => Keeps.pure _
    exact .change (fun _ => rfl) (fun _ => Nat.le_succ _) fun _ _ => id
  newLease := by
    refine Keeps.get fun w => Keeps.bind ?_ fun _ => Keeps.pure _
    exact .change (fun _ => rfl) (fun _ => le_rfl) fun _ _ => id
  polled := .change (fun _ => rfl) (fun _ => le_rfl) fun _ _ => id

/-! Submitting -/

theorem finish_onward (signal : SignalId) (result : Outcome) :
    Keeps (Onward [signal]) (change (·.finish signal result)) := by
  intro w
  have hsame : (w.device.finish signal result).nextSignal = w.device.nextSignal ∧
      (w.device.finish signal result).unwound = w.device.unwound := by
    unfold Device.finish
    split <;> exact ⟨rfl, rfl⟩
  refine ⟨rfl, le_rfl, hsame.1.ge, ?_, fun failing => ?_⟩
  · intro signal' hunwound
    exact (congrFun hsame.2 signal').trans hunwound
  · obtain ⟨error, herror⟩ := failing
    cases Device.finish_failing herror with
    | inl before => exact .inl ⟨error, before⟩
    | inr failed => exact .inr (.inr (List.mem_singleton.mpr failed.1))

/-- A submission that is not accepted fails its signal at most. -/
theorem submitTo_onward (signal : SignalId) (commands : List CommandBuffer) (w : World) :
    Ensures (submitTo signal commands) w fun result w' => Onward [signal] w w' ∧
      ∀ submission, result = .ok submission → Onward [] w w' := by
  have sends : Keeps (Onward []) (change (·.send signal commands)) :=
    .change (fun _ => rfl) (fun _ => le_rfl) fun _ _ => id
  have finishes := finish_onward signal (.error .dropped)
  have ticks : Keeps (Onward []) tick := tick_onward
  refine (ticks w).bind fun moment w₁ ticked => ?_
  split
  · refine (finishes w₁).bind fun _ w₂ finished => Ensures.pure ⟨?_, nofun⟩
    exact (Onward.weaken ticked).trans finished
  · have sendsAndFinishes : Keeps (Onward [signal])
        (change fun d => (d.send signal commands).finish signal (.error .dropped)) :=
      fun w => (Onward.weaken (sends w)).trans (finishes (change (·.send signal commands) w).2)
    refine (sendsAndFinishes w₁).bind fun _ w₂ finished => Ensures.pure ⟨?_, nofun⟩
    exact (Onward.weaken ticked).trans finished
  · refine (sends w₁).bind fun _ w₂ sent => (ticks w₂).bind fun _ w₃ ticked' => ?_
    refine (finishes w₃).bind fun _ w₄ finished => Ensures.pure ⟨?_, nofun⟩
    exact (Onward.weaken ((ticked.trans sent).trans ticked')).trans finished
  · have registers : Keeps (Onward []) (change (·.register signal)) :=
      .change (fun _ => rfl) (fun _ => le_rfl) fun _ _ => id
    refine (sends w₁).bind fun _ w₂ sent => (ticks w₂).bind fun _ w₃ ticked' => ?_
    refine (registers w₃).bind fun _ w₄ registered => Ensures.pure ?_
    have onward := ((ticked.trans sent).trans ticked').trans registered
    exact ⟨onward.weaken, fun _ _ => onward⟩

/-- What a checked submission leaves: it unwound, or was accepted under its signal. -/
def SubmitsChecked (signal : SignalId) (result : Except Payload (Checked Submission))
    (w : World) : Prop :=
  w.device.unwound signal = true ∨ ∃ submission, submission.signal = signal ∧
    result = .ok ⟨.ok submission, .future (.submission signal)⟩

theorem submitChecked_onward (signal : SignalId) (commands : List CommandBuffer) (w : World) :
    Ensures (submitChecked signal commands) w fun result w' =>
      Onward [] w w' ∧ SubmitsChecked signal result w' := by
  have unwinds : ∀ {w' : World} (result : Except Payload (Checked Submission)),
      Onward [signal] w w' → Ensures (do
        change fun d => { d with unwound := Function.update d.unwound signal true }
        pure result) w' fun result w'' => Onward [] w w'' ∧ SubmitsChecked signal result w'' := by
    intro w' result onward
    have marks : Keeps (Onward [signal])
        (change fun d => { d with unwound := Function.update d.unwound signal true }) := by
      refine .change (fun _ => rfl) (fun _ => le_rfl) fun d signal' hunwound => ?_
      simp [Function.update_apply, hunwound]
    have marked : Ensures
        (change fun d => { d with unwound := Function.update d.unwound signal true }) w'
        fun _ w'' => w''.device.unwound signal = true := by
      show Function.update w'.device.unwound signal true signal = true
      simp
    refine ((marks w').and marked).bind fun _ w'' h => Ensures.pure ⟨?_, .inl h.2⟩
    refine (onward.trans h.1).settled fun signal' hsignal' => .inl ?_
    rw [List.mem_singleton.mp hsignal']
    exact h.2
  have ticks : Keeps (Onward []) tick := tick_onward
  have checks : Ensures (checked (.submission signal) (submitTo signal commands)) w
      fun result w' => Onward [signal] w w' ∧ ∀ submission validation,
        result = .ok ⟨.ok submission, validation⟩ →
          Onward [] w w' ∧ submission.signal = signal ∧
            validation = .future (.submission signal) := by
    refine (ticks w).bind fun moment w₁ ticked => ?_
    split
    · exact Ensures.pure ⟨ticked.weaken, nofun⟩
    · have submits := (submitTo_onward signal commands w₁).and
        (submitTo_signal signal commands w₁)
      refine submits.bind fun value w₂ submitted => ?_
      refine (ticks w₂).bind fun moment' w₃ ticked' => ?_
      split
      · exact Ensures.pure ⟨(ticked.weaken.trans submitted.1.1).trans ticked'.weaken, nofun⟩
      · have stores : Keeps (Onward [])
            (change (·.setScope (.submission signal) ⟨true, none, false⟩)) :=
          Onward.looks.setScope _ _ (by simp)
        refine (stores w₃).bind fun _ w₄ stored => Ensures.pure ⟨?_, ?_⟩
        · exact ((ticked.weaken.trans submitted.1.1).trans ticked'.weaken).trans stored.weaken
        · intro submission validation heq
          cases value with
          | error payload => cases heq
          | ok submission' =>
              cases heq
              have onward := submitted.1.2 submission rfl
              exact ⟨((ticked.trans onward).trans ticked').trans stored,
                submitted.2 submission rfl, rfl⟩
  refine checks.bind fun result w₁ checked => ?_
  split
  · rename_i submission validation
    obtain ⟨onward, hsignal, hvalidation⟩ := checked.2 submission validation rfl
    exact Ensures.pure ⟨onward, .inr ⟨submission, hsignal, by rw [hvalidation]⟩⟩
  · exact unwinds result checked.1

theorem Onward.frame : Frame (Onward []) :=
  { Onward.looks with
    fence := fun signal w => (submitChecked_onward signal [] w).mono fun _ _ h => h.1 }

end

/-! Settled scopes -/

/-- Each of the scopes has an outcome. -/
def Device.Answered (d : Device) (scopes : List ScopeId) : Prop :=
  ∀ scope ∈ scopes, d.outcome scope ≠ none

theorem Device.Answered.later {d d' : Device} {scopes : List ScopeId} (h : d.Answered scopes)
    (later : d.Later d') : d'.Answered scopes := by
  intro scope hscope
  obtain ⟨outcome, houtcome⟩ := Option.ne_none_iff_exists'.mp (h scope hscope)
  rw [later.outcome houtcome]
  exact Option.some_ne_none outcome

/-- Nothing of a submission's scopes is still open. -/
def Submission.ScopesAnswered (submission : Submission) (d : Device) : Prop :=
  ∀ validation, submission.validation = some validation → d.Answered validation.scopes

theorem Submission.status_answered (submission : Submission) (w : World) :
    Ensures submission.status w fun status w' =>
      status ≠ none → submission.ScopesAnswered w'.device := by
  obtain ⟨signal, validation⟩ := submission
  cases validation with
  | none =>
      refine Ensures.mono (observe_spec ⟨signal, none⟩ w) fun _ w' _ _ => ?_
      simp [ScopesAnswered]
  | some validation =>
      have only : ∀ {d : Device}, d.Answered validation.scopes →
          ScopesAnswered ⟨signal, some validation⟩ d := by
        intro d h validation' heq
        cases heq
        exact h
      refine (validation.poll_polled w).bind fun answer w₁ polled => ?_
      split
      · exact Ensures.pure fun h => absurd rfl h
      · exact Ensures.pure fun _ => only (polled.2.decided _ rfl).settled
      · refine (observe_spec _ w₁).mono fun _ w₂ h _ => only ?_
        exact Device.Answered.later (polled.2.decided _ rfl).settled h.1.device.later

/-! One entry -/

/-- The fence that belongs to a failed entry: not an entry's own submission, and in place
unless it unwound. -/
def PendingWork.Fenced (entry : PendingWork) (log : QueueLog) (w : World) : Prop :=
  ∃ fence < w.device.nextSignal, fence ∉ log.pushed ∧ (w.device.unwound fence = true ∨
    entry.recovery = some ⟨fence, some (.future (.submission fence))⟩)

structure PendingWork.Guarded (entry : PendingWork) (log : QueueLog) (w : World) : Prop where
  unfailed : entry.failure = none → entry.recovery = none
  fenced : entry.failure ≠ none → entry.Fenced log w

section
variable {log : QueueLog} {w w' : World}

/-- The signals logged are old. -/
def QueueLog.Known (log : QueueLog) (w : World) : Prop :=
  ∀ signal ∈ log.pushed, signal < w.device.nextSignal

theorem QueueLog.Known.onward {spared : List SignalId} (h : log.Known w)
    (onward : Onward spared w w') : log.Known w' :=
  fun signal hsignal => (h signal hsignal).trans_le onward.nextSignal

namespace PendingWork
variable {entry : PendingWork}

theorem Guarded.onward {spared : List SignalId} (h : entry.Guarded log w)
    (onward : Onward spared w w') : entry.Guarded log w' := by
  refine ⟨h.unfailed, fun failed => ?_⟩
  obtain ⟨fence, hfence, unlogged, hrecovery⟩ := h.fenced failed
  exact ⟨fence, hfence.trans_le onward.nextSignal, unlogged, hrecovery.imp onward.unwound id⟩

/-- Whether an entry is committed does not matter. -/
theorem Guarded.committed (h : entry.Guarded log w) (committed : Bool) :
    Guarded { entry with committed } log w := ⟨h.unfailed, h.fenced⟩

theorem submitted_committed (entry : PendingWork) (w : World) :
    Ensures entry.submitted w fun entry' _ => entry' = { entry with committed := true } :=
  Ensures.andThen fun _ _ => Ensures.pure rfl

theorem commit_committed (entry : PendingWork) (validation : Option Outcome) (w : World) :
    Ensures (entry.commit validation) w fun entry' _ =>
      ∃ committed, entry' = { entry with committed } := by
  unfold commit
  split
  · exact (entry.submitted_committed w).mono fun _ _ h => ⟨true, h⟩
  · exact Ensures.pure ⟨entry.committed, rfl⟩

theorem commitRecovered_committed (entry : PendingWork) (recovered : Bool) (w : World) :
    Ensures (entry.commitRecovered recovered) w fun entry' _ =>
      ∃ committed, entry' = { entry with committed } := by
  unfold commitRecovered
  split
  · exact (entry.submitted_committed w).mono fun _ _ h => ⟨true, h⟩
  · exact Ensures.pure ⟨entry.committed, rfl⟩

/-- A failed entry is given a fence of its own. -/
theorem recover_guarded (known : log.Known w) (failed : entry.failure ≠ none) :
    Ensures entry.recover w fun entry' w' => Onward [] w w' ∧ entry'.Guarded log w' ∧
      entry'.completion = entry.completion ∧ entry'.failure = entry.failure := by
  refine (Onward.frame.recover entry w).and ?_
  have fresh : Ensures newSignal w fun fence w₁ =>
      fence = w.device.nextSignal ∧ fence < w₁.device.nextSignal := ⟨rfl, Nat.lt_succ_self _⟩
  refine fresh.bind fun fence w₁ h₁ => ?_
  obtain ⟨hnew, hfence⟩ := h₁
  have unlogged : fence ∉ log.pushed := fun hlogged =>
    Nat.lt_irrefl _ (hnew ▸ known fence hlogged)
  refine (submitChecked_onward fence [] w₁).bind fun result w₂ h₂ => ?_
  obtain ⟨onward, submits⟩ := h₂
  have hfence₂ := hfence.trans_le onward.nextSignal
  have guarded : ∀ {entry' : PendingWork} {w' : World}, entry'.failure = entry.failure →
      fence < w'.device.nextSignal → (w'.device.unwound fence = true ∨
        entry'.recovery = some ⟨fence, some (.future (.submission fence))⟩) →
      entry'.Guarded log w' := fun hfailure hfence hrecovery =>
    ⟨fun hnone => absurd (hfailure.symm.trans hnone) failed,
      fun _ => ⟨fence, hfence, unlogged, hrecovery⟩⟩
  cases submits with
  | inr accepted =>
      obtain ⟨submission, hsignal, hresult⟩ := accepted
      rw [hresult]
      refine Ensures.pure ⟨guarded rfl hfence₂ (.inr ?_), rfl, rfl⟩
      rw [hsignal]
  | inl unwound =>
      split
      · exact Ensures.pure ⟨guarded rfl hfence₂ (.inl unwound), rfl, rfl⟩
      · exact Ensures.pure ⟨guarded rfl hfence₂ (.inl unwound), rfl, rfl⟩
      · refine (Onward.frame.pending w₂).bind fun _ w₃ onward₃ => Ensures.pure ⟨?_, rfl, rfl⟩
        exact guarded rfl (hfence₂.trans_le onward₃.nextSignal) (.inl (onward₃.unwound unwound))

/-- On an empty queue nothing but open scopes keeps an entry without a fence. -/
theorem retired_queueEmpty (unfenced : entry.recovery = none)
    (answered : entry.completion.ScopesAnswered w.device) :
    Ensures (entry.retired true) w fun retired _ => retired = true := by
  have settled : Ensures (scopesSettled entry.completion.validation) w
      fun settled _ => settled = true := by
    unfold scopesSettled
    split
    · rename_i validation hvalidation
      refine (validation.poll_polled w).bind fun status w₁ polled => Ensures.pure ?_
      exact Option.isSome_iff_ne_none.mpr (polled.2.complete (answered validation hvalidation))
    · exact Ensures.pure rfl
  have validations : Ensures entry.validationsSettled w fun settled _ => settled = true := by
    refine settled.bind fun completion w₁ h => ?_
    rw [unfenced, h]
    exact Ensures.pure rfl
  refine validations.bind fun settled w₁ h => ?_
  rw [h]
  exact Ensures.pure rfl

/-- An entry that fails on an empty queue is given no fence. -/
structure Unfenced (entry entry' : PendingWork) (queueEmpty : Bool) (status : Option Outcome) :
    Prop where
  queueEmpty : queueEmpty = true
  status : status ≠ none
  completion : entry'.completion = entry.completion
  failed : entry'.failure ≠ none
  unfenced : entry'.recovery = none

theorem noteFailure_guarded (known : log.Known w) (guarded : entry.Guarded log w)
    (queueEmpty : Bool) (status : Option Outcome) :
    Ensures (entry.noteFailure queueEmpty status) w fun entry' w' => Onward [] w w' ∧
      (entry'.Guarded log w' ∨ (w' = w ∧ Unfenced entry entry' queueEmpty status)) := by
  refine (Onward.frame.noteFailure entry queueEmpty status w).and ?_
  unfold noteFailure
  split
  · rename_i error hnone
    simp only
    split
    · rename_i hempty
      exact Ensures.pure (.inr ⟨rfl, hempty, Option.some_ne_none _, rfl, Option.some_ne_none _,
        guarded.unfailed hnone⟩)
    · have failed : ({ entry with failure := some error } : PendingWork).failure ≠ none :=
        Option.some_ne_none error
      exact (recover_guarded known failed).mono fun entry' w' h => .inl h.2.1
  · exact Ensures.pure (.inl guarded)

theorem Unfenced.outcome {entry' : PendingWork} {queueEmpty : Bool} {status : Option Outcome}
    (h : Unfenced entry entry' queueEmpty status) (recovered committed : Bool) :
    outcome { entry' with committed } true recovered status ≠ none := by
  obtain ⟨error, herror⟩ := Option.ne_none_iff_exists'.mp h.failed
  simp only [PendingWork.outcome, herror, if_true]
  split <;> exact Option.some_ne_none _

/-- A turn of the loop that keeps an entry leaves it guarded. -/
theorem settle_guarded (known : log.Known w) (guarded : entry.Guarded log w)
    (queueEmpty : Bool) :
    Ensures (entry.settle queueEmpty) w fun result w' => Onward [] w w' ∧
      (result.2 = none → result.1.Guarded log w') := by
  refine (Onward.frame.settle entry queueEmpty w).and ?_
  refine (Onward.frame.validationStatus _ w).bind fun validation w₁ onward₁ => ?_
  have commits := (Onward.frame.commit entry validation w₁).and
    (entry.commit_committed validation w₁)
  refine commits.bind fun entry₁ w₂ h₂ => ?_
  obtain ⟨onward₂, committed, hentry₁⟩ := h₂
  have statuses := (Onward.frame.status entry₁.completion w₂).and
    (entry₁.completion.status_answered w₂)
  refine statuses.bind fun status w₃ h₃ => ?_
  obtain ⟨onward₃, answered⟩ := h₃
  have notes : Ensures (note (.looked entry₁.completion.signal entry₁.leases
      (!entry.committed && entry.failure.isNone) validation status)) w₃
      fun _ w₄ => w₄.device = w₃.device ∧ Onward [] w₃ w₄ :=
    ⟨rfl, Onward.frame.note _ w₃⟩
  refine notes.bind fun _ w₄ h₄ => ?_
  have onward₄ := ((onward₁.trans onward₂).trans onward₃).trans h₄.2
  have guarded₁ : entry₁.Guarded log w₄ := hentry₁ ▸ (guarded.committed committed).onward onward₄
  refine (noteFailure_guarded (known.onward onward₄) guarded₁ queueEmpty status).bind
    fun entry₂ w₅ h₅ => ?_
  cases h₅.2 with
  | inl guarded₂ =>
      refine (Onward.frame.retired entry₂ queueEmpty w₅).bind fun retired w₆ onward₆ => ?_
      refine (Onward.frame.recovered entry₂ retired w₆).bind fun recovered w₇ onward₇ => ?_
      have commits := (Onward.frame.commitRecovered entry₂ recovered w₇).and
        (entry₂.commitRecovered_committed recovered w₇)
      refine commits.bind fun entry₃ w₈ h₈ => Ensures.pure fun _ => ?_
      obtain ⟨onward₈, committed', hentry₃⟩ := h₈
      rw [hentry₃]
      exact (guarded₂.committed committed').onward ((onward₆.trans onward₇).trans onward₈)
  | inr unfenced =>
      -- the scopes have just answered, so the entry is retired in this turn
      obtain ⟨hworld, unfenced⟩ := unfenced
      have scopes : entry₂.completion.ScopesAnswered w₅.device := by
        rw [hworld, h₄.1, unfenced.completion]
        exact answered unfenced.status
      have retires := retired_queueEmpty unfenced.unfenced scopes
      rw [unfenced.queueEmpty]
      refine retires.bind fun retired w₆ hretired => ?_
      refine Ensures.andThen fun recovered w₇ => ?_
      refine (entry₂.commitRecovered_committed recovered w₇).bind fun entry₃ w₈ h₈ =>
        Ensures.pure fun hnone => ?_
      obtain ⟨committed', hentry₃⟩ := h₈
      rw [hentry₃, hretired] at hnone
      exact absurd hnone (unfenced.outcome recovered committed')

end PendingWork

/-! The queue -/

namespace WorkQueue

theorem collectPending_guarded (queueEmpty : Bool) (entries : List PendingWork)
    (collected : Collected) (known : log.Known w)
    (guarded : ∀ entry ∈ entries, entry.Guarded log w) :
    Ensures (collectPending queueEmpty entries collected) w fun result w' =>
      ∀ entry ∈ result.1, entry.Guarded log w' := by
  induction entries generalizing collected w with
  | nil => exact Ensures.pure (by simp)
  | cons entry entries ih =>
      refine (PendingWork.settle_guarded known (guarded entry List.mem_cons_self) queueEmpty).bind
        fun result w₁ h₁ => ?_
      obtain ⟨entry₁, outcome⟩ := result
      obtain ⟨onward₁, kept⟩ := h₁
      have rest : ∀ {w₂ : World}, Onward [] w₁ w₂ →
          ∀ entry ∈ entries, entry.Guarded log w₂ := fun onward₂ other hother =>
        (guarded other (List.mem_cons_of_mem entry hother)).onward (onward₁.trans onward₂)
      cases outcome with
      | some outcome =>
          refine (Onward.frame.finish entry₁ outcome w₁).bind fun _ w₂ onward₂ => ?_
          exact ih _ (known.onward (onward₁.trans onward₂)) (rest onward₂)
      | none =>
          have collects := (Onward.frame.collectPending queueEmpty entries collected w₁).and
            (ih collected (known.onward onward₁) (rest (.refl w₁)))
          refine collects.bind fun result w₂ h₂ => Ensures.pure fun other hother => ?_
          cases List.mem_cons.mp hother with
          | inl heq => exact heq ▸ (kept rfl).onward h₂.1
          | inr hrest => exact h₂.2 other hrest

/-- Failed signals are explained, and each failed entry has its fence. -/
structure Guarded (schedule : Nat → Moment) (queue : WorkQueue) (log : QueueLog) (w : World) :
    Prop where
  schedule : w.schedule = schedule
  explained : ∀ signal, w.Failing signal → w.Explains signal
  known : log.Known w
  entries : ∀ entry ∈ queue.pending, entry.Guarded log w

namespace Guarded
variable {schedule : Nat → Moment} {queue : WorkQueue}

theorem onward (h : queue.Guarded schedule log w) (onward : Onward [] w w') :
    queue.Guarded schedule log w' where
  schedule := onward.schedule.trans h.schedule
  explained signal failing := by
    rcases onward.explained failing with before | explained | hspared
    · exact onward.explains (h.explained signal before)
    · exact explained
    · cases hspared
  known := h.known.onward onward
  entries entry hentry := (h.entries entry hentry).onward onward

/-- No entry is new. -/
theorem keep (h : queue.Guarded schedule log w) {queue' : WorkQueue} {more : QueueLog}
    (onward : Onward [] w w') (unlogged : more.pushed = [])
    (entries : ∀ entry ∈ queue'.pending, entry.Guarded log w') :
    queue'.Guarded schedule (log.add more) w' := by
  have hpushed : (log.add more).pushed = log.pushed := by simp [QueueLog.add, unlogged]
  refine ⟨(h.onward onward).schedule, (h.onward onward).explained, fun signal hsignal => ?_,
    fun entry hentry => ?_⟩
  · exact (h.onward onward).known signal (hpushed ▸ hsignal)
  · refine ⟨(entries entry hentry).unfailed, fun failed => ?_⟩
    rw [PendingWork.Fenced, hpushed]
    exact (entries entry hentry).fenced failed

theorem same (h : queue.Guarded schedule log w) {queue' : WorkQueue} {more : QueueLog}
    (onward : Onward [] w w') (unlogged : more.pushed = [])
    (hpending : queue'.pending = queue.pending ∨ queue'.pending = []) :
    queue'.Guarded schedule (log.add more) w' := by
  refine h.keep onward unlogged fun entry hentry => ?_
  cases hpending with
  | inl hsame => exact (h.onward onward).entries entry (hsame ▸ hentry)
  | inr hnone =>
      rw [hnone] at hentry
      cases hentry

theorem terminalLoss (queue : WorkQueue) (w : World) :
    Ensures queue.terminalLoss w fun result w' => Onward [] w w' ∧
      (result.1.pending = queue.pending ∨ result.1.pending = []) := by
  refine (Onward.frame.terminalLoss queue w).and ?_
  refine Ensures.andThen fun loss w₁ => ?_
  split
  · exact Ensures.pure (.inl rfl)
  · exact Ensures.andThen fun _ _ => Ensures.pure (.inr rfl)

theorem collect (h : queue.Guarded schedule log w) :
    Ensures queue.collect w fun result w' =>
      result.1.Guarded schedule (log.add (.collected result.2)) w' := by
  refine (terminalLoss queue w).bind fun result w₁ h₁ => ?_
  obtain ⟨queue₁, loss⟩ := result
  obtain ⟨onward₁, hpending₁⟩ := h₁
  cases loss with
  | some error => exact Ensures.pure (h.same onward₁ rfl hpending₁)
  | none =>
      simp only
      split
      · exact Ensures.pure (h.same onward₁ rfl hpending₁)
      · refine (Onward.frame.poll w₁).bind fun polled w₂ onward₂ => ?_
        refine (terminalLoss queue₁ w₂).bind fun result w₃ h₃ => ?_
        obtain ⟨queue₃, loss⟩ := result
        obtain ⟨onward₃, hpending₃⟩ := h₃
        have onward := (onward₁.trans onward₂).trans onward₃
        have hpending : queue₃.pending = queue.pending ∨ queue₃.pending = [] := by
          cases hpending₃ with
          | inl hsame => exact hpending₁.imp hsame.trans hsame.trans
          | inr hnone => exact .inr hnone
        cases loss with
        | some error => exact Ensures.pure (h.same onward rfl hpending)
        | none =>
            simp only
            unfold collectPolled
            split
            · exact Ensures.pure (h.same onward rfl hpending)
            · exact Ensures.pure (h.same onward rfl hpending)
            · have guarded : queue₃.Guarded schedule (log.add .empty) w₃ :=
                h.same onward rfl hpending
              rw [log.add_empty] at guarded
              rename_i status
              have collects := (Onward.frame.collectPending (status == .queueEmpty)
                queue₃.pending ⟨0, none⟩ w₃).and (collectPending_guarded (status == .queueEmpty)
                queue₃.pending ⟨0, none⟩ guarded.known guarded.entries)
              refine collects.bind fun result w₄ h₄ => Ensures.pure ?_
              exact guarded.keep h₄.1 rfl h₄.2

/-- A signal that no entry has yet. -/
theorem newSignal (h : queue.Guarded schedule log w) :
    Ensures Submission.pending w fun observer w' => Onward [] w w' ∧
      queue.Guarded schedule (log.add (.push observer.signal)) w' := by
  refine ((Onward.frame.pending w).and (pending_fresh w)).mono fun observer w' h' => ?_
  obtain ⟨onward, hsignal, hfresh⟩ := h'
  have guarded := h.onward onward
  refine ⟨onward, guarded.schedule, guarded.explained, fun signal hlogged => ?_,
    fun entry hentry => ?_⟩
  · cases List.mem_append.mp hlogged with
    | inl hold => exact guarded.known signal hold
    | inr hnew => exact List.mem_singleton.mp hnew ▸ hfresh
  · refine ⟨(guarded.entries entry hentry).unfailed, fun failed => ?_⟩
    obtain ⟨fence, hfence, unlogged, hrecovery⟩ := (h.entries entry hentry).fenced failed
    refine ⟨fence, hfence.trans_le onward.nextSignal, fun hlogged => ?_,
      hrecovery.imp onward.unwound id⟩
    cases List.mem_append.mp hlogged with
    | inl hold => exact unlogged hold
    | inr hnew => exact Nat.ne_of_lt hfence ((List.mem_singleton.mp hnew).trans hsignal)

theorem push (h : queue.Guarded schedule log w) {entry : PendingWork}
    (guarded : entry.Guarded log w) (poisoned : Bool) :
    ({ queue with pending := queue.pending ++ [entry], poisoned } : WorkQueue).Guarded
      schedule log w where
  schedule := h.schedule
  explained := h.explained
  known := h.known
  entries other hother := by
    cases List.mem_append.mp hother with
    | inl hold => exact h.entries other hold
    | inr hnew => exact List.mem_singleton.mp hnew ▸ guarded

/-- What a submission under this signal leaves. -/
structure Pushes (schedule : Nat → Moment) (queue : WorkQueue) (signal : SignalId)
    (log : QueueLog) (result : WorkQueue) (w : World) : Prop where
  guarded : result.Guarded schedule log w
  pushed : ∃ entry, result.pending = queue.pending ++ [entry] ∧ entry.completion.signal = signal

theorem retainFailed (h : queue.Guarded schedule log w) (entry : PendingWork) (error : WaitError)
    (rejection : WorkSubmitError) :
    Ensures (queue.retainFailed entry error rejection) w fun result w' =>
      Pushes schedule queue entry.completion.signal log result.1 w' := by
  have failed : ({ entry with failure := some error } : PendingWork).failure ≠ none :=
    Option.some_ne_none error
  refine (PendingWork.recover_guarded h.known failed).bind fun entry' w₁ h₁ => Ensures.pure ?_
  obtain ⟨onward, guarded, hcompletion, -⟩ := h₁
  exact ⟨(h.onward onward).push guarded true, entry', rfl, congrArg Submission.signal hcompletion⟩

theorem submitOwned (h : queue.Guarded schedule log w) (observer : Submission)
    (work : RecordedWork) :
    Ensures (queue.submitOwned observer work) w fun result w' =>
      Pushes schedule queue observer.signal log result.1 w' := by
  have submits : Ensures (submitFor observer work.commands) w fun _ w' => Onward [] w w' := by
    refine (submitChecked_onward observer.signal work.commands w).bind fun result w₁ h₁ => ?_
    split <;> exact Ensures.pure h₁.1
  refine (submits.and (submitFor_answers observer work.commands w)).bind fun result w₁ h₁ => ?_
  obtain ⟨scope, result⟩ := result
  obtain ⟨onward₁, hsubmitted, -⟩ := h₁
  have h₁ := h.onward onward₁
  cases result with
  | error error =>
      cases error with
      | submitPanicked message => exact retainFailed h₁ _ _ _
      | poll _ | map _ | dropped | submitRejected _ | pollPanicked _ | deviceLost _ =>
          exact retainFailed h₁ _ _ _
  | ok submission =>
      have hsignal := hsubmitted submission rfl
      have unfailed : ∀ {entry : PendingWork} {w : World}, entry.failure = none →
          entry.recovery = none → entry.Guarded log w :=
        fun hnone hrecovery => ⟨fun _ => hrecovery, absurd hnone⟩
      simp only
      refine (Onward.frame.validationStatus _ w₁).bind fun status w₂ onward₂ => ?_
      have h₂ := h₁.onward onward₂
      split
      · have commits := (Onward.frame.submitted ⟨{ submission with
          validation := some (.all (work.validation ++ scope)) }, work.leases, none, none, false⟩
          w₂).and (PendingWork.submitted_committed _ w₂)
        refine commits.bind fun entry w₃ h₃ => Ensures.pure ?_
        obtain ⟨onward₃, hentry⟩ := h₃
        refine ⟨(h₂.onward onward₃).push ?_ _, entry, rfl, ?_⟩
        · rw [hentry]
          exact unfailed rfl rfl
        · rw [hentry]
          exact hsignal
      · rw [← hsignal]
        exact retainFailed h₂ _ _ _
      · exact Ensures.pure ⟨h₂.push (unfailed rfl rfl) _, _, rfl, hsignal⟩

theorem submitCollected (h : queue.Guarded schedule log w) (work : RecordedWork) :
    Ensures (queue.submitCollected work) w fun result w' =>
      result.1.Guarded schedule (log.add ⟨[], queue.newSignals result.1⟩) w' := by
  have unchanged : queue.newSignals queue = [] := by simp [newSignals]
  unfold WorkQueue.submitCollected
  split
  · exact Ensures.pure (h.same (.refl w) unchanged (.inl rfl))
  · split
    · exact Ensures.pure (h.same (.refl w) unchanged (.inl rfl))
    · refine (newSignal h).bind fun observer w₁ h₁ => ?_
      obtain ⟨onward₁, guarded₁⟩ := h₁
      have polls : Keeps (Onward []) (Validation.pollAll work.validation) :=
        Onward.frame.validation _
      refine (polls w₁).bind fun status w₂ onward₂ => ?_
      have submits : Ensures (queue.submitOwned observer work) w₂ fun result w' =>
          result.1.Guarded schedule (log.add ⟨[], queue.newSignals result.1⟩) w' := by
        refine (submitOwned (guarded₁.onward onward₂) observer work).mono fun result w' pushes => ?_
        obtain ⟨guarded, entry, hpending, hsignal⟩ := pushes
        have hnew : queue.newSignals result.1 = [observer.signal] := by
          simp [newSignals, hpending, hsignal]
        rw [hnew]
        exact guarded
      split
      · have drops : Keeps (Onward []) work.drop := Onward.frame.dropWork work
        refine (drops w₂).bind fun _ w₃ onward₃ => Ensures.pure ?_
        exact h.same ((onward₁.trans onward₂).trans onward₃) unchanged (.inl rfl)
      · exact submits
      · exact submits

/-- Being guarded is an invariant of runs. -/
theorem rule : QueueRule (fun _ => True) (Onward []) (Guarded schedule) where
  frame := Onward.frame
  moved := onward
  single _ := trivial
  append _ _ := trivial
  collect := collect
  submit h _ := submitCollected h _

theorem new (schedule : Nat → Moment) (lastInstant : Nat) (context : WorkContext)
    (capacity : Nat) :
    (WorkQueue.new context capacity).Guarded schedule .empty
      ⟨schedule, 0, 0, lastInstant, .new, []⟩ where
  schedule := rfl
  explained signal failing := by
    obtain ⟨error, herror⟩ := failing
    cases herror
  known _ hlogged := by cases hlogged
  entries _ hentry := by cases hentry

end Guarded

end WorkQueue

end

/-! Runs -/

/-- As far as is known, what was submitted for fences has been accepted, and without
unwinding: under each signal that no entry was pushed for. -/
def FencesAccepted (log : QueueLog) (d : Device) : Prop :=
  ∀ fence < d.nextSignal, fence ∉ log.pushed → d.unwound fence = false ∧
    (d.outcome (.submission fence) = none ∨ d.outcome (.submission fence) = some (.ok ()))

instance (log : QueueLog) (d : Device) : Decidable (FencesAccepted log d) :=
  inferInstanceAs (Decidable (∀ fence < d.nextSignal, fence ∉ log.pushed →
    d.unwound fence = false ∧
      (d.outcome (.submission fence) = none ∨ d.outcome (.submission fence) = some (.ok ()))))

/-- So far no callback of a fence that the queue keeps has been dropped uncalled. -/
def WorkQueue.FencesCalled (queue : WorkQueue) (schedule : Nat → Moment) (clock : Nat) : Prop :=
  ∀ entry ∈ queue.pending, ∀ fence, entry.recovery = some fence →
    ∀ look < clock, EnvAct.dropCallback fence.signal ∉ (schedule look).acts

/-- Neither the callback nor the scopes of a submission have reported an error. -/
structure Submission.Unfailed (submission : Submission) (d : Device) : Prop where
  signal : ∀ error, d.signals submission.signal ≠ some (.error error)
  scopes : ∀ validation, submission.validation = some validation →
    ∀ error, ¬ d.Rejected validation.scopes error

/-- Each failed entry that the queue keeps can still be proved retired. -/
def WorkQueue.Recoverable (queue : WorkQueue) (d : Device) : Prop :=
  ∀ entry ∈ queue.pending, entry.failure ≠ none →
    ∃ fence, entry.recovery = some fence ∧ fence.Unfailed d

theorem WorkQueue.Guarded.recoverable {schedule : Nat → Moment} {queue : WorkQueue}
    {log : QueueLog} {w : World} (h : queue.Guarded schedule log w)
    (accepted : FencesAccepted log w.device) (called : queue.FencesCalled schedule w.clock) :
    queue.Recoverable w.device := by
  intro entry hentry failed
  obtain ⟨fence, hfence, unlogged, hrecovery⟩ := (h.entries entry hentry).fenced failed
  obtain ⟨wound, houtcome⟩ := accepted fence hfence unlogged
  have unwound : w.device.unwound fence ≠ true := by simp [wound]
  have hrecovery := hrecovery.resolve_left unwound
  refine ⟨_, hrecovery, fun error herror => ?_, fun validation heq error rejected => ?_⟩
  · cases h.explained fence ⟨error, herror⟩ with
    | inl unwinds => exact unwound unwinds
    | inr dropped =>
        obtain ⟨look, hlook, hact⟩ := dropped
        rw [h.schedule] at hact
        exact called entry hentry _ hrecovery look hlook hact
  · cases heq
    obtain ⟨scope, hscope, herror⟩ := rejected
    rw [Validation.scopes, List.mem_singleton] at hscope
    rw [← hscope, herror] at houtcome
    simp at houtcome

/-- After every run in which what was submitted for fences was accepted, whatever else the
device answers: unless the callback of such a fence has been dropped uncalled, each failed
entry that is retained has a fence that has not failed. -/
theorem failed_entries_recoverable {schedule : Nat → Moment} {lastInstant : Nat}
    {context : WorkContext} {capacity : Nat} {calls : List Call} {client : Client}
    {log : QueueLog} {w : World}
    (run : runQueueLogged schedule lastInstant context capacity calls = ((client, log), w))
    (accepted : FencesAccepted log w.device)
    (called : client.queue.FencesCalled schedule w.clock) :
    client.queue.Recoverable w.device :=
  (WorkQueue.Guarded.rule.runQueue (.new schedule lastInstant context capacity) run).1.recoverable
    accepted called

/-- All goes well, but the callbacks of these signals are dropped once they are registered. -/
def dropping (signals : List SignalId) (_ : Nat) : Moment :=
  ⟨signals.map .dropCallback, 0, .ready none none none, .poll, .accepted, none⟩

theorem failed_entries_recoverable_called :
    ∃ client log w, runQueueLogged (dropping [0]) 0 0 1 oneSubmission = ((client, log), w) ∧
      client.queue.pending.map (·.failure) = [some .dropped] ∧
      client.queue.Recoverable w.device := by
  have haccepted : FencesAccepted (runQueueLogged (dropping [0]) 0 0 1 oneSubmission).1.2
      (runQueueLogged (dropping [0]) 0 0 1 oneSubmission).2.device := by decide +kernel
  have hfailure : (runQueueLogged (dropping [0]) 0 0 1 oneSubmission).1.1.queue.pending.map
      (·.failure) = [some .dropped] := by decide +kernel
  have hfences : ∀ fence ∈ (runQueueLogged (dropping [0]) 0 0 1
      oneSubmission).1.1.queue.pending.map (·.recovery.map (·.signal)), fence = some 1 := by
    decide +kernel
  generalize hrun : runQueueLogged (dropping [0]) 0 0 1 oneSubmission = run at *
  obtain ⟨⟨client, log⟩, w⟩ := run
  refine ⟨client, log, w, rfl, hfailure, failed_entries_recoverable hrun haccepted ?_⟩
  intro entry hentry fence hfence look _ hact
  have hsignal := hfences _ (List.mem_map_of_mem hentry)
  rw [hfence, Option.map_some, Option.some.injEq] at hsignal
  rw [hsignal] at hact
  simp [dropping] at hact

/-- The callback of the fence is dropped like that of the submission: no loss, no error from
polling, each submission accepted, and a failed entry without a proof. -/
theorem recovery_fence_can_fail :
    ∃ client log w, runQueueLogged (dropping [0, 1]) 0 0 1 oneSubmission = ((client, log), w) ∧
      log.collects = [.ok 0, .ok 0] ∧ FencesAccepted log w.device ∧
      ¬ client.queue.Recoverable w.device := by
  have haccepted : FencesAccepted (runQueueLogged (dropping [0, 1]) 0 0 1 oneSubmission).1.2
      (runQueueLogged (dropping [0, 1]) 0 0 1 oneSubmission).2.device := by decide +kernel
  have hcollects : (runQueueLogged (dropping [0, 1]) 0 0 1 oneSubmission).1.2.collects =
      [.ok 0, .ok 0] := by decide +kernel
  have hentries : (runQueueLogged (dropping [0, 1]) 0 0 1
      oneSubmission).1.1.queue.pending.map (fun entry =>
        (entry.failure, entry.recovery.map (·.signal))) = [(some .dropped, some 1)] := by
    decide +kernel
  have hsignal : (runQueueLogged (dropping [0, 1]) 0 0 1 oneSubmission).2.device.signals 1 =
      some (.error .dropped) := by decide +kernel
  generalize runQueueLogged (dropping [0, 1]) 0 0 1 oneSubmission = run at *
  obtain ⟨⟨client, log⟩, w⟩ := run
  refine ⟨client, log, w, rfl, hcollects, haccepted, fun recoverable => ?_⟩
  obtain ⟨entry, rest, hpending, hentry, -⟩ := List.map_eq_cons_iff.mp hentries
  have hmem : entry ∈ client.queue.pending := hpending ▸ List.mem_cons_self
  obtain ⟨hfailure, hrecovery⟩ := Prod.mk.inj hentry
  obtain ⟨fence, hfence, unfailed⟩ := recoverable entry hmem (by simp [hfailure])
  rw [hfence, Option.map_some, Option.some.injEq] at hrecovery
  exact unfailed.signal .dropped (hrecovery ▸ hsignal)

end GpuInfo
