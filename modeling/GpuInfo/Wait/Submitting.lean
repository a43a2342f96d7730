import GpuInfo.Wait.Collecting

/-!
Works from their birth to the queue. `try_submit` returns a work, drops it or makes it
an entry, and a work that became an entry stays one however its submission ends.
-/

namespace GpuInfo
open StateProgram Device

section
variable {w w' : World} {works : Multiset RecordedWork} {pending : Multiset PendingWork}
  {work : RecordedWork} {entry : PendingWork} {signal : SignalId}

theorem Validation.scopesOf_append (parts parts' : List Validation) :
    scopesOf (parts ++ parts') = scopesOf parts ++ scopesOf parts' := by
  induction parts with
  | nil => rw [List.nil_append, scopesOf, List.nil_append]
  | cons part parts ih => rw [List.cons_append, scopesOf, scopesOf, ih, List.append_assoc]

theorem NewSignal.watches {w'' : World} (h : NewSignal w signal w') (watched : Watches w' w'') :
    NewSignal w signal w'' where
  trace := watched.trace.trans h.trace
  later := h.later.trans watched.device.later
  sound := watched.device.sound h.sound
  unused := h.unused
  fresh := h.fresh.observed watched.device
  passed := watched.device.passed.trans h.passed
  polledLoss := watched.device.polledLoss.trans h.polledLoss

/-- A work becomes an entry, and its commands may reach the device. -/
theorem Books.retain (books : Books w (work ::ₘ works) pending) (trace : w'.trace = w.trace)
    (later : w.device.Later w'.device) (device : w'.device.Sound)
    (passed : ∀ command ∈ w'.device.passed, command ∈ work.commands ∨
      command ∈ w.device.passed)
    (leases : entry.leases = work.leases) (uncommitted : entry.committed = false)
    (sound : entry.Sound w'.device) : Books w' works (entry ::ₘ pending) where
  ledger := {
    device
    conserved := by
      rw [trace, held_cons_entry, leases, ← held_cons_work]
      exact books.ledger.conserved
    distinct := trace ▸ books.ledger.distinct
    known := fun lease h => by
      rw [trace] at h
      exact (books.ledger.known lease h).trans_le later.nextLease
    committed := trace ▸ books.ledger.committed
    history := trace ▸ books.ledger.history }
  recorded other hother := books.recorded_later later other (Multiset.mem_cons_of_mem hother)
  retained other hother := by
    cases Multiset.mem_cons.mp hother with
    | inl heq => exact heq ▸ sound
    | inr hother => exact books.retained_later later other hother
  uncommitted other hother := by
    rw [trace]
    exact books.uncommitted other (Multiset.mem_cons_of_mem hother)
  committed other hother lease hlease := by
    rw [trace]
    cases Multiset.mem_cons.mp hother with
    | inl heq =>
        subst heq
        rw [uncommitted]
        rw [leases] at hlease
        exact iff_of_false (books.uncommitted work (Multiset.mem_cons_self _ _) lease hlease) nofun
    | inr hother => exact books.committed other hother lease hlease
  passed command hcommand := by
    rw [trace, pendingLeases_cons, Multiset.mem_add, Multiset.mem_coe, leases, or_assoc]
    cases passed command hcommand with
    | inl hnew =>
        exact .inl ((books.recorded work (Multiset.mem_cons_self _ _)).commands command hnew)
    | inr hold => exact .inr (books.passed command hold)

/-- The submission for an entry, with the scope it leaves. -/
structure SubmittedFor (signal : SignalId) (commands : List CommandBuffer) (w : World)
    (result : List Validation × Except WaitError Submission) (w' : World) : Prop where
  trace : w'.trace = w.trace
  device : w.device.Submits signal commands w'.device
  sound : w'.device.Sound
  accepted : ∀ submission, result.2 = .ok submission →
    result.1 = [.future (.submission signal)] ∧ submission = ⟨signal, none⟩ ∧
      w'.device.unwound signal = false ∧ ∃ number, w'.device.sent signal = some number
  unwound : ∀ error, result.2 = .error error → ∃ message, error = .submitPanicked message

/-- What a work becomes when its submission for `signal` returns. -/
def RecordedWork.retained (work : RecordedWork) (signal : SignalId) : PendingWork :=
  ⟨⟨signal, some (.all (work.validation ++ [.future (.submission signal)]))⟩, work.leases,
    none, none, false⟩

theorem RecordedWork.Sound.owned {d : Device} (h : work.Sound d)
    (unwound : d.unwound signal = false) (sent : ∃ number, d.sent signal = some number) :
    (work.retained signal).Owned d := by
  refine ⟨unwound, sent, _, rfl, ?_, fun lease hlease hscope => ?_⟩
  · simp [RecordedWork.retained, Validation.scopes, Validation.scopesOf,
      Validation.scopesOf_append]
  · have hrecorded := h.scopes lease hlease hscope
    simp [Validation.scopes, Validation.scopesOf_append, hrecorded]

namespace WorkQueue

theorem submitFor_spec (observer : Submission) (commands : List CommandBuffer)
    (hw : w.device.Sound) (fresh : w.device.Fresh observer.signal) :
    Ensures (submitFor observer commands) w (SubmittedFor observer.signal commands w) := by
  refine (submitChecked_spec commands hw fresh).bind fun result w₁ h₁ => ?_
  cases result with
  | ok operation =>
      refine Ensures.pure ⟨h₁.trace, h₁.device, h₁.sound, fun submission hvalue => ?_,
        fun error hvalue => h₁.unwound operation error rfl hvalue⟩
      obtain ⟨hsubmission, hunwound, hsent, -⟩ := h₁.accepted operation submission rfl hvalue
      exact ⟨congrArg (fun validation => [validation]) (h₁.validation operation rfl),
        hsubmission, hunwound, hsent⟩
  | error payload =>
      refine Ensures.pure ⟨h₁.trace, h₁.device, h₁.sound, nofun, fun error hvalue => ?_⟩
      cases hvalue
      exact ⟨_, rfl⟩

theorem append_entry (entries : List PendingWork) (entry : PendingWork) :
    ((entries ++ [entry] : List PendingWork) : Multiset PendingWork) =
      entry ::ₘ (entries : Multiset PendingWork) := by
  rw [← Multiset.coe_add, Multiset.coe_singleton, add_comm, Multiset.singleton_add]

theorem retainFailed_spec (queue : WorkQueue) (error : WaitError) (rejection : WorkSubmitError)
    (books : Books w works ({ entry with failure := some error } ::ₘ queue.pending)) :
    Ensures (queue.retainFailed entry error rejection) w fun result w' =>
      Books w' works result.1.pending ∧ result.2 = .error rejection := by
  refine (PendingWork.recover_spec books).bind fun entry₁ w₁ h₁ => Ensures.pure ?_
  obtain ⟨-, books₁, -⟩ := h₁
  exact ⟨append_entry queue.pending entry₁ ▸ books₁, rfl⟩

/-- Whatever the submission does, the work has become an entry. -/
theorem submitOwned_spec (queue : WorkQueue) (observer : Submission)
    (books : Books w (work ::ₘ works) queue.pending) (h : NewSignal w observer.signal w') :
    Ensures (queue.submitOwned observer work) w' fun result w'' =>
      Books w'' works result.1.pending ∧ ∀ error, result.2 = .error error →
        error.returned = [] := by
  refine (submitFor_spec observer work.commands h.sound h.fresh).bind fun result w₁ h₁ => ?_
  obtain ⟨scope, result⟩ := result
  have later := h.later.submits h.unused h₁.device
  have trace := h₁.trace.trans h.trace
  have allocated : observer.signal < w₁.device.nextSignal :=
    h₁.device.nextSignal ▸ h.fresh.allocated
  have passed : ∀ command ∈ w₁.device.passed, command ∈ work.commands ∨
      command ∈ w.device.passed := fun command hcommand =>
    (h₁.device.passed command hcommand).imp_right (h.passed ▸ ·)
  -- an entry that failed, if for more than a dropped callback, need not own what it submitted
  have failed : ∀ submission : Submission, submission.signal = observer.signal →
      ∀ error : WaitError, error ≠ .dropped →
        Books w₁ works (⟨submission, work.leases, some error, none, false⟩ ::ₘ queue.pending) := by
    intro submission hsignal error hdropped
    refine books.retain trace later h₁.sound passed rfl rfl ⟨hsignal ▸ allocated, nofun, ?_⟩
    intro hfailure
    cases hfailure with
    | inl hnone => cases hnone
    | inr heq => exact absurd (Option.some.inj heq) hdropped
  cases result with
  | ok submission =>
      obtain ⟨rfl, rfl, hunwound, hsent⟩ := h₁.accepted submission rfl
      have recorded := books.recorded_later later work (Multiset.mem_cons_self _ _)
      have sound : PendingWork.Sound w₁.device (work.retained observer.signal) :=
        ⟨allocated, nofun, fun _ => recorded.owned hunwound hsent⟩
      have books₁ := books.retain trace later h₁.sound passed rfl rfl sound
      refine (Submission.validationStatus_spec _ w₁).bind fun status w₂ h₂ => ?_
      obtain ⟨watched, answers, -⟩ := h₂
      have books₂ := books₁.watches watched
      obtain ⟨accepted, rejected⟩ := answers _ rfl
      split
      · have owned₂ := (books₂.retained _ (Multiset.mem_cons_self _ _)).owned (.inl rfl)
        have hentry := owned₂.accepted rfl (accepted rfl) fun _ _ present => present
        refine (PendingWork.submitted_spec books₂ rfl hentry).bind fun entry w₃ h₃ => ?_
        obtain ⟨-, books₃, -⟩ := h₃
        exact Ensures.pure ⟨append_entry queue.pending entry ▸ books₃, nofun⟩
      · rename_i error
        obtain ⟨scope, -, hrejected⟩ := rejected error rfl
        obtain ⟨message, rfl⟩ := books₂.ledger.device.rejected hrejected
        have books₂' := (failed (work.retained observer.signal).completion rfl
          (.submitRejected message) nofun).watches watched
        refine (retainFailed_spec queue _ _ books₂').mono fun result w₃ h₃ => ⟨h₃.1, ?_⟩
        intro error herror
        cases h₃.2.symm.trans herror
        rfl
      · exact Ensures.pure ⟨append_entry queue.pending _ ▸ books₂, nofun⟩
  | error error =>
      obtain ⟨message, rfl⟩ := h₁.unwound error rfl
      have books₁ := failed ⟨observer.signal, some (.all (work.validation ++ scope))⟩ rfl
        (.submitPanicked message) nofun
      refine (retainFailed_spec queue _ _ books₁).mono fun result w₃ h₃ => ⟨h₃.1, ?_⟩
      intro error herror
      cases h₃.2.symm.trans herror
      rfl

/-- The work that a call of `try_submit` gives back. -/
def returnedWork : Except WorkSubmitError Submission → List RecordedWork
  | .ok _ => []
  | .error error => error.returned

theorem trySubmit_spec (queue : WorkQueue) (books : Books w (work ::ₘ works) queue.pending) :
    Ensures (queue.trySubmit work) w fun result w' =>
      Books w' ((returnedWork result.2 : Multiset RecordedWork) + works) result.1.pending := by
  have returned : ((([work] : List RecordedWork) : Multiset RecordedWork) + works) =
      work ::ₘ works := by
    rw [Multiset.coe_singleton, Multiset.singleton_add]
  simp only [trySubmit]
  split
  · exact Ensures.pure (returned ▸ books)
  · refine (collect_spec queue books).bind fun result w₁ books₁ => ?_
    obtain ⟨queue₁, collected⟩ := result
    cases collected with
    | error error => exact Ensures.pure (returned ▸ books₁)
    | ok completed =>
        simp only
        split
        · exact Ensures.pure (returned ▸ books₁)
        · split
          · exact Ensures.pure (returned ▸ books₁)
          · refine (Submission.pending_spec w₁ books₁.ledger.device).bind fun observer w₂ h₂ => ?_
            obtain ⟨-, hnew⟩ := h₂
            refine (Validation.poll_spec _ w₂).bind fun status w₃ h₃ => ?_
            have hnew₃ := hnew.watches h₃.1
            have books₃ := books₁.later hnew₃.trace hnew₃.later hnew₃.sound
              fun _ h => hnew₃.passed ▸ h
            have owned : Ensures (queue₁.submitOwned observer work) w₃ fun result w' =>
                Books w' ((returnedWork result.2 : Multiset RecordedWork) + works)
                  result.1.pending := by
              refine (submitOwned_spec queue₁ observer books₁ hnew₃).mono fun result w₄ h₄ => ?_
              obtain ⟨queue₄, submitted⟩ := result
              obtain ⟨books₄, hnone⟩ := h₄
              cases submitted with
              | ok submission => simpa [returnedWork] using books₄
              | error error => simpa [returnedWork, hnone error rfl] using books₄
            split
            · refine (RecordedWork.drop_spec books₃).bind fun _ w₄ h₄ => Ensures.pure ?_
              simpa [returnedWork, WorkSubmitError.returned] using h₄.1
            · exact owned
            · exact owned

end WorkQueue
end

end GpuInfo
