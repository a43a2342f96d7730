import GpuInfo.Wait.QueueBooks

/-!
One iteration of `collect`: what it learns of an entry, and that it settles only an
entry that may be settled. Retirement is learnt from the entry's callback, from an
empty queue or from a later fence; failure from a rejected scope, a submission that
unwound or a dropped callback.
-/

namespace GpuInfo
open StateProgram Device

section
variable {w w' : World} {works : Multiset RecordedWork} {pending : Multiset PendingWork}
  {entry : PendingWork}

theorem Books.replaced (books : Books w works (entry ::ₘ pending)) {entry' : PendingWork}
    (leases : entry'.leases = entry.leases) (committed : entry'.committed = entry.committed)
    (sound : entry'.Sound w.device) : Books w works (entry' ::ₘ pending) where
  ledger := by
    have hledger := books.ledger
    rwa [pendingLeases_cons, ← leases, ← pendingLeases_cons] at hledger
  recorded := books.recorded
  retained other hother := by
    cases Multiset.mem_cons.mp hother with
    | inl heq => exact heq ▸ sound
    | inr hother => exact books.retained other (Multiset.mem_cons_of_mem hother)
  uncommitted := books.uncommitted
  committed other hother := by
    cases Multiset.mem_cons.mp hother with
    | inl heq =>
        subst heq
        rw [leases, committed]
        exact books.committed entry (Multiset.mem_cons_self _ _)
    | inr hother => exact books.committed other (Multiset.mem_cons_of_mem hother)
  passed := by
    have hpassed := books.passed
    rwa [pendingLeases_cons, ← leases, ← pendingLeases_cons] at hpassed

/-- A fence submitted from `d` on waits for what had been submitted for the entry. -/
theorem PendingWork.Sound.fenced {d d' : Device} (h : entry.Sound d') (fence : Submission)
    (hd : d.Sound) (fresh : d.Fresh fence.signal) (submits : d.Submits fence.signal [] d')
    (distinct : entry.completion.signal ≠ fence.signal) :
    PendingWork.Sound d' { entry with recovery := some fence } where
  allocated := h.allocated
  fence recovery hrecovery := by
    cases hrecovery
    refine ⟨submits.nextSignal ▸ fresh.allocated, fun awaited number hawaited hsent => ?_⟩
    have hsent' : d.sent entry.completion.signal = some number :=
      (submits.others distinct).1 ▸ hsent
    cases submits.awaited hawaited with
    | inl hold =>
        rw [fresh.callbacks] at hold
        cases hold
    | inr hle => exact (hd.sent_le hsent').trans hle
  owned hclean := (h.owned hclean).of_eq rfl rfl

/-- Recovery gives the entry a fence, whether it is accepted, rejected or unwinds. -/
theorem PendingWork.recover_spec (books : Books w works (entry ::ₘ pending)) :
    Ensures entry.recover w fun entry' w' =>
      (∃ recovery, entry' = { entry with recovery }) ∧ Books w' works (entry' ::ₘ pending) ∧
        Proceeds w w' := by
  have hentry := Multiset.mem_cons_self entry pending
  have old := (books.retained entry hentry).allocated
  refine (newSignal_spec w books.ledger.device).bind fun fence w₁ h₁ => ?_
  refine (submitChecked_spec [] h₁.sound h₁.fresh).bind fun result w₂ h₂ => ?_
  have later := h₁.later.submits h₁.unused h₂.device
  have trace := h₂.trace.trans h₁.trace
  have passed : ∀ command ∈ w₂.device.passed, command ∈ w.device.passed := by
    intro command hcommand
    cases h₂.device.passed command hcommand with
    | inl h => cases h
    | inr h => exact h₁.passed ▸ h
  have books₂ := books.later trace later h₂.sound passed
  have proceeds : Proceeds w w₂ :=
    ⟨later, trace ▸ List.Subset.refl _, h₂.device.polledLoss.trans h₁.polledLoss⟩
  split
  · exact Ensures.pure ⟨⟨entry.recovery, rfl⟩, books₂, proceeds⟩
  · rename_i submission validation
    obtain ⟨rfl, -⟩ := h₂.accepted _ submission rfl rfl
    have distinct := Nat.ne_of_lt (old.trans_le h₁.unused)
    have sound := (books₂.retained entry hentry).fenced ⟨fence, some validation⟩ h₁.sound
      h₁.fresh h₂.device distinct
    exact Ensures.pure ⟨⟨_, rfl⟩, books₂.replaced rfl rfl sound, proceeds⟩
  · rename_i error validation
    refine (Submission.pending_spec w₂ h₂.sound).bind fun observer w₃ h₃ => Ensures.pure ?_
    obtain ⟨-, h₃⟩ := h₃
    have books₃ := books₂.later h₃.trace h₃.later h₃.sound fun _ h => h₃.passed ▸ h
    have hallocated := (books₂.retained entry hentry).allocated
    have distinct := Nat.ne_of_lt (hallocated.trans_le h₃.unused)
    have sound := (books₃.retained entry hentry).fenced ⟨observer.signal, some validation⟩
      h₃.sound h₃.fresh (Observed.refl _).submits distinct
    exact ⟨⟨_, rfl⟩, books₃.replaced rfl rfl sound, proceeds.trans
      ⟨h₃.later, h₃.trace ▸ List.Subset.refl _, h₃.polledLoss⟩⟩

/-- What is submitted for an entry has retired. -/
def PendingWork.Retired (d : Device) (entry : PendingWork) : Prop :=
  ∀ number, d.sent entry.completion.signal = some number → number ≤ d.retired

theorem PendingWork.Retired.later {d d' : Device} (h : entry.Retired d) (later : d.Later d')
    (old : entry.completion.signal < d.nextSignal) : entry.Retired d' := by
  intro number hsent
  rw [(later.old old).1] at hsent
  exact (h number hsent).trans later.retired

theorem scopesSettled_spec (validation : Option Validation) (w : World) :
    Ensures (scopesSettled validation) w fun _ w' => Watches w w' := by
  cases validation with
  | none => exact Ensures.pure (.refl w)
  | some validation =>
      exact (validation.poll_spec w).bind fun _ _ polled => Ensures.pure polled.1

theorem PendingWork.validationsSettled_spec (entry : PendingWork) (w : World) :
    Ensures entry.validationsSettled w fun _ w' => Watches w w' := by
  refine (scopesSettled_spec entry.completion.validation w).bind fun _ w₁ watched => ?_
  refine (scopesSettled_spec _ w₁).bind fun _ w₂ watched₂ => ?_
  exact Ensures.pure (watched.trans watched₂)

/-- An empty queue, or a fence whose callback ran, proves retirement. -/
theorem PendingWork.retired_spec (sound : entry.Sound w.device) (hw : w.device.Sound)
    {queueEmpty : Bool} (quiet : queueEmpty = true → entry.Retired w.device) :
    Ensures (entry.retired queueEmpty) w fun retired w' =>
      Watches w w' ∧ (retired = true → entry.Retired w'.device) := by
  refine (entry.validationsSettled_spec w).bind fun settled w₁ watched => ?_
  split
  · exact Ensures.pure ⟨watched, nofun⟩
  · split
    · rename_i hempty
      exact Ensures.pure ⟨watched, fun _ => (quiet hempty).later watched.device.later
        sound.allocated⟩
    · split
      · rename_i recovery hrecovery
        have hw₁ := watched.device.sound hw
        refine (recovery.status_spec w₁).bind fun status w₂ h₂ => ?_
        obtain ⟨watched₂, hstatus⟩ := h₂
        have observed := (watched.trans watched₂).device
        split
        · refine Ensures.pure ⟨watched.trans watched₂, fun _ number hsent => ?_⟩
          obtain ⟨awaited, hawaited, hle⟩ := (watched₂.device.sound hw₁).completed (hstatus rfl).2
          rw [observed.sent] at hsent
          rw [observed.callbacks] at hawaited
          exact ((sound.fence recovery hrecovery).2 awaited number hawaited hsent).trans hle
        · exact Ensures.pure ⟨watched.trans watched₂, nofun⟩
        · exact Ensures.pure ⟨watched.trans watched₂, nofun⟩
      · exact Ensures.pure ⟨watched, nofun⟩

/-- A dropped callback is forgiven only once retirement is proved and the scopes accepted. -/
theorem PendingWork.recovered_spec (entry : PendingWork) (retired : Bool) (w : World) :
    Ensures (entry.recovered retired) w fun recovered w' =>
      Watches w w' ∧ (recovered = true → retired = true ∧ entry.failure = some .dropped ∧
        ∃ validation, entry.completion.validation = some validation ∧
          w'.device.Accepted validation.scopes) := by
  simp only [PendingWork.recovered]
  split
  · rename_i validation hfailure hvalidation
    refine (lossReason_spec w).bind fun loss w₁ h₁ => ?_
    split
    · exact Ensures.pure ⟨h₁.1, nofun⟩
    · refine (validation.poll_spec w₁).bind fun answer w₂ polled => ?_
      split
      · exact Ensures.pure ⟨h₁.1.trans polled.1,
          fun _ => ⟨rfl, hfailure, validation, hvalidation, polled.2.1 rfl⟩⟩
      · exact Ensures.pure ⟨h₁.1.trans polled.1, nofun⟩
      · exact Ensures.pure ⟨h₁.1.trans polled.1, nofun⟩
  · exact (lossReason_spec w).bind fun _ _ h₁ => Ensures.pure ⟨h₁.1, nofun⟩
  · exact Ensures.pure ⟨.refl w, nofun⟩

theorem PendingWork.Owned.accepted {d d' : Device} (h : entry.Owned d)
    {validation : Validation} (hvalidation : entry.completion.validation = some validation)
    (accepted : d'.Accepted validation.scopes)
    (present : ∀ lease ∈ entry.leases, d'.scopes (.recording lease) ≠ none →
      d.scopes (.recording lease) ≠ none) :
    d'.AcceptedEntry entry.completion.signal entry.leases := by
  obtain ⟨validation', hvalidation', hsubmission, hrecordings⟩ := h.validation
  obtain rfl := Option.some.inj (hvalidation.symm.trans hvalidation')
  exact ⟨accepted _ hsubmission, fun lease hlease hscope =>
    accepted _ (hrecordings lease hlease (present lease hlease hscope))⟩

/-- An entry is reported good only on these grounds. -/
theorem PendingWork.Owned.settled {d : Device} (h : entry.Owned d)
    (accepted : d.AcceptedEntry entry.completion.signal entry.leases) (retired : entry.Retired d)
    (polledLoss : d.polledLoss = none) (outcome : Outcome) :
    d.Settled entry.completion.signal entry.leases outcome := by
  obtain ⟨number, hsent⟩ := h.sent
  exact ⟨.inl retired, fun _ => ⟨accepted, h.unwound, ⟨number, hsent, retired number hsent⟩,
    polledLoss⟩⟩

/-- The first commit: exactly when the scopes are seen to accept an entry that has
neither committed nor failed. -/
theorem PendingWork.commit_spec (books : Books w works (entry ::ₘ pending))
    {validation : Option Outcome}
    (accepted : entry.failure = none → validation = some (.ok ()) →
      w.device.AcceptedEntry entry.completion.signal entry.leases) :
    Ensures (entry.commit validation) w fun entry' w' =>
      Books w' works (entry' ::ₘ pending) ∧ Proceeds w w' ∧
        (entry'.committed = false →
          entry.committed = false ∧ (entry.failure = none → validation ≠ some (.ok ()))) ∧
        ∃ committed, entry' = { entry with committed } := by
  simp only [PendingWork.commit]
  split
  · rename_i huncommitted hfailure
    refine (entry.submitted_spec books huncommitted (accepted hfailure rfl)).mono ?_
    intro entry' w' h
    obtain ⟨rfl, books', proceeds, -⟩ := h
    exact ⟨books', proceeds, nofun, ⟨true, rfl⟩⟩
  · rename_i hother
    refine Ensures.pure ⟨books, .refl w, fun huncommitted => ⟨huncommitted, ?_⟩,
      ⟨entry.committed, rfl⟩⟩
    exact fun hfailure hvalidation => hother huncommitted hfailure hvalidation

theorem PendingWork.noteFailure_spec (books : Books w works (entry ::ₘ pending))
    (queueEmpty : Bool) (status : Option Outcome) :
    Ensures (entry.noteFailure queueEmpty status) w fun entry' w' =>
      Books w' works (entry' ::ₘ pending) ∧ Proceeds w w' ∧
        (entry'.failure = none → entry.failure = none ∧
          ∀ error, status ≠ some (.error error)) ∧
        ∃ failure recovery, entry' = { entry with failure, recovery } := by
  simp only [PendingWork.noteFailure]
  split
  · rename_i error hfailure
    have sound := books.retained entry (Multiset.mem_cons_self _ _)
    have failed : Books w works ({ entry with failure := some error } ::ₘ pending) :=
      books.replaced rfl rfl
        ⟨sound.allocated, sound.fence, fun _ => (sound.owned (.inl hfailure)).of_eq rfl rfl⟩
    split
    · exact Ensures.pure ⟨failed, .refl w, nofun, ⟨some error, entry.recovery, rfl⟩⟩
    · refine (PendingWork.recover_spec failed).mono fun entry' w' h => ?_
      obtain ⟨⟨recovery, rfl⟩, books', proceeds⟩ := h
      exact ⟨books', proceeds, nofun, ⟨some error, recovery, rfl⟩⟩
  · rename_i hother
    refine Ensures.pure ⟨books, .refl w, fun hfailure => ⟨hfailure, ?_⟩,
      ⟨entry.failure, entry.recovery, rfl⟩⟩
    exact fun error hstatus => hother error hfailure hstatus

theorem PendingWork.commitRecovered_spec (books : Books w works (entry ::ₘ pending))
    {recovered : Bool}
    (accepted : recovered = true →
      w.device.AcceptedEntry entry.completion.signal entry.leases) :
    Ensures (entry.commitRecovered recovered) w fun entry' w' =>
      Books w' works (entry' ::ₘ pending) ∧ Proceeds w w' ∧ w.device.Observed w'.device ∧
        (recovered = true → entry'.committed = true) ∧
        (entry.committed = true → entry'.committed = true) ∧
        ∃ committed, entry' = { entry with committed } := by
  simp only [PendingWork.commitRecovered]
  split
  · rename_i h
    simp only [Bool.and_eq_true, Bool.not_eq_true'] at h
    refine (entry.submitted_spec books h.2 (accepted h.1)).mono fun entry' w' h' => ?_
    obtain ⟨rfl, books', proceeds, observed⟩ := h'
    exact ⟨books', proceeds, observed, fun _ => rfl, fun _ => rfl, ⟨true, rfl⟩⟩
  · rename_i h
    refine Ensures.pure ⟨books, .refl w, .refl _, fun hrecovered => ?_, id,
      ⟨entry.committed, rfl⟩⟩
    simpa [hrecovered] using h

theorem Device.AcceptedEntry.later {d d' : Device} {signal : SignalId} {leases : List Lease}
    (h : d.AcceptedEntry signal leases) (later : d.Later d')
    (known : ∀ lease ∈ leases, lease < d.nextLease) : d'.AcceptedEntry signal leases := by
  refine ⟨later.outcome h.1, fun lease hlease hscope => later.outcome (h.2 lease hlease ?_)⟩
  exact fun habsent => hscope (later.recording (known lease hlease) habsent)

theorem Books.looked (books : Books w works pending) (signal : SignalId) (leases : List Lease)
    (due : Bool) (validation status : Option Outcome) :
    Books { w with trace := (.looked signal leases due validation status, w.device) :: w.trace }
      works pending where
  ledger := books.ledger.noted rfl rfl nofun trivial
  recorded := books.recorded
  retained := books.retained
  uncommitted := by simpa [leasesOf_cons, Event.commits] using books.uncommitted
  committed := by simpa [leasesOf_cons, Event.commits] using books.committed
  passed := by simpa [leasesOf_cons, Event.completes] using books.passed

/-- A status that is good is good on the grounds the entry is settled on. -/
theorem PendingWork.status_ok (books : Books w works (entry ::ₘ pending))
    (failure : entry.failure = none)
    (accepted : ∀ validation, entry.completion.validation = some validation →
      w.device.Accepted validation.scopes)
    (called : w.device.signals entry.completion.signal = some (.ok ())) :
    w.device.AcceptedEntry entry.completion.signal entry.leases ∧ entry.Retired w.device := by
  have owned := (books.retained entry (Multiset.mem_cons_self _ _)).owned (.inl failure)
  obtain ⟨validation, hvalidation, -⟩ := owned.validation
  refine ⟨owned.accepted hvalidation (accepted validation hvalidation) fun _ _ h => h, ?_⟩
  intro number hsent
  obtain ⟨awaited, hawaited, hle⟩ := books.ledger.device.completed called
  obtain ⟨-, number', hsent', hnumber⟩ := books.ledger.device.callback hawaited
  obtain rfl := Option.some.inj (hsent.symm.trans hsent')
  exact hnumber.trans hle

/-- Scopes that were read as rejecting an entry are not read as accepting it later. -/
theorem Device.Rejected.not_accepted {d d' : Device} {scopes : List ScopeId}
    {error : WaitError} (h : d.Rejected scopes error) (later : d.Later d') :
    ¬ d'.Accepted scopes := by
  obtain ⟨scope, hscope, houtcome⟩ := h
  intro accepted
  have hboth := (later.outcome houtcome).symm.trans (accepted scope hscope)
  cases hboth

/-- An entry whose status is good and that has not committed was due when its scopes were
read, and they had not settled. -/
theorem PendingWork.late_of_uncommitted {validation : Option Outcome} {committed : Bool}
    (uncommitted : committed = false →
      entry.committed = false ∧ (entry.failure = none → validation ≠ some (.ok ())))
    (failure : entry.failure = none) (unrejected : ∀ error, validation ≠ some (.error error)) :
    committed = true ∨
      (!entry.committed && entry.failure.isNone) = true ∧ validation = none := by
  cases committed with
  | true => exact .inl rfl
  | false =>
      obtain ⟨hcommitted, haccepted⟩ := uncommitted rfl
      refine .inr ⟨by simp [hcommitted, failure], ?_⟩
      match validation with
      | none => rfl
      | some (.ok ()) => exact absurd rfl (haccepted failure)
      | some (.error error) => exact absurd rfl (unrejected error)

/-- The outcome of an entry, from what one collect has learnt of it. -/
theorem PendingWork.outcome_spec {d : Device} {trace : Trace} {retired recovered : Bool}
    {status : Option Outcome} (sound : entry.Sound d) (polledLoss : d.polledLoss = none)
    (good : entry.failure = none → ∀ outcome, status = some outcome → outcome = .ok () ∧
      d.AcceptedEntry entry.completion.signal entry.leases ∧ entry.Retired d ∧
      (entry.committed = true ∨ LateLook entry.completion.signal trace))
    (hretired : retired = true → entry.Retired d)
    (hrecovered : recovered = true → retired = true ∧ entry.failure = some .dropped ∧
      d.AcceptedEntry entry.completion.signal entry.leases ∧ entry.committed = true)
    (outcome : Outcome) (h : entry.outcome retired recovered status = some outcome) :
    d.Settled entry.completion.signal entry.leases outcome ∧
      (outcome = .ok () → entry.committed = true ∨ LateLook entry.completion.signal trace) := by
  cases hfailure : entry.failure with
  | none =>
      rw [PendingWork.outcome, hfailure] at h
      obtain ⟨-, haccepted, hdone, hcommitted⟩ := good hfailure outcome h
      exact ⟨(sound.owned (.inl hfailure)).settled haccepted hdone polledLoss outcome,
        fun _ => hcommitted⟩
  | some error =>
      simp only [PendingWork.outcome, hfailure] at h
      split at h
      · rename_i hyes
        obtain ⟨hdone, hdropped, haccepted, hcommitted⟩ := hrecovered hyes
        exact ⟨(sound.owned (.inr hdropped)).settled haccepted (hretired hdone) polledLoss
          outcome, fun _ => .inl hcommitted⟩
      · split at h
        · rename_i hdone
          cases h
          exact ⟨⟨.inl (hretired hdone), nofun⟩, nofun⟩
        · cases h

/-- One iteration settles an entry only if it may be settled. -/
theorem PendingWork.settle_spec (books : Books w works (entry ::ₘ pending)) {queueEmpty : Bool}
    (quiet : queueEmpty = true → entry.Retired w.device) (polledLoss : w.device.polledLoss = none) :
    Ensures (entry.settle queueEmpty) w fun result w' =>
      Books w' works (result.1 ::ₘ pending) ∧ Proceeds w w' ∧
        ∀ outcome, result.2 = some outcome →
          w'.device.Settled result.1.completion.signal result.1.leases outcome ∧
          (outcome = .ok () → result.1.committed = true ∨
            LateLook result.1.completion.signal w'.trace) := by
  have hentry := Multiset.mem_cons_self entry pending
  have old := (books.retained entry hentry).allocated
  -- the first read of the scopes
  refine (entry.completion.validationStatus_spec w).bind fun validation w₁ h₁ => ?_
  obtain ⟨watched₁, answers, absent⟩ := h₁
  have books₁ := books.watches watched₁
  have accepted₁ : entry.failure = none → validation = some (.ok ()) →
      w₁.device.AcceptedEntry entry.completion.signal entry.leases := by
    intro hfailure haccepted
    have owned := (books₁.retained entry hentry).owned (.inl hfailure)
    obtain ⟨scopes, hscopes, -⟩ := owned.validation
    exact owned.accepted hscopes ((answers scopes hscopes).1 haccepted) fun _ _ h => h
  refine (entry.commit_spec books₁ accepted₁).bind fun entry₁ w₂ h₂ => ?_
  obtain ⟨books₂, proceeds₂, huncommitted, committed, rfl⟩ := h₂
  -- the status, which reads the scopes again
  refine (Submission.status_spec _ w₂).bind fun status w₃ h₃ => ?_
  obtain ⟨watched₃, hstatus⟩ := h₃
  have books₃ := books₂.watches watched₃
  have proceeds₃ := (watched₁.proceeds.trans proceeds₂).trans watched₃.proceeds
  refine (note_spec _ w₃).bind fun _ w₄ hw₄ => ?_
  have books₄ : Books w₄ works ({ entry with committed } ::ₘ pending) := hw₄ ▸ books₃.looked ..
  have proceeds₄ : Proceeds w₃ w₄ := hw₄ ▸ ⟨.refl _, List.subset_cons_self _ _, rfl⟩
  have good : entry.failure = none → status = some (.ok ()) →
      w₃.device.AcceptedEntry entry.completion.signal entry.leases ∧ entry.Retired w₃.device ∧
        (committed = true ∨ LateLook entry.completion.signal w₄.trace) := by
    intro hfailure hok
    obtain ⟨haccepted, hcalled⟩ := hstatus hok
    obtain ⟨hentryAccepted, hdone⟩ := PendingWork.status_ok books₃ hfailure haccepted hcalled
    refine ⟨hentryAccepted, hdone, ?_⟩
    have unrejected : ∀ error, validation ≠ some (.error error) := by
      intro error herror
      cases hscopes : entry.completion.validation with
      | none => cases (absent hscopes).symm.trans herror
      | some scopes =>
          have later := (proceeds₂.trans watched₃.proceeds).later
          exact ((answers scopes hscopes).2 error herror).not_accepted later
            (haccepted scopes hscopes)
    refine (PendingWork.late_of_uncommitted huncommitted hfailure unrejected).imp_right ?_
    intro hlate
    obtain ⟨hdue, rfl⟩ := hlate
    rw [hw₄, hdue]
    exact ⟨entry.leases, status, w₃.device, List.mem_cons_self, hentryAccepted, hcalled⟩
  -- failure, retirement and recovery
  refine (PendingWork.noteFailure_spec books₄ queueEmpty status).bind fun entry₂ w₅ h₅ => ?_
  obtain ⟨books₅, proceeds₅, hunfailed, failure, recovery, rfl⟩ := h₅
  have proceeds := (proceeds₃.trans proceeds₄).trans proceeds₅
  have sound₅ := books₅.retained _ (Multiset.mem_cons_self _ _)
  have quiet₅ : queueEmpty = true →
      PendingWork.Retired w₅.device ⟨entry.completion, entry.leases, failure, recovery,
        committed⟩ := fun hempty => (quiet hempty).later proceeds.later old
  refine (PendingWork.retired_spec sound₅ books₅.ledger.device quiet₅).bind
    fun retired w₆ h₆ => ?_
  obtain ⟨watched₆, hretired⟩ := h₆
  refine (PendingWork.recovered_spec _ retired w₆).bind fun recovered w₇ h₇ => ?_
  obtain ⟨watched₇, hrecovered⟩ := h₇
  have books₇ := (books₅.watches watched₆).watches watched₇
  have sound₇ := books₇.retained _ (Multiset.mem_cons_self _ _)
  have accepted₇ : recovered = true →
      w₇.device.AcceptedEntry entry.completion.signal entry.leases := by
    intro hyes
    obtain ⟨-, hdropped, scopes, hscopes, haccepted⟩ := hrecovered hyes
    exact (sound₇.owned (.inr hdropped)).accepted hscopes haccepted fun _ _ h => h
  refine (PendingWork.commitRecovered_spec books₇ accepted₇).bind fun entry₃ w₈ h₈ => ?_
  obtain ⟨books₈, proceeds₈, observed₈, hcommits, hkept, committed', rfl⟩ := h₈
  have after₄ := ((proceeds₅.trans watched₆.proceeds).trans watched₇.proceeds).trans proceeds₈
  have after₃ := proceeds₄.trans after₄
  have whole := proceeds₃.trans after₃
  refine Ensures.pure ⟨books₈, whole, ?_⟩
  refine PendingWork.outcome_spec (books₈.retained _ (Multiset.mem_cons_self _ _))
    (whole.polledLoss.trans polledLoss) ?_ ?_ ?_
  · intro hfailure outcome houtcome
    obtain ⟨hclean, hnoerror⟩ := hunfailed hfailure
    have hok : status = some (.ok ()) := by
      cases outcome with
      | ok value => exact houtcome
      | error error => exact absurd houtcome (hnoerror error)
    obtain ⟨haccepted, hdone, hcommitted⟩ := good hclean hok
    have known : ∀ lease ∈ entry.leases, lease < w₃.device.nextLease := fun lease h =>
      books₃.ledger.held_known (held_of_entry (Multiset.mem_cons_self _ _) h)
    refine ⟨Option.some.inj (houtcome.symm.trans hok), haccepted.later after₃.later known, ?_,
      hcommitted.imp hkept fun hlate => hlate.mono after₄.kept⟩
    exact hdone.later after₃.later (old.trans_le proceeds₃.later.nextSignal)
  · intro hyes
    exact (hretired hyes).later (watched₇.proceeds.trans proceeds₈).later
      (sound₅.allocated.trans_le watched₆.device.later.nextSignal)
  · intro hyes
    obtain ⟨hdone, hdropped, -⟩ := hrecovered hyes
    exact ⟨hdone, hdropped, (accepted₇ hyes).observed observed₈, hcommits hyes⟩

end

end GpuInfo
