import GpuInfo.Wait.Ledger

/-!
Every function of the work queue keeps the books, whatever the schedule does
meanwhile: its hooks, the settling of one entry and of all, a submission, and the
loops that wait.
-/

namespace GpuInfo
open StateProgram Device

section
variable {w w' : World} {works : Multiset RecordedWork} {pending : Multiset PendingWork}
  {work : RecordedWork} {entry : PendingWork}

/-! Hooks -/

theorem Device.AcceptedEntry.observed {d d' : Device} {signal : SignalId} {leases : List Lease}
    (h : d.AcceptedEntry signal leases) (observed : d.Observed d') :
    d'.AcceptedEntry signal leases := by
  refine ⟨observed.outcome h.1, fun lease hlease hscope => observed.outcome (h.2 lease hlease ?_)⟩
  exact fun habsent => hscope ((observed.present _).mpr habsent)

theorem Device.Settled.observed {d d' : Device} {signal : SignalId} {leases : List Lease}
    {outcome : Outcome} (h : d.Settled signal leases outcome) (observed : d.Observed d') :
    d'.Settled signal leases outcome := by
  obtain ⟨hdone, hgood⟩ := h
  refine ⟨?_, fun hok => ?_⟩
  · cases hdone with
    | inl hretired =>
        refine .inl fun number hsent => ?_
        rw [observed.sent] at hsent
        exact (hretired number hsent).trans observed.retired
    | inr hlost =>
        obtain ⟨reason, hreason⟩ := Option.ne_none_iff_exists'.mp hlost
        exact .inr (by rw [observed.loss hreason]; nofun)
  · obtain ⟨haccepted, hunwound, ⟨number, hsent, hle⟩, hloss⟩ := hgood hok
    exact ⟨haccepted.observed observed, observed.unwound ▸ hunwound,
      ⟨number, observed.sent ▸ hsent, hle.trans observed.retired⟩, observed.polledLoss ▸ hloss⟩

theorem LateLook.mono {signal : SignalId} {trace trace' : Trace} (h : LateLook signal trace)
    (kept : trace ⊆ trace') : LateLook signal trace' := by
  obtain ⟨leases, status, d, hmem, hlate⟩ := h
  exact ⟨leases, status, d, kept hmem, hlate⟩

/-- The world after a function that may submit and run hooks. -/
structure Proceeds (w w' : World) : Prop where
  later : w.device.Later w'.device
  kept : w.trace ⊆ w'.trace
  polledLoss : w'.device.polledLoss = w.device.polledLoss

theorem Proceeds.refl (w : World) : Proceeds w w := ⟨.refl _, List.Subset.refl _, rfl⟩

theorem Proceeds.trans {w'' : World} (h : Proceeds w w') (h' : Proceeds w' w'') :
    Proceeds w w'' :=
  ⟨h.later.trans h'.later, List.Subset.trans h.kept h'.kept, h'.polledLoss.trans h.polledLoss⟩

theorem Watches.proceeds (h : Watches w w') : Proceeds w w' :=
  ⟨h.device.later, h.trace ▸ List.Subset.refl _, h.device.polledLoss⟩

theorem pendingLeases_cons (entry : PendingWork) (pending : Multiset PendingWork) :
    pendingLeases (entry ::ₘ pending) = (entry.leases : Multiset Lease) + pendingLeases pending :=
  Multiset.cons_bind _ _ _

theorem workLeases_cons (work : RecordedWork) (works : Multiset RecordedWork) :
    workLeases (work ::ₘ works) = (work.leases : Multiset Lease) + workLeases works :=
  Multiset.cons_bind _ _ _

theorem held_cons_entry (works : Multiset RecordedWork) (entry : PendingWork)
    (pending : Multiset PendingWork) :
    workLeases works + pendingLeases (entry ::ₘ pending) =
      (entry.leases : Multiset Lease) + (workLeases works + pendingLeases pending) := by
  rw [pendingLeases_cons]
  ac_rfl

theorem held_cons_work (work : RecordedWork) (works : Multiset RecordedWork)
    (pending : Multiset PendingWork) :
    workLeases (work ::ₘ works) + pendingLeases pending =
      (work.leases : Multiset Lease) + (workLeases works + pendingLeases pending) := by
  rw [workLeases_cons, add_assoc]

/-- A lease held elsewhere is none of an entry's. -/
theorem Books.not_of_entry (books : Books w works (entry ::ₘ pending)) {lease : Lease}
    (h : lease ∈ workLeases works + pendingLeases pending) : lease ∉ entry.leases := by
  have hnodup := books.ledger.held_nodup
  rw [held_cons_entry] at hnodup
  exact fun hlease => Multiset.disjoint_left.mp (Multiset.nodup_add.mp hnodup).2.2
    (Multiset.mem_coe.mpr hlease) h

theorem Books.entry_nodup (books : Books w works (entry ::ₘ pending)) : entry.leases.Nodup := by
  have hnodup := books.ledger.held_nodup
  rw [held_cons_entry] at hnodup
  exact Multiset.coe_nodup.mp (Multiset.nodup_add.mp hnodup).1

theorem PendingWork.Owned.of_eq {d : Device} {entry' : PendingWork} (h : entry.Owned d)
    (completion : entry'.completion = entry.completion) (leases : entry'.leases = entry.leases) :
    entry'.Owned d := by
  obtain ⟨hunwound, hsent, hvalidation⟩ := h
  exact ⟨by rwa [completion], by rwa [completion], by rwa [completion, leases]⟩

/-- While the hooks of `entry` run: the leases to come are still uncommitted. -/
structure Committing (held : Multiset Lease) (entry : PendingWork) (remaining : List Lease)
    (w : World) : Prop where
  ledger : Ledger w held
  accepted : w.device.AcceptedEntry entry.completion.signal entry.leases
  distinct : remaining.Nodup
  members : ∀ lease ∈ remaining, lease ∈ entry.leases
  owned : ∀ lease ∈ remaining, lease ∈ held
  new : ∀ lease ∈ remaining, lease ∉ leasesOf Event.commits w.trace

theorem Committing.step {held : Multiset Lease} {lease : Lease} {leases : List Lease}
    (h : Committing held entry (lease :: leases) w) (watched : Watches w w') :
    Committing held entry leases { w' with trace :=
      (.submitted entry.completion.signal entry.leases lease, w'.device) :: w'.trace } := by
  have ledger := h.ledger.watches watched
  have accepted := h.accepted.observed watched.device
  have fresh : lease ∉ leasesOf Event.commits w'.trace :=
    watched.trace ▸ h.new lease List.mem_cons_self
  obtain ⟨hnotin, hrest⟩ := List.nodup_cons.mp h.distinct
  have owned := h.owned lease List.mem_cons_self
  refine ⟨ledger.noted rfl rfl (fun lease' heq => Option.some.inj heq ▸ owned)
      ⟨h.members lease List.mem_cons_self, accepted, ledger.not_settled owned, fresh⟩,
    accepted, hrest, fun lease' h' => h.members lease' (List.mem_cons_of_mem _ h'),
    fun lease' h' => h.owned lease' (List.mem_cons_of_mem _ h'), fun lease' h' => ?_⟩
  have hold := h.new lease' (List.mem_cons_of_mem _ h')
  have hne : lease' ≠ lease := fun heq => hnotin (heq ▸ h')
  simpa [leasesOf_cons, Event.commits, hne, watched.trace] using hold

theorem Books.recorded_later (books : Books w works pending)
    (later : w.device.Later w'.device) : ∀ work ∈ works, work.Sound w'.device :=
  fun work hwork => (books.recorded work hwork).later later fun _ h =>
    books.ledger.held_known (held_of_work hwork h)

theorem Books.retained_later (books : Books w works pending)
    (later : w.device.Later w'.device) : ∀ entry ∈ pending, entry.Sound w'.device :=
  fun entry hentry => (books.retained entry hentry).later later fun _ h =>
    books.ledger.held_known (held_of_entry hentry h)

/-- An entry whose scopes have accepted it commits its leases, each for the first time. -/
theorem PendingWork.submitted_spec (books : Books w works (entry ::ₘ pending))
    (uncommitted : entry.committed = false)
    (accepted : w.device.AcceptedEntry entry.completion.signal entry.leases) :
    Ensures entry.submitted w fun entry' w' =>
      entry' = { entry with committed := true } ∧ Books w' works (entry' ::ₘ pending) ∧
        Proceeds w w' ∧ w.device.Observed w'.device := by
  have hentry := Multiset.mem_cons_self entry pending
  have start : Committing (workLeases works + pendingLeases (entry ::ₘ pending)) entry
      entry.leases w := by
    refine ⟨books.ledger, accepted, books.entry_nodup, fun _ h => h,
      fun lease => held_of_entry hentry, fun lease h => ?_⟩
    rw [books.committed entry hentry lease h, uncommitted]
    nofun
  refine (runHooks_spec _ (fun _ _ _ _ h => h.step) _ w start).bind fun _ w' h => Ensures.pure ?_
  obtain ⟨hend, observed, kept, hpick⟩ := h
  have hcommits : leasesOf Event.commits w'.trace =
      (entry.leases : Multiset Lease) + leasesOf Event.commits w.trace := by
    simpa [Event.commits] using hpick Event.commits
  have hcompletes : leasesOf Event.completes w'.trace = leasesOf Event.completes w.trace := by
    simpa [Event.completes] using hpick Event.completes
  have others : ∀ lease ∈ workLeases works + pendingLeases pending,
      lease ∈ leasesOf Event.commits w'.trace ↔ lease ∈ leasesOf Event.commits w.trace := by
    intro lease h
    simp [hcommits, books.not_of_entry h]
  have retained := books.retained_later observed.later
  refine ⟨rfl, ⟨?_, books.recorded_later observed.later, ?_, ?_, ?_, ?_⟩,
    ⟨observed.later, kept, observed.polledLoss⟩, observed⟩
  · simpa [pendingLeases_cons] using hend.ledger
  · intro other hother
    cases Multiset.mem_cons.mp hother with
    | inl heq =>
        subst heq
        have sound := retained entry hentry
        exact ⟨sound.allocated, sound.fence, fun h => (sound.owned h).of_eq rfl rfl⟩
    | inr hother => exact retained other (Multiset.mem_cons_of_mem hother)
  · intro work hwork lease h
    rw [others lease (held_of_work hwork h)]
    exact books.uncommitted work hwork lease h
  · intro other hother lease h
    cases Multiset.mem_cons.mp hother with
    | inl heq =>
        subst heq
        simpa [hcommits] using Or.inl h
    | inr hother =>
        rw [others lease (held_of_entry hother h)]
        exact books.committed other (Multiset.mem_cons_of_mem hother) lease h
  · intro command h
    rw [observed.passed] at h
    simpa [pendingLeases_cons, hcompletes] using books.passed command h

/-- While the terminal hooks of `entry` run: the leases to come are still held. -/
structure Completing (rest : Multiset Lease) (entry : PendingWork) (outcome : Outcome)
    (remaining : List Lease) (w : World) : Prop where
  ledger : Ledger w ((remaining : Multiset Lease) + rest)
  settled : w.device.Settled entry.completion.signal entry.leases outcome
  members : ∀ lease ∈ remaining, lease ∈ entry.leases
  committed : outcome = .ok () → ∀ lease ∈ remaining,
    lease ∈ leasesOf Event.commits w.trace ∨ LateLook entry.completion.signal w.trace

theorem Completing.step {rest : Multiset Lease} {outcome : Outcome} {lease : Lease}
    {leases : List Lease} (h : Completing rest entry outcome (lease :: leases) w)
    (watched : Watches w w') :
    Completing rest entry outcome leases { w' with trace :=
      (.completed entry.completion.signal entry.leases lease outcome, w'.device) ::
        w'.trace } := by
  have ledger := h.ledger.watches watched
  have settled := h.settled.observed watched.device
  rw [← Multiset.cons_coe, Multiset.cons_add] at ledger
  refine ⟨ledger.settled rfl rfl rfl ⟨h.members lease List.mem_cons_self, ?_, settled,
      fun hok => ?_⟩, settled, fun lease' h' => h.members lease' (List.mem_cons_of_mem _ h'),
    fun hok lease' h' => ?_⟩
  · exact ledger.not_settled (Multiset.mem_cons_self _ _)
  · rw [watched.trace]
    exact h.committed hok lease List.mem_cons_self
  · have hkept := h.committed hok lease' (List.mem_cons_of_mem _ h')
    rw [← watched.trace] at hkept
    refine hkept.imp (fun hcommit => ?_) fun hlook => hlook.mono (List.subset_cons_self _ _)
    simpa [leasesOf_cons, Event.commits] using hcommit

/-- An entry that may be settled leaves the books with one terminal hook for each lease. -/
theorem PendingWork.finish_spec (books : Books w works (entry ::ₘ pending)) {outcome : Outcome}
    (settled : w.device.Settled entry.completion.signal entry.leases outcome)
    (committed : outcome = .ok () →
      entry.committed = true ∨ LateLook entry.completion.signal w.trace) :
    Ensures (entry.finish outcome) w fun _ w' =>
      Books w' works pending ∧ Proceeds w w' ∧ w.device.Observed w'.device := by
  have hentry := Multiset.mem_cons_self entry pending
  have start : Completing (workLeases works + pendingLeases pending) entry outcome
      entry.leases w := by
    refine ⟨held_cons_entry works entry pending ▸ books.ledger, settled, fun _ h => h,
      fun hok lease h => ?_⟩
    exact (committed hok).imp_left (books.committed entry hentry lease h).mpr
  refine (runHooks_spec _ (fun _ _ _ _ h => h.step) _ w start).mono fun _ w' h => ?_
  obtain ⟨hend, observed, kept, hpick⟩ := h
  have hcommits : leasesOf Event.commits w'.trace = leasesOf Event.commits w.trace := by
    simpa [Event.commits] using hpick Event.commits
  have hcompletes : leasesOf Event.completes w'.trace =
      (entry.leases : Multiset Lease) + leasesOf Event.completes w.trace := by
    simpa [Event.completes] using hpick Event.completes
  have retained := books.retained_later observed.later
  refine ⟨⟨?_, books.recorded_later observed.later,
    fun other hother => retained other (Multiset.mem_cons_of_mem hother), ?_, ?_, ?_⟩,
    ⟨observed.later, kept, observed.polledLoss⟩, observed⟩
  · simpa using hend.ledger
  · rw [hcommits]
    exact books.uncommitted
  · rw [hcommits]
    exact fun other hother => books.committed other (Multiset.mem_cons_of_mem hother)
  · intro command h
    rw [observed.passed] at h
    have hpassed := books.passed command h
    rw [pendingLeases_cons] at hpassed
    simp only [Multiset.mem_add, Multiset.mem_coe, hcompletes] at hpassed ⊢
    tauto

/-- While a dropped work's hooks run: the leases to come are held and uncommitted. -/
structure Aborting (rest : Multiset Lease) (remaining : List Lease) (w : World) : Prop where
  ledger : Ledger w ((remaining : Multiset Lease) + rest)
  new : ∀ lease ∈ remaining, lease ∉ leasesOf Event.commits w.trace

theorem Aborting.step {rest : Multiset Lease} {lease : Lease} {leases : List Lease}
    (h : Aborting rest (lease :: leases) w) (watched : Watches w w') :
    Aborting rest leases { w' with trace := (.aborted lease, w'.device) :: w'.trace } := by
  have ledger := h.ledger.watches watched
  rw [← Multiset.cons_coe, Multiset.cons_add] at ledger
  refine ⟨ledger.settled rfl rfl rfl ⟨ledger.not_settled (Multiset.mem_cons_self _ _), ?_⟩,
    fun lease' h' => ?_⟩
  · exact watched.trace ▸ h.new lease List.mem_cons_self
  · have hold := h.new lease' (List.mem_cons_of_mem _ h')
    simpa [leasesOf_cons, Event.commits, watched.trace] using hold

/-- A work that is dropped leaves the books with its leases aborted. -/
theorem RecordedWork.drop_spec (books : Books w (work ::ₘ works) pending) :
    Ensures work.drop w fun _ w' =>
      Books w' works pending ∧ Proceeds w w' ∧ w.device.Observed w'.device := by
  have hwork := Multiset.mem_cons_self work works
  have start : Aborting (workLeases works + pendingLeases pending) work.leases w :=
    ⟨held_cons_work work works pending ▸ books.ledger, books.uncommitted work hwork⟩
  refine (runHooks_spec _ (fun _ _ _ _ h => h.step) _ w start).mono fun _ w' h => ?_
  obtain ⟨hend, observed, kept, hpick⟩ := h
  have hcommits : leasesOf Event.commits w'.trace = leasesOf Event.commits w.trace := by
    simpa [Event.commits] using hpick Event.commits
  have hcompletes : leasesOf Event.completes w'.trace = leasesOf Event.completes w.trace := by
    simpa [Event.completes] using hpick Event.completes
  have recorded := books.recorded_later observed.later
  refine ⟨⟨?_, fun other hother => recorded other (Multiset.mem_cons_of_mem hother),
    books.retained_later observed.later, ?_, ?_, ?_⟩,
    ⟨observed.later, kept, observed.polledLoss⟩, observed⟩
  · simpa using hend.ledger
  · rw [hcommits]
    exact fun other hother => books.uncommitted other (Multiset.mem_cons_of_mem hother)
  · rw [hcommits]
    exact books.committed
  · rw [observed.passed, hcompletes]
    exact books.passed

end

end GpuInfo
