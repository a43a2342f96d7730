import GpuInfo.Wait.QueueRuns

/-!
What a lease can rely on in every run of a queue: it is settled once, after its work
has retired or the device is lost, and reported good only if everything it owns was
accepted. It is not always told of the commit first: a collect reads the scopes of an
entry twice, and they may settle in between.
-/

namespace GpuInfo
open StateProgram Device

section
variable {trace later past : Trace} {event : Event} {d : Device} {lease : Lease}

theorem History.proper (h : History trace) (split : trace = later ++ (event, d) :: past) :
    event.Proper d past := by
  induction later generalizing trace with
  | nil =>
      subst split
      exact h.1
  | cons entry later ih =>
      subst split
      exact ih h.2 rfl

theorem History.commits_nodup (h : History trace) : (leasesOf Event.commits trace).Nodup := by
  induction trace with
  | nil => exact Multiset.nodup_zero
  | cons entry trace ih =>
      obtain ⟨event, d⟩ := entry
      obtain ⟨proper, hpast⟩ := h
      rw [leasesOf_cons]
      cases event with
      | submitted signal leases lease =>
          rw [Event.commits, Multiset.singleton_add]
          exact Multiset.nodup_cons.mpr ⟨proper.2.2.2, ih hpast⟩
      | built _ | aborted _ | completed _ _ _ _ | looked _ _ _ _ _ =>
          simp only [Event.commits, zero_add]
          exact ih hpast

def Event.aborts : Event → Option Lease
  | .aborted lease => some lease
  | _ => none

/-- A terminal hook is one of two. -/
theorem settles_eq (trace : Trace) :
    leasesOf Event.settles trace =
      leasesOf Event.aborts trace + leasesOf Event.completes trace := by
  induction trace with
  | nil => rfl
  | cons entry trace ih =>
      obtain ⟨event, d⟩ := entry
      rw [leasesOf_cons, leasesOf_cons, leasesOf_cons, ih]
      cases event with
      | aborted lease => exact (add_assoc _ _ _).symm.trans (congrArg _ (zero_add _).symm)
      | completed signal leases lease outcome =>
          simp only [Event.settles, Event.aborts, Event.completes]
          rw [zero_add, add_left_comm]
      | built _ | submitted _ _ _ | looked _ _ _ _ _ =>
          simp [Event.settles, Event.aborts, Event.completes]

theorem mem_leasesOf {pick : Event → Option Lease} (h : (event, d) ∈ trace)
    (picked : pick event = some lease) : lease ∈ leasesOf pick trace :=
  Multiset.mem_coe.mpr (List.mem_filterMap.mpr ⟨(event, d), h, picked⟩)

/-- Only the events count. -/
theorem leasesOf_eq (pick : Event → Option Lease) (trace : Trace) :
    leasesOf pick trace = ((trace.map (·.1)).filterMap pick : List Lease) := by
  rw [leasesOf, List.filterMap_map]
  rfl

/-- A completion with success comes after the commit. -/
def CommittedBeforeSuccess (trace : Trace) : Prop :=
  ∀ later past signal leases lease d,
    trace = later ++ (.completed signal leases lease (.ok ()), d) :: past →
    lease ∈ leasesOf Event.commits past

end

/-- The accounts of all leases: each is held once or has been settled once, an aborted
one has no command on the device, and a commit is the first and comes after the scopes
have accepted its entry and before its end. -/
structure Client.LeasesAccounted (client : Client) (w : World) : Prop where
  conserved : workLeases client.works + pendingLeases client.queue.pending +
    leasesOf Event.settles w.trace = leasesOf Event.builds w.trace
  once : (leasesOf Event.builds w.trace).Nodup
  unsent : ∀ lease d, (Event.aborted lease, d) ∈ w.trace →
    ∀ command ∈ w.device.passed, command.lease ≠ lease
  committedOnce : (leasesOf Event.commits w.trace).Nodup
  committed : ∀ later past signal leases lease d,
    w.trace = later ++ (.submitted signal leases lease, d) :: past →
    lease ∈ leases ∧ d.AcceptedEntry signal leases ∧ lease ∉ leasesOf Event.settles past

/-- A lease whose hook `aborted` ran is neither held nor completed. -/
theorem Client.Books.unsent {client : Client} {w : World} (books : client.Books w) {lease : Lease}
    {d : Device} (haborted : (Event.aborted lease, d) ∈ w.trace) :
    ∀ command ∈ w.device.passed, command.lease ≠ lease := by
  intro command hcommand heq
  have hsettled : lease ∈ leasesOf Event.settles w.trace := mem_leasesOf haborted rfl
  cases books.passed command hcommand with
  | inl hheld =>
      have held : lease ∈ workLeases client.works + pendingLeases client.queue.pending :=
        Multiset.mem_add.mpr (.inr (heq ▸ hheld))
      exact books.ledger.not_settled held hsettled
  | inr hcompleted =>
      have distinct := books.ledger.distinct
      rw [← books.ledger.conserved, settles_eq] at distinct
      have apart := (Multiset.nodup_add.mp (Multiset.nodup_add.mp distinct).2.1).2.2
      exact Multiset.disjoint_left.mp apart (mem_leasesOf haborted rfl) (heq ▸ hcompleted)

section
variable (schedule : Nat → Moment) (lastInstant : Nat) (context : WorkContext) (capacity : Nat)
  (calls : List Call)

/-- In every run an entry is completed only when its work has retired or the device is
lost, and with success only if it was accepted, submitted and retired in full and no
loss was known when the poll of that collect returned. -/
theorem completed_only_when_settled {signal : SignalId} {leases : List Lease} {lease : Lease}
    {outcome : Outcome} {d : Device}
    (h : (Event.completed signal leases lease outcome, d) ∈
      (runQueue schedule lastInstant context capacity calls).2.trace) :
    lease ∈ leases ∧ d.Settled signal leases outcome := by
  obtain ⟨past, later, split⟩ := List.append_of_mem h
  have books := runQueue_books schedule lastInstant context capacity calls
  obtain ⟨hlease, -, hsettled, -⟩ := books.ledger.history.proper split
  exact ⟨hlease, hsettled⟩

/-- Everything submitted retires at once, and futures have their answer from the look
numbered `answered`. -/
def answering (answered look : Nat) : Moment :=
  ⟨[.retire, .runCallback 0], 0, if answered ≤ look then .ready none none none else .pending,
    .poll, .accepted, none⟩

/-- A work of one command is submitted and collected. -/
def oneSubmission : List Call := [.new 0 1, .trySubmit 0, .collect]

theorem completed_only_when_settled_one_submission :
    ∃ d, (Event.completed 0 [0] 0 (.ok ()), d) ∈
        (runQueue (answering 0) 0 0 1 oneSubmission).2.trace ∧
      0 ∈ [0] ∧ d.Settled 0 [0] (.ok ()) := by
  have hevent : Event.completed 0 [0] 0 (.ok ()) ∈
      (runQueue (answering 0) 0 0 1 oneSubmission).2.trace.map (·.1) := by
    decide +kernel
  obtain ⟨⟨event, d⟩, hmem, rfl⟩ := List.mem_map.mp hevent
  exact ⟨d, hmem, completed_only_when_settled _ _ _ _ _ hmem⟩

/-- In every run the leases are accounted for. -/
theorem leases_accounted :
    (runQueue schedule lastInstant context capacity calls).1.LeasesAccounted
      (runQueue schedule lastInstant context capacity calls).2 where
  conserved := (runQueue_books schedule lastInstant context capacity calls).ledger.conserved
  once := (runQueue_books schedule lastInstant context capacity calls).ledger.distinct
  unsent _ _ haborted :=
    (runQueue_books schedule lastInstant context capacity calls).unsent haborted
  committedOnce :=
    (runQueue_books schedule lastInstant context capacity calls).ledger.history.commits_nodup
  committed later past signal leases lease d split := by
    have books := runQueue_books schedule lastInstant context capacity calls
    obtain ⟨hlease, haccepted, hunsettled, -⟩ := books.ledger.history.proper split
    exact ⟨hlease, haccepted, hunsettled⟩

/-- Unless the scopes of an uncommitted entry settle between the two reads of a collect,
a lease is told of the commit before it is told of success. -/
theorem committed_before_success
    (together : ∀ signal, ¬ LateLook signal
      (runQueue schedule lastInstant context capacity calls).2.trace) :
    CommittedBeforeSuccess (runQueue schedule lastInstant context capacity calls).2.trace := by
  intro later past signal leases lease d split
  have books := runQueue_books schedule lastInstant context capacity calls
  obtain ⟨-, -, -, hcommitted⟩ := books.ledger.history.proper split
  refine (hcommitted rfl).resolve_right fun hlate => together signal (hlate.mono ?_)
  rw [split]
  exact List.subset_append_of_subset_right later (List.subset_cons_self _ _)

theorem committed_before_success_one_submission :
    CommittedBeforeSuccess (runQueue (answering 0) 0 0 1 oneSubmission).2.trace := by
  have hevents : (runQueue (answering 0) 0 0 1 oneSubmission).2.trace.map (·.1) =
      [.completed 0 [0] 0 (.ok ()), .looked 0 [0] false (some (.ok ())) (some (.ok ())),
        .submitted 0 [0] 0, .built 0] := by
    decide +kernel
  refine committed_before_success _ _ _ _ _ fun signal hlate => ?_
  obtain ⟨leases, status, d, hlook, -⟩ := hlate
  have hevent := List.mem_map_of_mem (f := (·.1)) hlook
  simp [hevents] at hevent

/-- The scopes settle between the two reads: success without a commit. -/
theorem success_can_come_without_commit :
    ¬ CommittedBeforeSuccess (runQueue (answering 15) 0 0 1 oneSubmission).2.trace := by
  have hevents : (runQueue (answering 15) 0 0 1 oneSubmission).2.trace.map (·.1) =
      [.completed 0 [0] 0 (.ok ()), .looked 0 [0] true none (some (.ok ())), .built 0] := by
    decide +kernel
  obtain ⟨⟨event, d⟩, past, htrace, rfl, hpast⟩ := List.map_eq_cons_iff.mp hevents
  intro hcommitted
  have hlease := hcommitted [] past 0 [0] 0 d htrace
  rw [leasesOf_eq, hpast] at hlease
  simp [Event.commits] at hlease

end

end GpuInfo
