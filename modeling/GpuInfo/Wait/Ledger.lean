import GpuInfo.Wait.SubmissionHistory
import GpuInfo.Wait.WorkQueue
import Mathlib.Algebra.BigOperators.Group.Multiset.Basic
import Mathlib.Data.Multiset.AddSub
import Mathlib.Data.Multiset.Bind

/-!
The leases of a work queue and the hooks they have received. A lease that was
built is held by one work or entry, or has received one terminal hook; the history
records for each hook that it was due. Every function of the queue keeps these books,
so they hold in every run.
-/

namespace GpuInfo
open StateProgram

abbrev Trace := List (Event × Device)

def Event.builds : Event → Option Lease
  | .built lease => some lease
  | _ => none

/-- The lease that a terminal hook settles. -/
def Event.settles : Event → Option Lease
  | .aborted lease | .completed _ _ lease _ => some lease
  | _ => none

def Event.completes : Event → Option Lease
  | .completed _ _ lease _ => some lease
  | _ => none

def Event.commits : Event → Option Lease
  | .submitted _ _ lease => some lease
  | _ => none

def leasesOf (pick : Event → Option Lease) (trace : Trace) : Multiset Lease :=
  (trace.filterMap fun entry => pick entry.1 : List Lease)

theorem leasesOf_cons (pick : Event → Option Lease) (event : Event) (d : Device) (trace : Trace) :
    leasesOf pick ((event, d) :: trace) =
      (match pick event with
        | some lease => {lease}
        | none => 0) + leasesOf pick trace := by
  cases h : pick event <;> simp [leasesOf, h]

/-- The device has accepted what an entry owns: its submission and its recordings. -/
def Device.AcceptedEntry (d : Device) (signal : SignalId) (leases : List Lease) : Prop :=
  d.outcome (.submission signal) = some (.ok ()) ∧
    ∀ lease ∈ leases, d.scopes (.recording lease) ≠ none →
      d.outcome (.recording lease) = some (.ok ())

/-- The work of an entry has retired or the device is lost, and it is reported good only
if it was accepted and submitted in full and has retired on a device not lost by then. -/
def Device.Settled (d : Device) (signal : SignalId) (leases : List Lease) (outcome : Outcome) :
    Prop :=
  ((∀ number, d.sent signal = some number → number ≤ d.retired) ∨ d.loss ≠ none) ∧
    (outcome = .ok () → d.AcceptedEntry signal leases ∧ d.unwound signal = false ∧
      (∃ number, d.sent signal = some number ∧ number ≤ d.retired) ∧ d.polledLoss = none)

/-- A collect found the scopes of a due entry not settled, and when it read them again for
the status they had all accepted it and its callback had run. -/
def LateLook (signal : SignalId) (trace : Trace) : Prop :=
  ∃ leases status d, (Event.looked signal leases true none status, d) ∈ trace ∧
    d.AcceptedEntry signal leases ∧ d.signals signal = some (.ok ())

/-- What is right about an event, given what came before it. -/
def Event.Proper (d : Device) (past : Trace) : Event → Prop
  | .built _ | .looked _ _ _ _ _ => True
  | .aborted lease => lease ∉ leasesOf settles past ∧ lease ∉ leasesOf commits past
  | .submitted signal leases lease =>
      lease ∈ leases ∧ d.AcceptedEntry signal leases ∧ lease ∉ leasesOf settles past ∧
        lease ∉ leasesOf commits past
  | .completed signal leases lease outcome =>
      lease ∈ leases ∧ lease ∉ leasesOf settles past ∧ d.Settled signal leases outcome ∧
        (outcome = .ok () → lease ∈ leasesOf commits past ∨ LateLook signal past)

def History : Trace → Prop
  | [] => True
  | (event, d) :: past => event.Proper d past ∧ History past

/-- The books, where `held` are the leases of all works and entries. -/
structure Ledger (w : World) (held : Multiset Lease) : Prop where
  device : w.device.Sound
  conserved : held + leasesOf Event.settles w.trace = leasesOf Event.builds w.trace
  distinct : (leasesOf Event.builds w.trace).Nodup
  known : ∀ lease ∈ leasesOf Event.builds w.trace, lease < w.device.nextLease
  committed : ∀ lease ∈ leasesOf Event.commits w.trace, lease ∈ leasesOf Event.builds w.trace
  history : History w.trace

section
variable {w w' : World} {held : Multiset Lease} {lease : Lease}

theorem Ledger.watches (books : Ledger w held) (watched : Watches w w') : Ledger w' held where
  device := watched.device.sound books.device
  conserved := watched.trace ▸ books.conserved
  distinct := watched.trace ▸ books.distinct
  known := by
    rw [watched.trace, watched.device.nextLease]
    exact books.known
  committed := watched.trace ▸ books.committed
  history := watched.trace ▸ books.history

theorem Ledger.held_nodup (books : Ledger w held) : held.Nodup :=
  (Multiset.nodup_add.mp (books.conserved ▸ books.distinct)).1

theorem Ledger.not_settled (books : Ledger w held) (h : lease ∈ held) :
    lease ∉ leasesOf Event.settles w.trace :=
  Multiset.disjoint_left.mp (Multiset.nodup_add.mp (books.conserved ▸ books.distinct)).2.2 h

theorem Ledger.held_built (books : Ledger w held) (h : lease ∈ held) :
    lease ∈ leasesOf Event.builds w.trace :=
  books.conserved ▸ Multiset.mem_add.mpr (.inl h)

theorem Ledger.held_known (books : Ledger w held) (h : lease ∈ held) :
    lease < w.device.nextLease :=
  books.known lease (books.held_built h)

/-- An event that is neither a birth nor an end. -/
theorem Ledger.noted (books : Ledger w held) {event : Event} (unborn : event.builds = none)
    (unsettled : event.settles = none)
    (owned : ∀ lease, event.commits = some lease → lease ∈ held)
    (proper : event.Proper w.device w.trace) :
    Ledger { w with trace := (event, w.device) :: w.trace } held where
  device := books.device
  conserved := by simpa [leasesOf_cons, unborn, unsettled] using books.conserved
  distinct := by simpa [leasesOf_cons, unborn] using books.distinct
  known := by simpa [leasesOf_cons, unborn] using books.known
  committed lease h := by
    rw [leasesOf_cons, Multiset.mem_add] at h
    simp only [leasesOf_cons, unborn, zero_add]
    cases h with
    | inl hnew =>
        cases hcommits : event.commits with
        | none => simp [hcommits] at hnew
        | some committed =>
            simp only [hcommits, Multiset.mem_singleton] at hnew
            exact books.held_built (owned lease (hnew ▸ hcommits))
    | inr hold => exact books.committed lease hold
  history := ⟨proper, books.history⟩

/-- A terminal hook takes its lease out of the books. -/
theorem Ledger.settled (books : Ledger w (lease ::ₘ held)) {event : Event}
    (unborn : event.builds = none) (settles : event.settles = some lease)
    (uncommitting : event.commits = none) (proper : event.Proper w.device w.trace) :
    Ledger { w with trace := (event, w.device) :: w.trace } held where
  device := books.device
  conserved := by
    simp only [leasesOf_cons, unborn, settles, zero_add]
    rw [← books.conserved, Multiset.singleton_add, Multiset.add_cons, Multiset.cons_add]
  distinct := by simpa [leasesOf_cons, unborn] using books.distinct
  known := by simpa [leasesOf_cons, unborn] using books.known
  committed := by simpa [leasesOf_cons, unborn, uncommitting] using books.committed
  history := ⟨proper, books.history⟩

end

/-! Hooks -/

theorem note_spec (event : Event) (w : World) :
    Ensures (note event) w fun _ w' => w' = { w with trace := (event, w.device) :: w.trace } :=
  rfl

/-- Hooks, one lease after the other, with an invariant of the leases still to come. -/
theorem runHooks_spec (event : Lease → Event) {I : List Lease → World → Prop}
    (step : ∀ lease leases w w', I (lease :: leases) w → Watches w w' →
      I leases { w' with trace := (event lease, w'.device) :: w'.trace })
    (leases : List Lease) (w : World) (start : I leases w) :
    Ensures (runHooks event leases) w fun _ w' =>
      I [] w' ∧ w.device.Observed w'.device ∧ w.trace ⊆ w'.trace ∧
        ∀ pick, leasesOf pick w'.trace =
          (leases.filterMap (pick <| event ·) : List Lease) + leasesOf pick w.trace := by
  induction leases generalizing w with
  | nil => exact Ensures.pure ⟨start, .refl _, List.Subset.refl _, by simp⟩
  | cons lease leases ih =>
      refine (tick_spec w).bind fun _ w₁ watched => ?_
      refine (note_spec _ w₁).bind fun _ w₂ hw₂ => ?_
      subst hw₂
      refine (ih _ (step lease leases w w₁ start watched)).mono fun _ w' h => ?_
      obtain ⟨hI, observed, kept, hpick⟩ := h
      have hpast : w.trace ⊆ w'.trace :=
        watched.trace ▸ List.Subset.trans (List.subset_cons_self _ _) kept
      refine ⟨hI, watched.device.trans observed, hpast, fun pick => ?_⟩
      rw [hpick, leasesOf_cons, watched.trace]
      cases hlease : pick (event lease) with
      | none => simp [hlease]
      | some settled =>
          simp only [List.filterMap_cons, hlease, ← Multiset.cons_coe]
          rw [Multiset.singleton_add, Multiset.add_cons, Multiset.cons_add]

/-! Works and entries -/

/-- A work's commands are its leases', and it carries the scopes of their recordings. -/
structure RecordedWork.Sound (d : Device) (work : RecordedWork) : Prop where
  commands : ∀ command ∈ work.commands, command.lease ∈ work.leases
  scopes : ∀ lease ∈ work.leases, d.scopes (.recording lease) ≠ none →
    .recording lease ∈ Validation.scopesOf work.validation

/-- An entry whose submission returned owns the scopes of all it submitted. -/
structure PendingWork.Owned (d : Device) (entry : PendingWork) : Prop where
  unwound : d.unwound entry.completion.signal = false
  sent : ∃ number, d.sent entry.completion.signal = some number
  validation : ∃ validation, entry.completion.validation = some validation ∧
    .submission entry.completion.signal ∈ validation.scopes ∧
    ∀ lease ∈ entry.leases, d.scopes (.recording lease) ≠ none →
      .recording lease ∈ validation.scopes

/-- A fence is submitted after what it stands for, and only a submission that returned
is without failure, or failed for a dropped callback. -/
structure PendingWork.Sound (d : Device) (entry : PendingWork) : Prop where
  allocated : entry.completion.signal < d.nextSignal
  fence : ∀ recovery, entry.recovery = some recovery → recovery.signal < d.nextSignal ∧
    ∀ awaited number, d.callbacks recovery.signal = some awaited →
      d.sent entry.completion.signal = some number → number ≤ awaited
  owned : entry.failure = none ∨ entry.failure = some .dropped → entry.Owned d

def workLeases (works : Multiset RecordedWork) : Multiset Lease :=
  works.bind fun work => (work.leases : Multiset Lease)

def pendingLeases (pending : Multiset PendingWork) : Multiset Lease :=
  pending.bind fun entry => (entry.leases : Multiset Lease)

/-- The books of a queue with its works: an entry's leases have been committed exactly
if it says so, and only commands of entries have reached the device. -/
structure Books (w : World) (works : Multiset RecordedWork) (pending : Multiset PendingWork) :
    Prop where
  ledger : Ledger w (workLeases works + pendingLeases pending)
  recorded : ∀ work ∈ works, work.Sound w.device
  retained : ∀ entry ∈ pending, entry.Sound w.device
  uncommitted : ∀ work ∈ works, ∀ lease ∈ work.leases, lease ∉ leasesOf Event.commits w.trace
  committed : ∀ entry ∈ pending, ∀ lease ∈ entry.leases,
    lease ∈ leasesOf Event.commits w.trace ↔ entry.committed = true
  passed : ∀ command ∈ w.device.passed, command.lease ∈ pendingLeases pending ∨
    command.lease ∈ leasesOf Event.completes w.trace

theorem RecordedWork.Sound.later {d d' : Device} {work : RecordedWork} (h : work.Sound d)
    (later : d.Later d') (known : ∀ lease ∈ work.leases, lease < d.nextLease) : work.Sound d' where
  commands := h.commands
  scopes lease hlease hscope := h.scopes lease hlease fun habsent =>
    hscope (later.recording (known lease hlease) habsent)

theorem PendingWork.Sound.later {d d' : Device} {entry : PendingWork} (h : entry.Sound d)
    (later : d.Later d') (known : ∀ lease ∈ entry.leases, lease < d.nextLease) :
    entry.Sound d' where
  allocated := h.allocated.trans_le later.nextSignal
  fence recovery hrecovery := by
    obtain ⟨hallocated, hordered⟩ := h.fence recovery hrecovery
    refine ⟨hallocated.trans_le later.nextSignal, ?_⟩
    rw [(later.old hallocated).2.1, (later.old h.allocated).1]
    exact hordered
  owned hclean := by
    obtain ⟨hunwound, hsent, validation, hvalidation, hsubmission, hrecordings⟩ := h.owned hclean
    obtain ⟨hsent', -, hunwound'⟩ := later.old h.allocated
    refine ⟨hunwound'.trans hunwound, hsent'.symm ▸ hsent, validation, hvalidation, hsubmission,
      fun lease hlease hscope => hrecordings lease hlease fun habsent => ?_⟩
    exact hscope (later.recording (known lease hlease) habsent)

section
variable {w w' : World} {works : Multiset RecordedWork} {pending : Multiset PendingWork}
  {work : RecordedWork} {entry : PendingWork} {lease : Lease}

theorem held_of_work (hwork : work ∈ works) (h : lease ∈ work.leases) :
    lease ∈ workLeases works + pendingLeases pending :=
  Multiset.mem_add.mpr (.inl (Multiset.mem_bind.mpr ⟨work, hwork, h⟩))

theorem held_of_entry (hentry : entry ∈ pending) (h : lease ∈ entry.leases) :
    lease ∈ workLeases works + pendingLeases pending :=
  Multiset.mem_add.mpr (.inr (Multiset.mem_bind.mpr ⟨entry, hentry, h⟩))

/-- What happens to the device without a trace, without passing a command, leaves the books. -/
theorem Books.later (books : Books w works pending) (trace : w'.trace = w.trace)
    (later : w.device.Later w'.device) (sound : w'.device.Sound)
    (passed : ∀ command ∈ w'.device.passed, command ∈ w.device.passed) :
    Books w' works pending where
  ledger := {
    device := sound
    conserved := trace ▸ books.ledger.conserved
    distinct := trace ▸ books.ledger.distinct
    known := fun lease h => by
      rw [trace] at h
      exact (books.ledger.known lease h).trans_le later.nextLease
    committed := trace ▸ books.ledger.committed
    history := trace ▸ books.ledger.history }
  recorded work hwork := (books.recorded work hwork).later later fun lease h =>
    books.ledger.held_known (held_of_work hwork h)
  retained entry hentry := (books.retained entry hentry).later later fun lease h =>
    books.ledger.held_known (held_of_entry hentry h)
  uncommitted := trace ▸ books.uncommitted
  committed := trace ▸ books.committed
  passed command h := trace ▸ books.passed command (passed command h)

theorem Books.watches (books : Books w works pending) (watched : Watches w w') :
    Books w' works pending :=
  books.later watched.trace watched.device.later (watched.device.sound books.ledger.device)
    fun _ h => watched.device.passed ▸ h

end

end GpuInfo
