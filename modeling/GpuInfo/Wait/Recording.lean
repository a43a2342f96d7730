import GpuInfo.Wait.Submitting

/-!
The birth of a work, with the lease it brings. A recording whose error scopes panic
makes no work; one that fails aborts its lease at once.
-/

namespace GpuInfo
open StateProgram Device

section
variable {w w' : World} {works : Multiset RecordedWork} {pending : Multiset PendingWork}
  {work other : RecordedWork} {lease : Lease}

/-- A lease that nobody had. -/
structure NewLease (w : World) (lease : Lease) (w' : World) : Prop where
  trace : w'.trace = w.trace
  later : w.device.Later w'.device
  sound : w'.device.Sound
  unused : w.device.nextLease ≤ lease
  allocated : lease < w'.device.nextLease
  passed : w'.device.passed = w.device.passed

theorem newLease_spec (w : World) (hw : w.device.Sound) :
    Ensures newLease w fun lease w' =>
      NewLease w lease w' ∧ w'.device.scopes (.recording lease) = none := by
  refine Ensures.get ((change_spec _ w).bind fun _ w' hw' => Ensures.pure ?_)
  have unscoped := hw.newLease le_rfl
  subst hw'
  refine ⟨⟨rfl, { Device.Later.refl w.device with nextLease := Nat.le_succ _ }, ?_, le_rfl,
    Nat.lt_succ_self _, rfl⟩, unscoped⟩
  exact { hw with newLease := fun h => hw.newLease (Nat.le_of_succ_le h) }

theorem NewLease.watches {w'' : World} (h : NewLease w lease w') (watched : Watches w' w'') :
    NewLease w lease w'' where
  trace := watched.trace.trans h.trace
  later := h.later.trans watched.device.later
  sound := watched.device.sound h.sound
  unused := h.unused
  allocated := watched.device.nextLease ▸ h.allocated
  passed := watched.device.passed.trans h.passed

theorem NewLease.books (h : NewLease w lease w') (books : Books w works pending) :
    Books w' works pending :=
  books.later h.trace h.later h.sound fun _ hcommand => h.passed ▸ hcommand

/-- The scope of a recording whose lease did not exist at `d` is no news to what did. -/
theorem Device.Later.newRecording {d d' : Device} (h : d.Later d') (unused : d.nextLease ≤ lease)
    (unscoped : d'.scopes (.recording lease) = none) :
    d.Later (d'.setScope (.recording lease) ⟨true, none, false⟩) where
  submitted := h.submitted
  retired := h.retired
  nextSignal := h.nextSignal
  nextLease := h.nextLease
  loss := h.loss
  outcome houtcome := (outcome_newScope unscoped _).trans (h.outcome houtcome)
  old := h.old
  present {scope} hscope := by
    simp only [setScope, Function.update_apply]
    split
    · exact Option.some_ne_none _
    · exact h.present hscope
  recording {old} hold hscope := by
    have hne : old ≠ lease := Nat.ne_of_lt (hold.trans_le unused)
    simp [setScope, hne, h.recording hold hscope]

theorem NewLease.scoped (h : NewLease w lease w')
    (unscoped : w'.device.scopes (.recording lease) = none) :
    NewLease w lease
      { w' with device := w'.device.setScope (.recording lease) ⟨true, none, false⟩ } where
  trace := h.trace
  later := h.later.newRecording h.unused unscoped
  sound := h.sound.newScope unscoped
    (show ScopeId.Allocated w'.device (.recording lease) from h.allocated)
  unused := h.unused
  allocated := h.allocated
  passed := h.passed

/-- A work is born with a lease that no work, entry or hook has known. -/
theorem Books.born (books : Books w works pending) (h : NewLease w lease w')
    (leases : work.leases = [lease]) (sound : work.Sound w'.device) :
    Books { w' with trace := (.built lease, w'.device) :: w'.trace } (work ::ₘ works) pending := by
  have books' := h.books books
  have unbuilt : lease ∉ leasesOf Event.builds w'.trace := by
    rw [h.trace]
    exact fun hbuilt => Nat.not_lt.mpr h.unused (books.ledger.known lease hbuilt)
  have builds : leasesOf Event.builds ((.built lease, w'.device) :: w'.trace) =
      lease ::ₘ leasesOf Event.builds w'.trace := by
    rw [leasesOf_cons]
    exact Multiset.singleton_add _ _
  have commits : leasesOf Event.commits ((.built lease, w'.device) :: w'.trace) =
      leasesOf Event.commits w'.trace := by
    rw [leasesOf_cons]
    exact zero_add _
  refine ⟨⟨h.sound, ?_, ?_, ?_, ?_, trivial, books'.ledger.history⟩, ?_, books'.retained, ?_, ?_,
    ?_⟩
  · rw [builds, leasesOf_cons, held_cons_work, leases, ← books'.ledger.conserved,
      Multiset.coe_singleton, Multiset.singleton_add, Multiset.cons_add]
    exact congrArg _ (congrArg _ (zero_add _))
  · rw [builds]
    exact Multiset.nodup_cons.mpr ⟨unbuilt, books'.ledger.distinct⟩
  · intro built hbuilt
    rw [builds, Multiset.mem_cons] at hbuilt
    exact hbuilt.elim (fun heq => heq ▸ h.allocated) (books'.ledger.known built)
  · intro committed hcommitted
    rw [commits] at hcommitted
    rw [builds]
    exact Multiset.mem_cons_of_mem (books'.ledger.committed committed hcommitted)
  · intro other hother
    exact (Multiset.mem_cons.mp hother).elim (fun heq => heq ▸ sound) (books'.recorded other)
  · intro other hother lease' hlease'
    rw [commits]
    cases Multiset.mem_cons.mp hother with
    | inl heq =>
        rw [heq, leases, List.mem_singleton] at hlease'
        exact fun hcommit => unbuilt (hlease' ▸ books'.ledger.committed lease' hcommit)
    | inr hother => exact books'.uncommitted other hother lease' hlease'
  · rw [commits]
    exact books'.committed
  · rw [leasesOf_cons]
    simpa [Event.completes] using books'.passed

namespace RecordedWork

theorem new_spec (context : WorkContext) (commands : List CommandBuffer) (lease : Lease)
    (w : World) :
    Ensures (RecordedWork.new context commands lease) w fun work w' =>
      work = ⟨context, commands, [lease], []⟩ ∧
        w' = { w with trace := (.built lease, w.device) :: w.trace } :=
  ⟨rfl, rfl⟩

/-- The unscoped entry point: nothing is known of the recording's scopes. -/
theorem unscoped_born (books : Books w works pending) (h : NewLease w lease w')
    (unscoped : w'.device.scopes (.recording lease) = none) (context : WorkContext)
    {commands : List CommandBuffer} (owned : ∀ command ∈ commands, command.lease = lease) :
    Books { w' with trace := (.built lease, w'.device) :: w'.trace }
      (⟨context, commands, [lease], []⟩ ::ₘ works) pending := by
  refine books.born h rfl ⟨?_, ?_⟩
  · intro command hcommand
    exact List.mem_singleton.mpr (owned command hcommand)
  · intro other hother present
    cases List.mem_singleton.mp hother
    exact absurd unscoped present

/-- The work that a recording leaves to its caller. -/
def kept : Except Payload (Except WaitError RecordedWork) → Multiset RecordedWork
  | .ok (.ok work) => {work}
  | .ok (.error _) | .error _ => 0

theorem record_spec (books : Books w works pending) (h : NewLease w lease w')
    (unscoped : w'.device.scopes (.recording lease) = none) (context : WorkContext)
    (operation : Except Payload CommandBuffer)
    (owned : ∀ command, operation = .ok command → command.lease = lease) :
    Ensures (RecordedWork.record context operation lease) w' fun result w'' =>
      Books w'' (kept result + works) pending := by
  have here : ∀ w₁, Watches w' w₁ → Ensures (pure operation : Host (Except Payload CommandBuffer))
      w₁ fun value w₂ => Watches w' w₂ ∧ value = operation :=
    fun _ watched => Ensures.pure ⟨watched, rfl⟩
  refine (checked_spec here).bind fun result w₁ h₁ => ?_
  cases result with
  | error payload =>
      have watched : Watches w' w₁ := by
        cases h₁ with
        | inl watched => exact watched
        | inr hvalue =>
            obtain ⟨value, w₂, ⟨watched, -⟩, watched'⟩ := hvalue
            exact watched.trans watched'
      refine Ensures.pure ?_
      rw [kept, zero_add]
      exact (h.watches watched).books books
  | ok checked =>
      obtain ⟨value, w₂, w₃, ⟨watched, rfl⟩, watched', hw₁, rfl⟩ := h₁
      have watched₃ := watched.trans watched'
      have h₁ : NewLease w lease w₁ :=
        hw₁ ▸ (h.watches watched₃).scoped ((watched₃.device.present _).mpr unscoped)
      -- any work of this lease alone that carries the scope may be born here
      have born : ∀ commands : List CommandBuffer,
          (∀ command ∈ commands, command.lease = lease) →
          Books { w₁ with trace := (.built lease, w₁.device) :: w₁.trace }
            (⟨context, commands, [lease], [.future (.recording lease)]⟩ ::ₘ works) pending := by
        intro commands hcommands
        refine books.born h₁ rfl ⟨?_, ?_⟩
        · intro command hcommand
          exact List.mem_singleton.mpr (hcommands command hcommand)
        · intro other hother _
          cases List.mem_singleton.mp hother
          simp [Validation.scopesOf, Validation.scopes]
      simp only
      refine (new_spec context [] lease w₁).bind fun work w₄ h₄ => ?_
      obtain ⟨rfl, rfl⟩ := h₄
      cases value with
      | error payload =>
          refine (drop_spec (born [] nofun)).bind fun _ w₅ h₅ => Ensures.pure ?_
          rw [kept, zero_add]
          exact h₅.1
      | ok command =>
          have books₄ := born [command] fun other hother =>
            List.mem_singleton.mp hother ▸ owned command rfl
          refine (Validation.poll_spec _ _).bind fun status w₅ h₅ => ?_
          have books₅ := books₄.watches h₅.1
          split
          · refine (drop_spec books₅).bind fun _ w₆ h₆ => Ensures.pure ?_
            rw [kept, zero_add]
            exact h₆.1
          · exact Ensures.pure books₅
          · exact Ensures.pure books₅

/-- Two works become one; the leases and scopes of both stay in it. -/
theorem append_spec (books : Books w (work ::ₘ other ::ₘ works) pending) :
    Books w (((work.append other).1 ::ₘ ((work.append other).2.toList : Multiset RecordedWork)) +
      works) pending := by
  rw [append]
  split
  · simpa using books
  · simp only [Option.toList_none, Multiset.coe_nil, Multiset.cons_add, zero_add]
    have sound := books.recorded work (Multiset.mem_cons_self _ _)
    have hother : other ∈ work ::ₘ other ::ₘ works :=
      Multiset.mem_cons_of_mem (Multiset.mem_cons_self _ _)
    have soundOther := books.recorded other hother
    have rest : ∀ third ∈ works, third ∈ work ::ₘ other ::ₘ works := fun third hthird =>
      Multiset.mem_cons_of_mem (Multiset.mem_cons_of_mem hthird)
    refine ⟨?_, ?_, books.retained, ?_, books.committed, books.passed⟩
    · have ledger := books.ledger
      rw [held_cons_work, held_cons_work, ← add_assoc, Multiset.coe_add] at ledger
      rw [held_cons_work]
      exact ledger
    · intro third hthird
      cases Multiset.mem_cons.mp hthird with
      | inl heq =>
          subst heq
          refine ⟨fun command hcommand => ?_, fun lease hlease hscope => ?_⟩
          · rw [List.mem_append] at hcommand ⊢
            exact hcommand.imp (sound.commands command) (soundOther.commands command)
          · rw [List.mem_append] at hlease
            rw [Validation.scopesOf_append, List.mem_append]
            exact hlease.imp (sound.scopes lease · hscope) (soundOther.scopes lease · hscope)
      | inr hthird => exact books.recorded third (rest third hthird)
    · intro third hthird lease hlease
      cases Multiset.mem_cons.mp hthird with
      | inl heq =>
          subst heq
          cases List.mem_append.mp hlease with
          | inl h => exact books.uncommitted work (Multiset.mem_cons_self _ _) lease h
          | inr h => exact books.uncommitted other hother lease h
      | inr hthird => exact books.uncommitted third (rest third hthird) lease hlease

end RecordedWork
end

end GpuInfo
