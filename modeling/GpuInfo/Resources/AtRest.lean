import GpuInfo.Resources.Reuse

/-!
What a call finds when it begins. In every reachable state the idle allocations are counted
in the budget, the total is a number of 64 bits, and an idle allocation has the bytes of its
descriptor.
-/

namespace GpuInfo
open MachineInteger Interleaving

variable {Format : Type} [DecidableEq Format] [Wgpu Format] {limits : Limits}

/-- A state in which a call can begin, whatever the limit, the idle budget and the loss. -/
structure Inner.AtRest (limits : Limits) (s : Inner Format) : Prop where
  represented : Represented s.pool
  charged : totalBytes s.pool.idle.slots ≤ s.memory.allocated
  within : s.memory.total ≤ u64Max
  mapped : ∀ allocation ∈ s.pool.idle.slots, allocation.needsRemap = false
  priced : ∀ allocation ∈ s.pool.idle.slots,
    allocation.resource.spec.bytes limits = .ok allocation.bytes

theorem rule_within (s : Inner Format) (taken : Multiset (Activity Format))
    (s' : Inner Format) (left : Multiset (Activity Format))
    (h : ResourceRule limits s taken s' left) (planned : ∀ activity ∈ taken, activity.Planned)
    (hs : s.memory.total ≤ u64Max) : s'.memory.total ≤ u64Max := by
  have cancels : ∀ {remaining : Nat} {memory : MemoryUsage},
      s.memory.cancel remaining = .ok memory → memory.total ≤ u64Max := by
    intro remaining memory hcancel
    obtain ⟨-, rfl⟩ := MemoryUsage.cancel_eq_ok.mp hcancel
    simp only [MemoryUsage.total] at hs ⊢
    omega
  cases h with
  | foreign h => exact admissionRule_within h hs
  | reserve h | evict h | reserveFails h =>
      obtain ⟨_, _, rfl⟩ | ⟨_, hle, _, rfl⟩ := MemoryUsage.reserve_cases h
      · exact hs
      · simp only [MemoryUsage.total] at hle ⊢
        omega
  | create _ h =>
      obtain ⟨-, hreserved, hallocated, -⟩ := charge_ok h
      simp only [MemoryUsage.total, Inner.create] at hs ⊢
      omega
  | chargeFails _ h =>
      rw [(charge_error h).1]
      exact hs
  | created h | unwound h | creationFailed h => exact cancels h
  | runMap result _ _ => cases result <;> exact hs
  | advance _ h seen | finish _ h seen =>
      obtain ⟨-, hallocated, hreserved, -⟩ :=
        section_spec (planned _ (Multiset.mem_singleton_self _)) h seen
      simp only [MemoryUsage.total] at hs ⊢
      omega
  | _ => exact hs

/-! What native objects cost -/

/-- A native object is never described anew. -/
theorem rule_descriptor (s : Inner Format) (taken : Multiset (Activity Format))
    (s' : Inner Format) (left : Multiset (Activity Format))
    (h : ResourceRule limits s taken s' left) (planned : ∀ activity ∈ taken, activity.Planned)
    (listening : s.Listening) (fresh : s.natives s.nextNative = none) {native : NativeId}
    {object : Native Format} (hobject : s.natives native = some object) :
    ∃ object', s'.natives native = some object' ∧ object'.descriptor = object.descriptor := by
  have hkeeps := rule_keeps s taken s' left h planned listening fresh
  have untouched : (taken.map Activity.touches).sum = 0 → ∃ object',
      s'.natives native = some object' ∧ object'.descriptor = object.descriptor := by
    intro hnone
    obtain ⟨object', hobject', hsame, -⟩ := hkeeps.natives native (by simp [hnone]) object hobject
    exact ⟨object', hobject', hsame⟩
  cases h with
  | move _ | foreign _ => exact ⟨object, hobject, rfl⟩
  | taint _ _ | upload _ =>
      rw [Inner.updateNative_natives, hobject]
      refine ⟨_, rfl, ?_⟩
      split <;> rfl
  | _ => exact untouched (by simp [Activity.touches])

/-- Every allocation made has the bytes of its object. -/
def Inner.Priced (limits : Limits) (s : Inner Format) : Prop :=
  ∀ made ∈ s.created, ∃ object, s.natives made.1 = some object ∧
    object.descriptor.bytes limits = .ok made.2

theorem rule_priced (s : Inner Format) (taken : Multiset (Activity Format))
    (s' : Inner Format) (left : Multiset (Activity Format))
    (h : ResourceRule limits s taken s' left) (planned : ∀ activity ∈ taken, activity.Planned)
    (listening : s.Listening) (fresh : s.natives s.nextNative = none) (hs : s.Priced limits) :
    s'.Priced limits := by
  have before : ∀ made ∈ s.created, ∃ object, s'.natives made.1 = some object ∧
      object.descriptor.bytes limits = .ok made.2 := by
    intro made hmade
    obtain ⟨object, hobject, hbytes⟩ := hs made hmade
    obtain ⟨object', hobject', hsame⟩ :=
      rule_descriptor s taken s' left h planned listening fresh hobject
    exact ⟨object', hobject', hsame ▸ hbytes⟩
  cases h with
  | @create _ creation _ _ _ _ _ _ _ allocation hbytes hcharge =>
      intro made hmade
      cases Multiset.mem_cons.mp hmade with
      | inr hold => exact before made hold
      | inl hnew =>
          have hresource := (charge_ok hcharge).1
          have hnative : allocation.native = s.nextNative := congrArg Allocation.native hresource
          subst hnew
          refine ⟨⟨allocation.resource.spec, creation, allocation.resource.mapped, false, false⟩,
            ?_, ?_⟩
          · simp only [hnative]
            exact Function.update_self _ _ _
          · simp only [allocation.exact, hresource]
            exact hbytes
  | runMap result _ _ => cases result <;> exact before
  | advance _ h seen | finish _ h seen =>
      have hcreated := congrArg Inner.created
        (section_spec (planned _ (Multiset.mem_singleton_self _)) h seen).2.2.2
      exact fun made hmade => before made (hcreated ▸ hmade)
  | _ => exact before

/-! Every run -/

theorem resources_priced {c : ResourceConfig Format}
    (hc : Reachable ResourceStart (ResourceStep limits) c) :
    c.shared.memory.total ≤ u64Max ∧ c.shared.Priced limits := by
  refine (hc.invariant (I := fun c => Reachable ResourceStart (ResourceStep limits) c ∧
    c.shared.memory.total ≤ u64Max ∧ c.shared.Priced limits) (fun c hstart => ?_)
    fun c c' hs h => ⟨hs.1.next h, ?_⟩).2
  · refine ⟨.start hstart, ?_⟩
    obtain ⟨limit⟩ := hstart
    exact ⟨Nat.zero_le _, fun made hmade => absurd hmade (Multiset.notMem_zero made)⟩
  · obtain ⟨hreachable, htotal, hpriced⟩ := hs
    have accounted := resources_accounted hreachable
    have fresh := (resources_reusable hreachable).stands.fresh _ (Nat.le_refl _)
    obtain ⟨rest, hrule⟩ := h
    have hplanned := fun activity hactivity =>
      accounted.planned activity (Multiset.mem_add.mpr (.inl hactivity))
    exact ⟨rule_within _ _ _ _ hrule hplanned htotal,
      rule_priced _ _ _ _ hrule hplanned accounted.listening fresh hpriced⟩

/-- Whatever has run so far, a call may begin. -/
theorem reachable_atRest {c : ResourceConfig Format}
    (hc : Reachable ResourceStart (ResourceStep limits) c) : c.shared.AtRest limits := by
  obtain ⟨hwithin, hpriced⟩ := resources_priced hc
  have accounted := resources_accounted hc
  have hidle : ((c.shared.pool.idle.slots : Multiset (ChargedAllocation Format)).map deed) ≤
      liveDeeds c := by
    rw [liveDeeds, add_assoc, add_assoc]
    exact Multiset.le_add_right _ _
  refine ⟨accounted.represented, ?_, hwithin, fun allocation hmem => ?_,
    fun allocation hmem => ?_⟩
  · rw [accounted.allocated_live, ← bytesOf_idle]
    obtain ⟨others, hothers⟩ := Multiset.le_iff_exists_add.mp hidle
    rw [hothers, bytesOf_add]
    omega
  · exact ((resources_reusable hc).stands.idle allocation hmem).mapped
  · obtain ⟨object, hknown, -⟩ := ((resources_reusable hc).stands.idle allocation hmem).clean
    have hmade : deed allocation ∈ c.shared.created := by
      rw [← accounted.live]
      exact Multiset.mem_add.mpr (.inl (Multiset.mem_of_le hidle
        (Multiset.mem_map_of_mem deed (Multiset.mem_coe.mpr hmem))))
    obtain ⟨object', hnative, hbytes⟩ := hpriced _ hmade
    rw [show (deed allocation).1 = allocation.native from rfl, hknown.native] at hnative
    cases hnative
    rw [← hknown.descriptor]
    exact hbytes

end GpuInfo
