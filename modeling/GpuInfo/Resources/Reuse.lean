import GpuInfo.Resources.Standing

/-!
What may be reused. An allocation is idle only if its native object was accepted, was never
tainted, is mapped if it is a staging buffer, and came back before the loss: no two places
hold one object, so what its holder knows of it stays true until it becomes idle.
-/

namespace GpuInfo
open MachineInteger Interleaving

variable {Format : Type} [DecidableEq Format] [Wgpu Format] {limits : Limits}

theorem rule_returning (s : Inner Format) (taken : Multiset (Activity Format))
    (s' : Inner Format) (left : Multiset (Activity Format))
    (h : ResourceRule limits s taken s' left)
    (known : ∀ activity ∈ taken, activity.Planned ∧ activity.returns ≤ s.returning) :
    0 + (left.map Activity.returns).sum + s.returning =
      0 + (taken.map Activity.returns).sum + s'.returning := by
  cases h with
  | move h => rw [moves_returns h, Multiset.map_singleton, Multiset.sum_singleton]
  | foreign _ => simp [Activity.returns, Function.comp_def]
  | runMap result _ _ => cases result <;> rfl
  | advance _ h seen =>
      have hplanned := (known _ (Multiset.mem_singleton_self _)).1
      rw [(section_spec hplanned h seen).2.2.2]
      rfl
  | finish _ h seen =>
      obtain ⟨hplanned, hle⟩ := known _ (Multiset.mem_singleton_self _)
      rw [(section_spec hplanned h seen).2.2.2, Multiset.map_singleton,
        Multiset.sum_singleton]
      simp only [Activity.returns] at hle ⊢
      rw [← resume_returns] at hle ⊢
      simp only [Inner.setPool]
      omega
  | put _ _ | harvestedSafe _ =>
      simp [Activity.returns, Purpose.returns, add_comm]
  | collected _ _ =>
      have hle := (known _ (Multiset.mem_singleton_self _)).2
      simpa [Activity.returns, Purpose.returns, add_comm] using (Nat.sub_add_cancel hle).symm
  | _ => rfl

/-- A return in progress is one that no loss has overtaken. -/
theorem rule_overtakes (s : Inner Format) (taken : Multiset (Activity Format))
    (s' : Inner Format) (left : Multiset (Activity Format))
    (h : ResourceRule limits s taken s' left) (planned : ∀ activity ∈ taken, activity.Planned)
    (hs : 0 < s.returning → s.loss = none) : 0 < s'.returning → s'.loss = none := by
  cases h with
  | markLost _ hnone =>
      intro hpos
      have hreturning : 0 < s.returning := hpos
      exact absurd hnone (Nat.ne_of_gt hreturning)
  | put h _ | harvestedSafe h => exact fun _ => h
  | runMap result _ _ => cases result <;> exact hs
  | advance _ h seen =>
      rw [(section_spec (planned _ (Multiset.mem_singleton_self _)) h seen).2.2.2]
      exact hs
  | finish _ h seen =>
      rw [(section_spec (planned _ (Multiset.mem_singleton_self _)) h seen).2.2.2]
      exact fun hpos => hs (Nat.lt_of_lt_of_le hpos (Nat.sub_le _ _))
  | collected _ _ => exact fun hpos => hs (Nat.lt_of_lt_of_le hpos (Nat.sub_le _ _))
  | _ => exact hs

theorem rule_keeps (s : Inner Format) (taken : Multiset (Activity Format))
    (s' : Inner Format) (left : Multiset (Activity Format))
    (h : ResourceRule limits s taken s' left) (planned : ∀ activity ∈ taken, activity.Planned)
    (listening : s.Listening) (fresh : s.natives s.nextNative = none) :
    s.Keeps s' (taken.map Activity.touches).sum := by
  cases h with
  | create _ _ => exact s.keeps_create fresh
  | answer creation outcome unanswered => exact s.keeps_answer outcome unanswered
  | taint owned _ | upload _ => exact s.keeps_updateNative _ (by simp [Activity.touches])
  | push _ => exact s.keeps_push _ (listening.fresh _ (Nat.le_refl _))
  | runMap result h _ => exact s.keeps_runMap result h
  | dropMap _ _ => exact s.keeps_dropMap _
  | harvest _ _ _ => exact s.keeps_harvest _ _
  | settle _ _ | settleLost _ _ | settleFails _ _ => exact s.keeps_takeOutcome _
  | @advance _ _ _ _ pool _ _ _ h seen | @finish _ _ _ pool _ _ _ h seen =>
      have hkeeps : s.Keeps (s.setPool pool) 0 := s.keeps_setPool pool
      rw [(section_spec (planned _ (Multiset.mem_singleton_self _)) h seen).2.2.2]
      exact ⟨hkeeps.natives, hkeeps.creations, hkeeps.requests⟩
  | _ => exact .of_same rfl rfl rfl

/-- What becomes idle was idle before, or was offered. -/
theorem rule_idle (s : Inner Format) (taken : Multiset (Activity Format))
    (s' : Inner Format) (left : Multiset (Activity Format))
    (h : ResourceRule limits s taken s' left) (planned : ∀ activity ∈ taken, activity.Planned)
    (keeps : s.Keeps s' (taken.map Activity.touches).sum)
    (ht : ∀ activity ∈ taken, activity.Stands s) :
    ∀ allocation ∈ s'.pool.idle.slots,
      allocation ∈ s.pool.idle.slots ∨ Returnable s' allocation := by
  cases h with
  | hit _ h => exact fun allocation hmem => .inl ((mem_of_take h).1 allocation hmem)
  | runMap result _ _ => cases result <;> exact fun _ => .inl
  | advance _ h seen | finish _ h seen =>
      have hpool := congrArg Inner.pool
        (section_spec (planned _ (Multiset.mem_singleton_self _)) h seen).2.2.2
      intro allocation hmem
      simp only [hpool] at hmem
      cases (advance_moves h).idle allocation hmem with
      | inl hbefore => exact .inl hbefore
      | inr hoffered =>
          have hstands := ht _ (Multiset.mem_singleton_self _)
          exact .inr (keeps.returnable (hstands.1 allocation hoffered).1 (Multiset.notMem_zero _))
  | _ => exact fun _ => .inl

/-- A remap begins with a clean allocation and an open request. -/
theorem rule_remaps (s : Inner Format) (taken : Multiset (Activity Format))
    (s' : Inner Format) (left : Multiset (Activity Format))
    (h : ResourceRule limits s taken s' left) (planned : ∀ activity ∈ taken, activity.Planned)
    (keeps : s.Keeps s' (taken.map Activity.touches).sum)
    (ht : ∀ activity ∈ taken, activity.Stands s) :
    ∀ remap ∈ s'.remaps, remap ∈ s.remaps ∨ Remapped s' remap := by
  cases h with
  | @push _ allocation _ _ _ =>
      intro remap hmem
      cases List.mem_append.mp hmem with
      | inl hbefore => exact .inl hbefore
      | inr hnew =>
          have hstands := ht _ (Multiset.mem_singleton_self _)
          cases List.mem_singleton.mp hnew
          exact .inr ⟨keeps.clean hstands.1 (Multiset.notMem_zero _), hstands.2.1, _,
            push_requests_self s allocation, rfl, nofun⟩
  | harvest h _ _ =>
      intro remap hmem
      refine .inl (Multiset.mem_coe.mp ?_)
      rw [swapRemove_perm h]
      exact Multiset.mem_cons_of_mem hmem
  | runMap result _ _ => cases result <;> exact fun _ => .inl
  | advance _ h seen | finish _ h seen =>
      rw [(section_spec (planned _ (Multiset.mem_singleton_self _)) h seen).2.2.2]
      exact fun _ => .inl
  | _ => exact fun _ => .inl

/-- Native objects exist from their creation on. -/
theorem rule_fresh (s : Inner Format) (taken : Multiset (Activity Format))
    (s' : Inner Format) (left : Multiset (Activity Format))
    (h : ResourceRule limits s taken s' left) (planned : ∀ activity ∈ taken, activity.Planned)
    (hs : ∀ native, s.nextNative ≤ native → s.natives native = none) :
    ∀ native, s'.nextNative ≤ native → s'.natives native = none := by
  cases h with
  | create _ _ =>
      intro native hle
      have hlt : s.nextNative < native := hle
      exact (Function.update_of_ne (Nat.ne_of_gt hlt) _ _).trans (hs native hlt.le)
  | taint _ _ | upload _ =>
      intro native hle
      rw [Inner.updateNative_natives, hs native hle]
      rfl
  | @runMap _ signal request result _ _ =>
      intro native hle
      obtain ⟨f, -, hnatives⟩ := s.runMap_natives signal request result
      have hnone := hs native (by cases result <;> exact hle)
      rw [hnatives, hnone]
      rfl
  | advance _ h seen | finish _ h seen =>
      intro native hle
      have hs' := (section_spec (planned _ (Multiset.mem_singleton_self _)) h seen).2.2.2
      have hnatives := congrArg Inner.natives hs'
      have hnext := congrArg Inner.nextNative hs'
      refine (congrFun hnatives native).trans ?_
      rw [Inner.setPool_natives, hs native (Nat.le_trans (Nat.le_of_eq hnext.symm) hle)]
      rfl
  | _ => exact hs

/-! What an operation adds to it -/

/-- A new object is what was asked for; its error scopes have still to answer. -/
theorem create_unproven {s : Inner Format} {spec : Spec Format} {bytes remaining rest : Nat}
    {hbytes : spec.normalized.bytes limits = .ok bytes} {memory : MemoryUsage}
    {allocation : ChargedAllocation Format} (creation : CreationId)
    (h : charge s.memory remaining (newAllocation s.nextNative hbytes) =
      .ok (memory, rest, .ok allocation)) :
    Unproven (s.create memory allocation creation) creation allocation := by
  have hresource := (charge_ok h).1
  have hnative : allocation.native = s.nextNative := congrArg Allocation.native hresource
  refine ⟨⟨allocation.resource.spec, creation, allocation.resource.mapped, false, false⟩,
    ⟨?_, rfl, ?_, id, rfl⟩, rfl⟩
  · rw [hnative]
    exact Function.update_self _ _ _
  · rw [hresource]
    exact Spec.normalized_normalized spec

omit [Wgpu Format] in
/-- Their acceptance is what the unhealthy slots of a creation have waited for. -/
theorem accepted_stand {s : Inner Format} {creation : CreationId} {slots : Slots Format}
    (h : s.creations creation = some (.ok ()))
    (stands : OwnersStand s (Unproven s creation) slots.owners) :
    OwnersStand s (fun _ => True) slots.accepted.owners := by
  intro owned howned
  rw [Slots.owners_accepted] at howned
  obtain ⟨before, hbefore, rfl⟩ := List.mem_map.mp howned
  refine ⟨fun _ => ?_, by simp⟩
  cases hhealthy : before.healthy with
  | true => exact (stands before hbefore).1 hhealthy
  | false =>
      obtain ⟨object, hknown, hcreation⟩ := (stands before hbefore).2 hhealthy
      exact ⟨object, hknown, hcreation ▸ h⟩

omit [Wgpu Format] in
/-- An upload unmaps the buffer, and the flag says so. -/
theorem Clean.unmapped {s : Inner Format} {allocation : ChargedAllocation Format}
    (h : Clean s allocation) :
    Clean (s.updateNative allocation.native fun object => { object with hostMapped := false })
      (allocation.setMapped false) := by
  obtain ⟨object, hknown, hcreation⟩ := h
  refine ⟨{ object with hostMapped := false }, ⟨?_, hknown.descriptor, hknown.normalized,
    by simp [ChargedAllocation.setMapped], hknown.untainted⟩, hcreation⟩
  have hnatives := Inner.updateNative_natives s allocation.native allocation.native
    fun object => { object with hostMapped := false }
  rw [hknown.native, if_pos rfl] at hnatives
  exact hnatives

omit [Wgpu Format] in
/-- A collect takes the outcome of a successful request and sets the flag instead. -/
theorem Remapped.returnable {s : Inner Format} {remap : Remap Format} {request : MapRequest}
    (h : Remapped s remap) (hrequest : s.requests remap.signal = some request)
    (hok : request.outcome = some (.ok ())) :
    Returnable (s.takeOutcome remap.signal) (remap.allocation.setMapped true) := by
  obtain ⟨object, hknown, hcreation⟩ := h.clean
  obtain ⟨found, hfound, hnative, hmapped⟩ := h.request
  rw [hrequest] at hfound
  cases hfound
  have hhost : object.hostMapped = true :=
    hmapped hok object ((congrArg s.natives hnative).trans hknown.native)
  refine ⟨⟨object, ⟨hknown.native, hknown.descriptor, hknown.normalized, fun _ => hhost,
    hknown.untainted⟩, hcreation⟩, h.reusable, ?_⟩
  simp [ChargedAllocation.needsRemap, ChargedAllocation.setMapped]

theorem rule_left (s : Inner Format) (taken : Multiset (Activity Format))
    (s' : Inner Format) (left : Multiset (Activity Format))
    (h : ResourceRule limits s taken s' left) (planned : ∀ activity ∈ taken, activity.Planned)
    (keeps : s.Keeps s' (taken.map Activity.touches).sum) (hs : s.Stands)
    (ht : ∀ activity ∈ taken, activity.Stands s) : ∀ activity ∈ left, activity.Stands s' := by
  have retained : ∀ activity, taken = {activity} → activity.touches = 0 → activity.Stands s' := by
    intro activity heq htouches
    subst heq
    rw [Multiset.map_singleton, Multiset.sum_singleton, htouches] at keeps
    exact keeps.activity (ht activity (Multiset.mem_singleton_self _)) fun _ _ =>
      Multiset.notMem_zero _
  cases h with
  | move h => exact moves_stands h (ht _ (Multiset.mem_singleton_self _))
  | foreign _ =>
      intro activity hactivity
      obtain ⟨holder, -, rfl⟩ := Multiset.mem_map.mp hactivity
      trivial
  | markLost _ _ | unwound _ | answer _ _ _ | runMap _ _ _ | dropMap _ _ | collectedLost _ _
  | collected _ _ => exact fun _ hnone => absurd hnone (Multiset.notMem_zero _)
  | setIdleBudget _ =>
      exact leaves_one ⟨fun _ hnone => absurd hnone (Multiset.notMem_zero _), trivial⟩
  | prepare _ => exact leaves_one fun _ hnone => absurd hnone List.not_mem_nil
  | @hit _ _ _ _ slots _ _ allocation _ h =>
      have hstands := retained _ rfl rfl
      have hclean := keeps.clean (hs.idle _ ((mem_of_take h).2 allocation rfl)).clean
        (Multiset.notMem_zero _)
      refine leaves_one fun owned howned => ?_
      rw [Slots.owners_append] at howned
      cases List.mem_append.mp howned with
      | inl hbefore => exact hstands owned hbefore
      | inr hhit =>
          rw [List.mem_singleton.mp hhit]
          exact ⟨fun _ => hclean, by simp⟩
  | miss _ _ =>
      have hstands := retained _ rfl rfl
      refine leaves_one ?_
      simp only [Activity.Stands, Slots.owners_append, Slots.owners_none, Slots.owners_nil,
        List.append_nil] at hstands ⊢
      exact hstands
  | missFails _ _ | reserveFails _ _ | reject _ =>
      exact leaves_one (OwnersStand.weaken (retained _ rfl rfl) fun _ _ => trivial)
  | reserve _ =>
      have hslots := planned _ (Multiset.mem_singleton_self _)
      have hstands := retained _ rfl rfl
      refine leaves_one ?_
      simp only [Activity.Stands, unfinished_zip hslots]
      exact OwnersStand.weaken hstands fun _ => False.elim
  | evict _ =>
      exact leaves_one ⟨fun _ hnone => absurd hnone (Multiset.notMem_zero _), retained _ rfl rfl⟩
  | @create _ creation _ _ _ _ _ _ _ _ _ h =>
      have hstands := retained _ rfl rfl
      simp only [Activity.Stands, unfinished_none] at hstands
      refine leaves_one fun owned howned => ?_
      rw [← Multiset.mem_coe, unfinished_append, Multiset.mem_cons] at howned
      cases howned with
      | inl hlast =>
          rw [hlast]
          exact ⟨by simp, fun _ => create_unproven creation h⟩
      | inr hbefore => exact hstands owned hbefore
  | createInvalid _ | chargeFails _ _ =>
      have hstands := retained _ rfl rfl
      simp only [Activity.Stands, unfinished_none] at hstands
      exact leaves_one (OwnersStand.weaken hstands fun _ _ => trivial)
  | created _ =>
      have hstands := retained _ rfl rfl
      simp only [Activity.Stands, unfinished_nil] at hstands
      exact leaves_one hstands
  | creationFailed _ => exact leaves_one trivial
  | accept h => exact leaves_one (accepted_stand h (retained _ rfl rfl))
  | taint _ _ => exact leaves_one ⟨by simp, fun _ => trivial⟩
  | upload _ =>
      have howned := (ht _ (Multiset.mem_singleton_self _)).1
      exact leaves_one ⟨fun healthy => (howned healthy).unmapped, fun _ => trivial⟩
  | overBudget _ | noBudget _ | lost _ | pushFails _ =>
      exact discard_stands (retained _ rfl rfl).2.2
  | withinBudget _ | someBudget _ | remap _ _ | pass _ _ _ | harvested _ | harvestedLost _
  | harvestedSafe _ =>
      have hstands := retained _ rfl rfl
      exact leaves_one hstands
  | put _ mapped =>
      obtain ⟨hclean, hreusable, howners⟩ := retained _ rfl rfl
      refine leaves_one ⟨fun allocation hmem => ?_, howners⟩
      rw [Multiset.mem_singleton.mp hmem]
      exact ⟨⟨hclean, hreusable, mapped⟩, rfl⟩
  | push _ => exact leaves_one (retained _ rfl rfl).2.2
  | advance _ h _ =>
      obtain ⟨hoffered, hpurpose⟩ := retained _ rfl rfl
      exact leaves_one ⟨fun allocation hmem =>
        hoffered allocation ((advance_moves h).offered allocation hmem), hpurpose⟩
  | finish _ _ _ => exact resume_stands (retained _ rfl rfl).2
  | collect _ => exact leaves_one fun _ hnone => absurd hnone List.not_mem_nil
  | harvest h _ _ =>
      have hremap := keeps.remapped (hs.remaps _ (List.mem_of_getElem? h)) (Multiset.notMem_zero _)
      refine leaves_one fun remap hmem => ?_
      cases List.mem_append.mp hmem with
      | inl hbefore => exact retained _ rfl rfl remap hbefore
      | inr hharvested => exact List.mem_singleton.mp hharvested ▸ hremap
  | settle hrequest h =>
      have hremapped := ht _ (Multiset.mem_singleton_self _) _ List.mem_cons_self
      refine leaves_one ⟨fun allocation hmem => ?_, fun other hother =>
        retained _ rfl rfl other (List.mem_cons_of_mem _ hother)⟩
      rw [Multiset.mem_singleton.mp hmem]
      exact ⟨hremapped.returnable hrequest h, rfl⟩
  | settleLost _ _ | settleFails _ _ =>
      exact discard_stands fun remap hremap =>
        retained _ rfl rfl remap (List.mem_cons_of_mem _ hremap)

/-- Nothing has come back to the pool after the loss. -/
def Inner.OnTime (s : Inner Format) : Prop :=
  ∀ native object, s.natives native = some object → object.lateReturn = false

omit [DecidableEq Format] [Wgpu Format] in
theorem Inner.OnTime.of_map {s s' : Inner Format} (hs : s.OnTime) {native : NativeId}
    {f : Native Format → Native Format} (h : s'.natives native = (s.natives native).map f)
    (same : ∀ object, (f object).lateReturn = object.lateReturn ∨ (f object).lateReturn = false) :
    ∀ object, s'.natives native = some object → object.lateReturn = false := by
  intro object hobject
  rw [h] at hobject
  obtain ⟨before, hbefore, rfl⟩ := Option.map_eq_some_iff.mp hobject
  cases same before with
  | inl hsame => rw [hsame, hs native before hbefore]
  | inr hfalse => exact hfalse

omit [Wgpu Format] in
/-- What enters the pool was offered to it. -/
theorem section_entering {s : Inner Format} {grow : Bool} {native : NativeId}
    {call : PoolCall (ChargedAllocation Format) (Spec Format)}
    {after : Progress (ChargedAllocation Format) (Spec Format)}
    (h : call.advance s.pool grow = .ok after) (entering : s.entering after.pool native = true) :
    ∃ allocation, allocation ∈ call.offered := by
  obtain ⟨hafter, hbefore⟩ := Bool.and_eq_true_iff.mp entering
  obtain ⟨allocation, hmem, hnative⟩ := List.any_eq_true.mp hafter
  cases (advance_moves h).idle allocation hmem with
  | inl hidle =>
      have hany : s.pool.idle.slots.any (·.native == native) = true :=
        List.any_eq_true.mpr ⟨allocation, hidle, hnative⟩
      rw [hany] at hbefore
      cases hbefore
  | inr hoffered => exact ⟨allocation, hoffered⟩

theorem rule_onTime (s : Inner Format) (taken : Multiset (Activity Format))
    (s' : Inner Format) (left : Multiset (Activity Format))
    (h : ResourceRule limits s taken s' left)
    (known : ∀ activity ∈ taken, activity.Planned ∧ activity.returns ≤ s.returning)
    (overtakes : 0 < s.returning → s.loss = none) (ht : ∀ activity ∈ taken, activity.Stands s)
    (hs : s.OnTime) : s'.OnTime := by
  cases h with
  | create _ _ =>
      intro native object hobject
      by_cases heq : native = s.nextNative
      · subst heq
        have hnew := (Function.update_self _ _ _).symm.trans hobject
        cases hnew
        rfl
      · exact hs native object ((Function.update_of_ne heq _ _).symm.trans hobject)
  | taint _ _ | upload _ =>
      intro native
      refine hs.of_map (Inner.updateNative_natives s _ native _) fun object => .inl ?_
      split <;> rfl
  | runMap result _ _ =>
      intro native
      obtain ⟨f, hf, hnatives⟩ := s.runMap_natives _ _ result
      refine hs.of_map (hnatives native) fun object => .inl ?_
      split
      · exact hf object
      · rfl
  | advance _ h seen | finish _ h seen =>
      obtain ⟨hplanned, hreturns⟩ := known _ (Multiset.mem_singleton_self _)
      have hnatives := congrArg Inner.natives (section_spec hplanned h seen).2.2.2
      have hstands := ht _ (Multiset.mem_singleton_self _)
      intro native
      refine hs.of_map ((congrFun hnatives native).trans (Inner.setPool_natives s _ native))
        fun object => ?_
      split
      · rename_i hentering
        obtain ⟨allocation, hoffered⟩ := section_entering h hentering
        have hone : _ = 1 := (hstands.1 allocation hoffered).2
        have hloss : s.loss = none := overtakes (by
          rw [Activity.returns, hone] at hreturns
          exact hreturns)
        exact .inr (congrArg Option.isSome hloss)
      · exact .inl rfl
  | _ => exact hs

omit [DecidableEq Format] [Wgpu Format] in
theorem mem_ids_of_touched {activities : Multiset (Activity Format)} {native : NativeId}
    (h : native ∈ (activities.map Activity.touches).sum) :
    native ∈ (activities.map Activity.ids).sum := by
  have hle : ∀ activity ∈ activities, activity.touches ≤ activity.ids := by
    intro activity _
    cases activity with
    | owner owned _ =>
        exact Multiset.singleton_le.mpr (by simp [Activity.ids, Activity.deeds, deed])
    | _ => exact Multiset.zero_le _
  exact Multiset.mem_of_le (Multiset.sum_map_le_sum_map _ _ hle) h

/-- What is idle or waits in a remap is nobody else's to touch. -/
theorem rule_stands (s : Inner Format) (taken : Multiset (Activity Format))
    (s' : Inner Format) (left : Multiset (Activity Format))
    (h : ResourceRule limits s taken s' left)
    (apart : (s.ids + (taken.map Activity.ids).sum).Nodup)
    (planned : ∀ activity ∈ taken, activity.Planned)
    (keeps : s.Keeps s' (taken.map Activity.touches).sum) (hs : s.Stands)
    (ht : ∀ activity ∈ taken, activity.Stands s) : s'.Stands := by
  have untouched : ∀ native ∈ s.ids, native ∉ (taken.map Activity.touches).sum :=
    fun native hnative htouched =>
      Multiset.disjoint_left.mp (Multiset.nodup_add.mp apart).2.2 hnative
        (mem_ids_of_touched htouched)
  refine ⟨rule_fresh s taken s' left h planned hs.fresh, fun allocation hmem => ?_,
    fun remap hmem => ?_⟩
  · cases rule_idle s taken s' left h planned keeps ht allocation hmem with
    | inl hbefore =>
        refine keeps.returnable (hs.idle allocation hbefore) (untouched _ ?_)
        exact Multiset.mem_add.mpr (.inl (Multiset.mem_map_of_mem _ (Multiset.mem_coe.mpr hbefore)))
    | inr hoffered => exact hoffered
  · cases rule_remaps s taken s' left h planned keeps ht remap hmem with
    | inl hbefore =>
        refine keeps.remapped (hs.remaps remap hbefore) (untouched _ ?_)
        exact Multiset.mem_add.mpr (.inr (Multiset.mem_map_of_mem (·.allocation.native)
          (Multiset.mem_coe.mpr hbefore)))
    | inr hnew => exact hnew

/-! Every run -/

/-- What every reachable state satisfies. -/
structure ResourcesReusable (c : ResourceConfig Format) : Prop where
  returning : c.held Activity.returns = c.shared.returning
  overtakes : 0 < c.shared.returning → c.shared.loss = none
  onTime : c.shared.OnTime
  stands : c.shared.Stands
  activities : ∀ activity ∈ c.running, activity.Stands c.shared

omit [Wgpu Format] in
theorem ResourcesReusable.start {c : ResourceConfig Format} (h : ResourceStart c) :
    ResourcesReusable c := by
  obtain ⟨limit⟩ := h
  exact ⟨rfl, fun hpos => absurd hpos (Nat.lt_irrefl 0), nofun,
    ⟨fun _ _ => rfl, fun _ hnone => absurd hnone List.not_mem_nil,
      fun _ hnone => absurd hnone List.not_mem_nil⟩,
    fun _ hnone => absurd hnone (Multiset.notMem_zero _)⟩

omit [DecidableEq Format] [Wgpu Format] in
/-- No two places hold one native object. -/
theorem ResourcesAccounted.apart {c : ResourceConfig Format} (hc : ResourcesAccounted c) :
    (c.shared.ids + c.held Activity.ids).Nodup := by
  have hall : (c.shared.deeds.map Prod.fst + c.held Activity.ids).Nodup := by
    have hheld : (c.held Activity.deeds).map Prod.fst = c.held Activity.ids :=
      c.map_held (Multiset.mapAddMonoidHom Prod.fst) Activity.deeds
    rw [← hheld, ← Multiset.map_add, hc.deeds, hc.numbered]
    exact Multiset.nodup_range _
  refine Multiset.nodup_of_le (add_le_add_left ?_ _) hall
  have hidle : ((c.shared.pool.idle.slots : Multiset (ChargedAllocation Format)).map deed).map
      Prod.fst = (c.shared.pool.idle.slots : Multiset (ChargedAllocation Format)).map
        ChargedAllocation.native :=
    Multiset.map_map _ _ _
  have hremaps : (remapDeeds c.shared.remaps).map Prod.fst =
      (c.shared.remaps : Multiset (Remap Format)).map (·.allocation.native) :=
    Multiset.map_map _ _ _
  rw [Inner.deeds, Inner.ids, Multiset.map_add, Multiset.map_add, hidle, hremaps]
  exact Multiset.le_add_right _ _

theorem ResourcesReusable.step {c c' : ResourceConfig Format} (hc : ResourcesReusable c)
    (accounted : ResourcesAccounted c) (h : ResourceStep limits c c') :
    ResourcesReusable c' := by
  have known : ∀ activity ∈ c.running,
      activity.Planned ∧ activity.returns ≤ c.shared.returning := by
    intro activity hactivity
    refine ⟨accounted.planned activity hactivity, ?_⟩
    rw [← hc.returning]
    exact Config.le_held hactivity
  obtain ⟨⟨hstands, honTime, hovertakes⟩, hactivities⟩ := h.keeps_apart
    (I := fun s => s.Stands ∧ s.OnTime ∧ (0 < s.returning → s.loss = none))
    (L := fun s activity => activity.Planned ∧ activity.returns ≤ s.returning)
    (fun s taken s' left hrule apart listening known hs ht => by
      have hplanned := fun activity hactivity => (known activity hactivity).1
      have hkeeps := rule_keeps s taken s' left hrule hplanned listening
        (hs.1.fresh _ (Nat.le_refl _))
      exact ⟨⟨rule_stands s taken s' left hrule apart hplanned hkeeps hs.1 ht,
          rule_onTime s taken s' left hrule known hs.2.2 ht hs.2.1,
          rule_overtakes s taken s' left hrule hplanned hs.2.2⟩,
        rule_left s taken s' left hrule hplanned hkeeps hs.1 ht,
        fun activity disjoint hactivity => hkeeps.activity hactivity fun native hnative htouched =>
          Multiset.disjoint_left.mp disjoint hnative
            (Multiset.mem_add.mpr (.inr (mem_ids_of_touched htouched)))⟩)
    accounted.apart accounted.listening known
    ⟨⟨hc.stands, hc.onTime, hc.overtakes⟩, hc.activities⟩
  have hreturning := h.balances (g := fun _ => 0) (k := Inner.returning) rule_returning known
    ((Nat.zero_add _).trans hc.returning)
  exact ⟨(Nat.zero_add _).symm.trans hreturning, hovertakes, honTime, hstands, hactivities⟩

theorem resources_reusable {c : ResourceConfig Format}
    (hc : Reachable ResourceStart (ResourceStep limits) c) : ResourcesReusable c := by
  have hboth : ResourcesAccounted c ∧ ResourcesReusable c :=
    hc.invariant (I := fun c => ResourcesAccounted c ∧ ResourcesReusable c)
      (fun _ h => ⟨.start h, .start h⟩) fun _ _ hs h => ⟨hs.1.step h, hs.2.step hs.1 h⟩
  exact hboth.2

/-- In every run whatever is idle in the pool may be reused: no owner, operation or remap
holds it; it has the normalized descriptor under which it is found; it cannot be read by the
host, and is mapped if it is a staging buffer; its creation was accepted, it was never
tainted, and it came back before the loss. -/
theorem idle_may_be_reused {c : ResourceConfig Format}
    (hc : Reachable ResourceStart (ResourceStep limits) c) {allocation : ChargedAllocation Format}
    (idle : allocation ∈ c.shared.pool.idle.slots) :
    (∀ activity ∈ c.running, allocation.native ∉ activity.ids) ∧
    (∀ remap ∈ c.shared.remaps, remap.allocation.native ≠ allocation.native) ∧
    ∃ object, c.shared.natives allocation.native = some object ∧
      Pooled.key allocation = object.descriptor ∧
      object.descriptor.normalized = object.descriptor ∧
      (∀ spec, object.descriptor = .buffer spec → spec.usage.contains Usages.mapRead = false) ∧
      (object.descriptor.staging = true →
        allocation.resource.mapped = true ∧ object.hostMapped = true) ∧
      c.shared.creations object.creation = some (.ok ()) ∧
      object.tainted = false ∧ object.lateReturn = false := by
  have h := resources_reusable hc
  have apart := (resources_accounted hc).apart
  have hmem : allocation.native ∈
      (c.shared.pool.idle.slots : Multiset (ChargedAllocation Format)).map
        ChargedAllocation.native :=
    Multiset.mem_map_of_mem _ (Multiset.mem_coe.mpr idle)
  obtain ⟨hown, -, hothers⟩ := Multiset.nodup_add.mp apart
  obtain ⟨-, -, hremaps⟩ := Multiset.nodup_add.mp hown
  obtain ⟨⟨object, hknown, hcreation⟩, hreusable, hmapped⟩ := h.stands.idle allocation idle
  refine ⟨fun activity hactivity hheld => ?_, fun remap hremap heq => ?_,
    object, hknown.native, hknown.descriptor.symm, ?_, fun spec hspec => ?_, fun staging => ?_,
    hcreation, hknown.untainted, h.onTime _ object hknown.native⟩
  · have hle : activity.ids ≤ c.held Activity.ids :=
      Multiset.le_sum_of_mem (Multiset.mem_map_of_mem Activity.ids hactivity)
    exact Multiset.disjoint_left.mp hothers (Multiset.mem_add.mpr (.inl hmem))
      (Multiset.mem_of_le hle hheld)
  · exact Multiset.disjoint_left.mp hremaps hmem
      (heq ▸ Multiset.mem_map_of_mem (·.allocation.native) (Multiset.mem_coe.mpr hremap))
  · rw [hknown.descriptor, hknown.normalized]
  · rw [← hknown.descriptor, hspec] at hreusable
    simpa [Spec.reusable] using hreusable
  · have hflag : allocation.resource.mapped = true := by
      rw [hknown.descriptor] at staging
      simpa [ChargedAllocation.needsRemap, staging] using hmapped
    exact ⟨hflag, hknown.mapped hflag⟩

theorem idle_may_be_reused_storage_returns : ∃ (c : ResourceConfig R8)
    (allocation : ChargedAllocation R8) (object : Native R8),
    allocation ∈ c.shared.pool.idle.slots ∧ c.shared.natives allocation.native = some object ∧
      object.tainted = false := by
  obtain ⟨c, allocation, hc, hidle, -⟩ := storage_returns
  have hmem : allocation ∈ c.shared.pool.idle.slots := hidle ▸ List.mem_cons_self
  obtain ⟨-, -, object, hnative, -, -, -, -, -, htainted, -⟩ := idle_may_be_reused hc hmem
  exact ⟨c, allocation, object, hmem, hnative, htainted⟩

end GpuInfo
