import GpuInfo.Resources.PrepareAdmission

/-!
What an admitted `prepare` creates. Its reservation pays for every slot that is still empty,
and nothing of it is left.
-/

namespace GpuInfo
open MachineInteger FuelProgram Interleaving
variable {Format : Type} [DecidableEq Format] [Wgpu Format] {limits : Limits}

omit [DecidableEq Format] [Wgpu Format] in
/-- An admitted reservation is there, within 64 bits. -/
theorem Inner.Admits.granted_spec {s s' : Inner Format} {missing remaining : Nat}
    (h : s.Admits missing s' (.ok remaining)) :
    remaining = missing ∧ missing ≤ s'.memory.reserved ∧ s'.memory.total ≤ u64Max := by
  have reserves : ∀ {usage : MemoryUsage}, usage.total + missing ≤ u64Max →
      missing ≤ (usage.withReserved missing).reserved ∧
        (usage.withReserved missing).total ≤ u64Max := by
    intro usage hfits
    simp only [MemoryUsage.withReserved, MemoryUsage.total] at hfits ⊢
    omega
  cases h with
  | granted fits _ => exact ⟨rfl, reserves fits⟩
  | @grantedLater _ count natives fits _ _ _ _ _ =>
      have hless : (s.evicted count natives).memory.total ≤ s.memory.total :=
        Nat.add_le_add_left (Nat.sub_le _ _) _
      exact ⟨rfl, reserves ((Nat.add_le_add_right hless missing).trans fits)⟩

/-- The usage with some of what was reserved allocated. -/
def MemoryUsage.withCharged (usage : MemoryUsage) (bytes : Nat) : MemoryUsage :=
  { usage with reserved := usage.reserved - bytes, allocated := usage.allocated + bytes }

/-- The charge of the next empty slot, out of a reservation that pays for it and for `later`. -/
theorem charge_next {s : Inner Format} {spec : Spec Format} {later : Nat}
    (hbytes : spec.normalized.bytes limits = .ok (spec.cost limits))
    (reserved : spec.cost limits + later ≤ s.memory.reserved)
    (within : s.memory.total ≤ u64Max) :
    charge s.memory (spec.cost limits + later) (newAllocation s.nextNative hbytes) = .ok
      (s.memory.withCharged (spec.cost limits), later,
        .ok ⟨newAllocation s.nextNative hbytes, spec.cost limits, rfl⟩) := by
  have hallocated : s.memory.allocated + spec.cost limits ≤ u64Max := by
    simp only [MemoryUsage.total] at within
    omega
  have hcharge : charge s.memory (spec.cost limits + later)
      (newAllocation s.nextNative hbytes) = .ok _ :=
    charge_of_le ((Nat.le_add_right _ _).trans reserved) (Nat.le_add_right _ _) hallocated
  have hlater : spec.cost limits + later - Pooled.bytes (newAllocation s.nextNative hbytes) =
      later := Nat.add_sub_cancel_left _ _
  rw [hlater] at hcharge
  exact hcharge

theorem createMissing_charged (creation : CreationId) {s : Inner Format} {spec : Spec Format}
    {bytes remaining rest : Nat} {memory : MemoryUsage} {allocation : ChargedAllocation Format}
    (hbytes : spec.normalized.bytes limits = .ok bytes)
    (h : charge s.memory remaining (newAllocation s.nextNative hbytes) =
      .ok (memory, rest, .ok allocation))
    (todo : List (Option (Owned Format) × Spec Format)) (slots : Slots Format) :
    createMissing limits creation s ((none, spec) :: todo) slots remaining =
      createMissing limits creation (s.create memory allocation creation) todo
        (slots ++ [some ⟨allocation, false⟩]) rest := by
  rw [createMissing]
  split
  · rename_i error herror
    cases hbytes.symm.trans herror
  · rename_i bytes' hbytes'
    cases hbytes.symm.trans hbytes'
    rw [h]
    rfl

/-- The closure of `prepare` fills every slot: those that are empty with new allocations, each
of which fits what is left of the reservation. -/
theorem createMissing_fills {creation : CreationId}
    {todo : List (Option (Owned Format) × Spec Format)}
    (serves : ∀ owned spec, (some owned, spec) ∈ todo → owned.allocation.Serves limits spec)
    (valid : ∀ slot ∈ todo, slot.2.bytes limits = .ok (slot.2.cost limits)) {s : Inner Format}
    (slots : Slots Format) (reserved : missingBytes limits todo ≤ s.memory.reserved)
    (within : s.memory.total ≤ u64Max) :
    ∃ s' made, createMissing limits creation s todo slots (missingBytes limits todo) =
        .ok (s', slots ++ made, 0, .ok ()) ∧
      List.Forall₂ (fun spec slot => ∃ owned, slot = some owned ∧
        owned.allocation.Serves limits spec) (todo.map Prod.snd) made ∧
      s'.memory.allocated = s.memory.allocated + missingBytes limits todo := by
  induction todo generalizing s slots with
  | nil => exact ⟨s, [], by simp [createMissing, missingBytes], .nil, rfl⟩
  | cons slot todo ih =>
      obtain ⟨found, spec⟩ := slot
      obtain ⟨hspec, hspecs⟩ := List.forall_mem_cons.mp valid
      have hlater := fun owned spec hmem => serves owned spec (List.mem_cons_of_mem _ hmem)
      cases found with
      | some owned =>
          obtain ⟨s', made, hrun, hmade, hallocated⟩ :=
            ih hlater hspecs (slots ++ [some owned]) reserved within
          rw [List.append_assoc] at hrun
          exact ⟨s', some owned :: made, hrun,
            .cons ⟨owned, rfl, serves owned spec List.mem_cons_self⟩ hmade, hallocated⟩
      | none =>
          have hbytes := (spec.normalized_bytes limits).trans hspec
          let allocation : ChargedAllocation Format :=
            ⟨newAllocation s.nextNative hbytes, spec.cost limits, rfl⟩
          let memory := s.memory.withCharged (spec.cost limits)
          have hwithin : memory.total ≤ u64Max := by
            simp only [missingBytes] at reserved
            simp only [MemoryUsage.total, MemoryUsage.withCharged, memory] at within ⊢
            omega
          obtain ⟨s', made, hrun, hmade, hallocated⟩ := ih hlater hspecs
            (s := s.create memory allocation creation) (slots ++ [some ⟨allocation, false⟩])
            (Nat.le_sub_of_add_le' reserved) hwithin
          rw [List.append_assoc] at hrun
          have hcreate := createMissing_charged creation hbytes
            (charge_next hbytes reserved within) todo slots
          exact ⟨s', some ⟨allocation, false⟩ :: made, hcreate.trans hrun,
            .cons ⟨_, rfl, rfl, hspec⟩ hmade, hallocated.trans (Nat.add_assoc _ _ _)⟩

/-- A plan that succeeds has passed its checks and its admission. -/
theorem plan_ok {s s' : Inner Format} (hs : s.AtRest limits) {specs : List (Spec Format)}
    {slots : Slots Format} {remaining : Nat}
    (planned : Ends (s.plan limits specs) (s', slots, .ok remaining)) :
    prepareCheck limits s.loss specs = .ok () ∧ slots = (s.checkout specs).slots ∧
      (s.checkedOut specs).Admits ((s.checkout specs).missing limits specs) s' (.ok remaining) := by
  cases hcheck : prepareCheck limits s.loss specs with
  | error error =>
      have hplan : s.plan limits specs = pure (s, [], .error error) := by rw [Inner.plan, hcheck]
      rw [hplan] at planned
      cases planned.unique (.pure _)
  | ok _ =>
      by_cases hover : u64Max < (s.checkout specs).missing limits specs
      · obtain ⟨count, hplan⟩ := plan_overflows hs hcheck hover
        cases planned.unique hplan
      · obtain ⟨s₁, answer, hplan, houtcome⟩ := plan_admits hs hcheck (Nat.le_of_not_lt hover)
        have hsame := planned.unique hplan
        cases answer with
        | error error => cases hsame
        | ok more =>
            cases hsame
            exact ⟨rfl, rfl, houtcome⟩

/-- A `prepare` whose plan succeeds fills its slots, and its reservation is used up. -/
theorem planned_creates {s s' : Inner Format} (hs : s.AtRest limits) {specs : List (Spec Format)}
    {slots : Slots Format} {remaining : Nat}
    (planned : Ends (s.plan limits specs) (s', slots, .ok remaining)) :
    remaining = (s.checkout specs).missing limits specs ∧
    ∃ after made,
      createMissing limits s'.nextCreation { s' with nextCreation := s'.nextCreation + 1 }
        (slots.zip specs) [] remaining = .ok (after, made, 0, .ok ()) ∧
      List.Forall₂ (fun spec slot => ∃ owned, slot = some owned ∧
        owned.allocation.Serves limits spec) specs made ∧
      after.memory.allocated = s'.memory.allocated + remaining ∧
      Ends (s.prepare limits specs) (after, .ok (s'.nextCreation, .ok made)) := by
  obtain ⟨hcheck, rfl, houtcome⟩ := plan_ok hs planned
  obtain ⟨rfl, hreserved, hwithin⟩ := houtcome.granted_spec
  have hvalid := (prepareCheck_ok.mp hcheck).2
  have hlength := checkOut_length s.pool.idle.slots specs
  obtain ⟨after, made, hcreate, hmade, hallocated⟩ := createMissing_fills
    (checkOut_serves hs.priced specs)
    (fun slot hslot => hvalid slot.2 (List.of_mem_zip hslot).2)
    (s := { s' with nextCreation := s'.nextCreation + 1 }) [] hreserved hwithin
  rw [List.map_snd_zip hlength.ge] at hmade
  have hcancel : after.memory.cancel 0 = .ok after.memory :=
    MemoryUsage.cancel_eq_ok.mpr ⟨Nat.zero_le _, rfl⟩
  exact ⟨rfl, after, made, hcreate, hmade, hallocated,
    .bind planned (.bind (.lift hcreate) (.bind (.lift hcancel) (.pure _)))⟩

/-! Any other thread in between -/

/-- A plan counts the bytes of the slots that are empty, and its reservation pays for them;
what is in a slot may serve its descriptor. -/
structure Pays (limits : Limits) (slots : List (Option (Owned Format) × Spec Format))
    (bytes : Nat) : Prop where
  bytes : bytes = missingBytes limits slots
  valid : ∀ slot ∈ slots, slot.2.bytes limits = .ok (slot.2.cost limits)
  serves : ∀ owned spec, (some owned, spec) ∈ slots → owned.allocation.Serves limits spec

def Activity.Pays (limits : Limits) : Activity Format → Prop
  | .taking specs todo slots missing => ∃ done, specs = done ++ todo ∧
      slots.length = done.length ∧ GpuInfo.Pays limits (slots.zip done) missing ∧
      ∀ spec ∈ todo, spec.bytes limits = .ok (spec.cost limits)
  | .reserving specs slots missing _ | .calling _ (.evicting specs slots missing) =>
      GpuInfo.Pays limits (slots.zip specs) missing
  | .creating _ todo _ remaining => GpuInfo.Pays limits todo remaining
  | _ => True

theorem missingBytes_append (slots more : List (Option (Owned Format) × Spec Format)) :
    missingBytes limits (slots ++ more) = missingBytes limits slots + missingBytes limits more := by
  induction slots with
  | nil => simp [missingBytes]
  | cons slot slots ih =>
      obtain ⟨found, spec⟩ := slot
      cases found with
      | some owned => exact ih
      | none => simp only [List.cons_append, missingBytes, ih, Nat.add_assoc]

/-- One descriptor more, with what was found for it or with its bytes. -/
theorem Pays.concat {slots : Slots Format} {done : List (Spec Format)} {bytes more : Nat}
    (h : Pays limits (slots.zip done) bytes) (hlength : slots.length = done.length)
    {found : Option (Owned Format)} {spec : Spec Format}
    (valid : spec.bytes limits = .ok (spec.cost limits))
    (hmore : more = bytes + missingBytes limits [(found, spec)])
    (serves : ∀ owned ∈ found, owned.allocation.Serves limits spec) :
    Pays limits ((slots ++ [found]).zip (done ++ [spec])) more := by
  rw [List.zip_append hlength, List.zip_cons_cons, List.zip_nil_right]
  refine ⟨?_, fun slot hslot => ?_, fun owned spec' hslot => ?_⟩
  · rw [missingBytes_append, ← h.bytes, hmore]
  · cases List.mem_append.mp hslot with
    | inl hold => exact h.valid slot hold
    | inr hnew =>
        cases List.mem_singleton.mp hnew
        exact valid
  · cases List.mem_append.mp hslot with
    | inl hold => exact h.serves owned spec' hold
    | inr hnew =>
        cases List.mem_singleton.mp hnew
        exact serves owned rfl

theorem moves_pays {activity : Activity Format} {left : Multiset (Activity Format)}
    (h : activity.Moves left) (pays : activity.Pays limits) : ∀ next ∈ left, next.Pays limits := by
  cases h with
  | planned specs slots missing =>
      obtain ⟨done, hspecs, -, hpays, -⟩ := pays
      rw [List.append_nil] at hspecs
      subst hspecs
      exact leaves_one hpays
  | kept creation owned spec todo slots remaining =>
      have hrest : Pays limits todo remaining :=
        ⟨pays.bytes, fun slot hslot => pays.valid slot (List.mem_cons_of_mem _ hslot),
          fun owned spec hslot => pays.serves owned spec (List.mem_cons_of_mem _ hslot)⟩
      exact leaves_one hrest
  | dropFailed | dropped | prepareFailed => exact leaves_none
  | transfer => exact leaves_two trivial trivial
  | _ => exact leaves_one trivial

/-- What `take` answers is of the kind asked for. -/
theorem take_serves {pool after : ResourcePool (ChargedAllocation Format)} {spec : Spec Format}
    {allocation : ChargedAllocation Format}
    (priced : ∀ allocation ∈ pool.idle.slots,
      allocation.resource.spec.bytes limits = .ok allocation.bytes)
    (h : pool.take spec.normalized = .ok (after, some allocation)) :
    allocation.Serves limits spec := by
  have hbytes := priced allocation ((mem_of_take h).2 allocation rfl)
  cases take_cases h with
  | takes position _ rest hposition hremove =>
      obtain ⟨slot, hslot, hkey⟩ := rposition_lt hposition
      cases hslot.symm.trans (removeAt_slots hremove).1
      have hspec : allocation.resource.spec = spec.normalized := eq_of_beq hkey
      rw [hspec, Spec.normalized_bytes] at hbytes
      exact ⟨hspec, hbytes⟩

theorem rule_pays (s : Inner Format) (taken : Multiset (Activity Format)) (s' : Inner Format)
    (left : Multiset (Activity Format)) (h : ResourceRule limits s taken s' left)
    (priced : ∀ allocation ∈ s.pool.idle.slots,
      allocation.resource.spec.bytes limits = .ok allocation.bytes)
    (pays : ∀ activity ∈ taken, activity.Pays limits) :
    ∀ activity ∈ left, activity.Pays limits := by
  cases h with
  | move h => exact moves_pays h (pays _ (Multiset.mem_singleton_self _))
  | foreign _ =>
      intro activity hactivity
      obtain ⟨holder, -, rfl⟩ := Multiset.mem_map.mp hactivity
      trivial
  | prepare h =>
      exact leaves_one ⟨[], rfl, rfl, ⟨rfl, by simp, by simp⟩, (prepareCheck_ok.mp h).2⟩
  | @hit _ _ _ spec _ _ _ _ _ htake =>
      obtain ⟨done, hspecs, hlength, hpays, hvalid⟩ := pays _ (Multiset.mem_singleton_self _)
      obtain ⟨hspec, htodo⟩ := List.forall_mem_cons.mp hvalid
      refine leaves_one ⟨done ++ [spec], by simp [hspecs], by simp [hlength],
        hpays.concat hlength hspec (by simp [missingBytes]) fun owned howned => ?_, htodo⟩
      cases howned
      exact take_serves priced htake
  | @miss _ _ _ spec _ _ _ _ hadd =>
      obtain ⟨done, hspecs, hlength, hpays, hvalid⟩ := pays _ (Multiset.mem_singleton_self _)
      obtain ⟨hspec, htodo⟩ := List.forall_mem_cons.mp hvalid
      rw [addMissing_of_valid hspec] at hadd
      split at hadd
      · cases hadd
        exact leaves_one ⟨done ++ [spec], by simp [hspecs], by simp [hlength],
          hpays.concat hlength hspec (by simp [missingBytes]) (by simp), htodo⟩
      · cases hadd
  | reserve h =>
      have hpays := pays _ (Multiset.mem_singleton_self _)
      obtain ⟨_, herror, -⟩ | ⟨hanswer, -⟩ := MemoryUsage.reserve_cases h
      · cases herror
      · cases hanswer
        exact leaves_one hpays
  | evict _ =>
      have hpays := pays _ (Multiset.mem_singleton_self _)
      exact leaves_one hpays
  | @create _ _ spec _ _ remaining rest bytes _ allocation hbytes h =>
      obtain ⟨hremaining, hvalid, hserves⟩ := pays _ (Multiset.mem_singleton_self _)
      obtain ⟨hspec, htodo⟩ := List.forall_mem_cons.mp hvalid
      obtain ⟨hresource, -, -, hrest⟩ := charge_ok h
      have hcost : bytes = spec.cost limits := by
        cases ((spec.normalized_bytes limits).symm.trans hbytes).symm.trans hspec
        rfl
      have hcharged : allocation.bytes = bytes := by
        rw [allocation.exact, hresource]
        rfl
      refine leaves_one ⟨?_, htodo, fun owned spec hslot => hserves owned spec
        (List.mem_cons_of_mem _ hslot)⟩
      rw [hcharged, hcost, hremaining, missingBytes] at hrest
      omega
  | @advance _ _ _ _ _ _ purpose _ _ _ =>
      have hpays := pays _ (Multiset.mem_singleton_self _)
      cases purpose with
      | evicting _ _ _ => exact leaves_one hpays
      | done | dropping _ _ _ | collecting _ _ _ _ => exact leaves_one trivial
  | @finish _ _ _ _ _ purpose _ _ _ =>
      have hpays := pays _ (Multiset.mem_singleton_self _)
      cases purpose with
      | evicting _ _ _ => exact leaves_one hpays
      | done => exact leaves_none
      | dropping _ _ _ | collecting _ _ _ _ => exact leaves_one trivial
  | runMap | markLost | unwound | answer | dropMap | collectedLost | collected =>
      exact leaves_none
  | _ => exact leaves_one trivial

theorem resources_pay {c : ResourceConfig Format}
    (hc : Reachable ResourceStart (ResourceStep limits) c) :
    ∀ activity ∈ c.running, activity.Pays limits := by
  refine (hc.invariant (I := fun c => Reachable ResourceStart (ResourceStep limits) c ∧
    ∀ activity ∈ c.running, activity.Pays limits) (fun c hstart => ⟨.start hstart, ?_⟩)
    fun c c' hs h => ⟨hs.1.next h, ?_⟩).2
  · obtain ⟨limit⟩ := hstart
    exact fun activity hnone => absurd hnone (Multiset.notMem_zero activity)
  · obtain ⟨hreachable, hpays⟩ := hs
    have hpriced := (reachable_atRest hreachable).priced
    obtain ⟨rest, hrule⟩ := h
    intro activity hactivity
    cases Multiset.mem_add.mp hactivity with
    | inl hleft =>
        exact rule_pays _ _ _ _ hrule hpriced
          (fun taken htaken => hpays taken (Multiset.mem_add.mpr (.inl htaken))) activity hleft
    | inr hrest => exact hpays activity (Multiset.mem_add.mpr (.inr hrest))

/-- The next charge of a creation fits its reservation, whatever else has run. -/
theorem next_charge_fits {c : ResourceConfig Format}
    (hc : Reachable ResourceStart (ResourceStep limits) c) {creation : CreationId}
    {spec : Spec Format} {later : List (Option (Owned Format) × Spec Format)}
    {slots : Slots Format} {remaining : Nat}
    (creating : .creating creation ((none, spec) :: later) slots remaining ∈ c.running) :
    ∃ (bytes : Nat) (hbytes : spec.normalized.bytes limits = .ok bytes) (memory : MemoryUsage)
      (allocation : ChargedAllocation Format),
      charge c.shared.memory remaining (newAllocation c.shared.nextNative hbytes) =
        .ok (memory, missingBytes limits later, .ok allocation) ∧
      allocation.Serves limits spec ∧
      memory.allocated = c.shared.memory.allocated + allocation.bytes := by
  obtain ⟨hremaining, hvalid, -⟩ := resources_pay hc _ creating
  have hspec := hvalid _ List.mem_cons_self
  have hbytes := (spec.normalized_bytes limits).trans hspec
  have hreserved : remaining ≤ c.shared.memory.reserved := by
    rw [← (resources_accounted hc).reserved]
    exact Config.le_held (f := Activity.remaining) creating
  subst hremaining
  have hcharge := charge_next hbytes hreserved (resources_priced hc).1
  exact ⟨_, hbytes, _, _, hcharge, ⟨rfl, hspec⟩, rfl⟩

/-- A `prepare` pays for exactly what it creates. In every run, whatever other threads do in
between, the reservation of a creation is the bytes of the slots that are still empty, so it
is used up with the last; every charge fits it, and makes what the next descriptor asks for
with the bytes computed for it; what was matched is what its descriptor asks for. A `prepare`
that nothing interrupts, whatever is idle when it begins, so fills every slot of an admitted
plan, and allocates as many bytes more as had no match. -/
theorem prepare_pays_exactly :
    (∀ c : ResourceConfig Format, Reachable ResourceStart (ResourceStep limits) c →
      ∀ creation todo slots remaining, .creating creation todo slots remaining ∈ c.running →
        remaining = missingBytes limits todo ∧
        (∀ owned spec, (some owned, spec) ∈ todo → owned.allocation.Serves limits spec) ∧
        ∀ spec later, todo = (none, spec) :: later →
          ∃ (bytes : Nat) (hbytes : spec.normalized.bytes limits = .ok bytes)
            (memory : MemoryUsage) (allocation : ChargedAllocation Format),
            charge c.shared.memory remaining (newAllocation c.shared.nextNative hbytes) =
              .ok (memory, missingBytes limits later, .ok allocation) ∧
            allocation.Serves limits spec ∧
            memory.allocated = c.shared.memory.allocated + allocation.bytes) ∧
    ∀ s : Inner Format, s.AtRest limits → ∀ specs s' slots remaining,
      Ends (s.plan limits specs) (s', slots, .ok remaining) →
        remaining = (s.checkout specs).missing limits specs ∧
        ∃ after made,
          createMissing limits s'.nextCreation { s' with nextCreation := s'.nextCreation + 1 }
            (slots.zip specs) [] remaining = .ok (after, made, 0, .ok ()) ∧
          List.Forall₂ (fun spec slot => ∃ owned, slot = some owned ∧
            owned.allocation.Serves limits spec) specs made ∧
          after.memory.allocated = s'.memory.allocated + remaining ∧
          Ends (s.prepare limits specs) (after, .ok (s'.nextCreation, .ok made)) := by
  refine ⟨fun c hc creation todo slots remaining creating => ?_, fun s hs specs s' slots remaining
    planned => planned_creates hs planned⟩
  have hpays : Pays limits todo remaining := resources_pay hc _ creating
  refine ⟨hpays.bytes, hpays.serves, fun spec later htodo => ?_⟩
  subst htodo
  exact next_charge_fits hc creating

/-- Two buffers of one kind are asked for in a new context. -/
theorem prepare_pays_exactly_two_buffers :
    (∃ (c : ResourceConfig R8) (todo : List (Option (Owned R8) × Spec R8)),
      Reachable ResourceStart (ResourceStep smallLimits) c ∧
      .creating 0 todo [] 32 ∈ c.running ∧ 32 = missingBytes smallLimits todo) ∧
    ∃ (s' after : Inner R8) (made : Slots R8),
      Ends ((Inner.new (some 64) : Inner R8).prepare smallLimits [storage, storage])
        (after, .ok (s'.nextCreation, .ok made)) ∧
      after.memory.allocated = s'.memory.allocated + 32 := by
  have fresh : Reachable ResourceStart (ResourceStep smallLimits)
      (⟨.new (some 64), 0⟩ : ResourceConfig R8) := .start (.new (some 64))
  have first : addMissing smallLimits 0 storage = .ok 16 := by decide
  have second : addMissing smallLimits 16 storage = .ok 32 := by decide
  have checked := fresh.fire 0 (.prepare
    (show prepareCheck smallLimits none [storage, storage] = .ok () from rfl)) rfl
  have missed := checked.fire 0 (.miss (fun _ => rfl) first) rfl
  have missedAgain := missed.fire 0 (.miss (fun _ => rfl) second) rfl
  have planned := missedAgain.fire 0 (.move (.planned _ _ _)) rfl
  have reserved := planned.fire 0 (.reserve rfl) rfl
  have plan : Ends ((Inner.new (some 64) : Inner R8).plan smallLimits [storage, storage])
      (_, [none, none], .ok 32) := ⟨0, fun _ => rfl⟩
  have creating : (.creating 0 [(none, storage), (none, storage)] [] 32 : Activity R8) ∈
      ({.creating 0 [(none, storage), (none, storage)] [] 32} + 0 : Multiset (Activity R8)) :=
    Multiset.mem_add.mpr (.inl (Multiset.mem_singleton_self _))
  have hpays := prepare_pays_exactly.1 _ reserved _ _ _ _ creating
  obtain ⟨-, after, made, -, -, hallocated, hprepare⟩ :=
    prepare_pays_exactly.2 _ (reachable_atRest fresh) _ _ _ _ plan
  exact ⟨⟨_, _, reserved, creating, hpays.1⟩, _, after, made, hprepare, hallocated⟩

end GpuInfo
