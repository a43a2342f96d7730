import GpuInfo.Resources.AtRest
import GpuInfo.Resources.Checkout
import GpuInfo.Resources.PrepareRuns

/-!
What the admission of a `prepare` comes to. It is refused only if the limit leaves no room
even with every idle allocation gone that was not matched, and it evicts no more of them than
it has to.
-/

namespace GpuInfo
open MachineInteger FuelProgram ResourcePool
variable {Format : Type} [DecidableEq Format]

/-! Calls of the pool -/

/-- What a call of the pool leaves, with the natives that have come back to it. -/
def Inner.afterCall (s : Inner Format) (ended : PoolEnd (ChargedAllocation Format))
    (natives : NativeId → Option (Native Format)) : Inner Format :=
  { s with
    pool := ended.pool
    memory := { s.memory with allocated := s.memory.allocated - totalBytes ended.destroyed }
    natives
    destroyed := (ended.destroyed : Multiset (ChargedAllocation Format)).map deed + s.destroyed }

omit [DecidableEq Format] in
theorem Inner.afterCall_next (s : Inner Format)
    (pool : ResourcePool (ChargedAllocation Format)) (effect : Effect (ChargedAllocation Format))
    (rest : PoolEnd (ChargedAllocation Format))
    (natives natives' : NativeId → Option (Native Format)) :
    ((s.setPool pool).afterCall ⟨pool, effect.destroyedNow, effect⟩ natives).afterCall rest
      natives' = s.afterCall (rest.afterwards effect) natives' := by
  simp only [afterCall, PoolEnd.afterwards, totalBytes_append, Nat.sub_sub, ← Multiset.coe_add,
    Multiset.map_add, Inner.setPool]
  congr 1
  ac_rfl

omit [DecidableEq Format] in
theorem observe_alone {s : Inner Format} {effect : Effect (ChargedAllocation Format)}
    (charged : totalBytes effect.destroyedNow ≤ s.memory.allocated) :
    s.observe effect = .ok (s.afterCall ⟨s.pool, effect.destroyedNow, effect⟩ s.natives) := by
  cases effect with
  | destroyed allocation =>
      have hbytes : totalBytes [allocation] = allocation.bytes := by
        simp [totalBytes, Pooled.bytes]
      have hrelease : s.memory.release allocation.bytes =
          .ok { s.memory with allocated := s.memory.allocated - allocation.bytes } :=
        MemoryUsage.release_eq_ok.mpr ⟨hbytes ▸ charged, rfl⟩
      simp only [Inner.observe, hrelease, ok_bind, Inner.afterCall, Effect.destroyedNow, hbytes]
      rfl
  | silent | taken _ | freed _ =>
      simp [Inner.observe, Inner.afterCall, Effect.destroyedNow, totalBytes]

/-- A call of the pool gives back the charges of what it destroys. -/
theorem callFor_alone {fuel : Nat} {s : Inner Format}
    {call : PoolCall (ChargedAllocation Format) (Spec Format)}
    {ended : PoolEnd (ChargedAllocation Format)}
    (h : call.alone fuel s.pool = .ok (some ended))
    (charged : totalBytes ended.destroyed ≤ s.memory.allocated) :
    ∃ natives, s.callFor fuel call = .ok (some (s.afterCall ended natives)) := by
  induction fuel generalizing s call ended with
  | zero => cases h
  | succ fuel ih =>
      rw [PoolCall.alone] at h
      cases hadvance : call.advance s.pool true with
      | error fault => simp [hadvance] at h
      | ok after =>
          obtain ⟨pool, next, effect⟩ := after
          rw [hadvance, ok_bind] at h
          cases next with
          | none =>
              cases h
              have hseen := observe_alone (s := s.setPool pool) charged
              exact ⟨_, by rw [Inner.callFor, hadvance, ok_bind, hseen]; rfl⟩
          | some next =>
              cases hnext : next.alone fuel pool with
              | error fault => simp [hnext] at h
              | ok answer =>
                  cases answer with
                  | none => simp [hnext] at h
                  | some rest =>
                      simp only [hnext, ok_bind, Option.map_some] at h
                      cases h
                      have hsum : totalBytes effect.destroyedNow + totalBytes rest.destroyed ≤
                          s.memory.allocated := by
                        rw [← totalBytes_append]
                        exact charged
                      have hseen : (s.setPool pool).observe effect = .ok _ :=
                        observe_alone (Nat.le_trans (Nat.le_add_right _ _) hsum)
                      obtain ⟨natives, hrest⟩ := ih
                        (s := (s.setPool pool).afterCall ⟨pool, effect.destroyedNow, effect⟩ _)
                        hnext (Nat.le_sub_of_add_le' hsum)
                      refine ⟨natives, ?_⟩
                      rw [Inner.callFor, hadvance, ok_bind, hseen, ok_bind]
                      rwa [Inner.afterCall_next] at hrest

theorem callFor_more {fuel : Nat} {s s' : Inner Format}
    {call : PoolCall (ChargedAllocation Format) (Spec Format)}
    (h : s.callFor fuel call = .ok (some s')) (more : Nat) :
    s.callFor (fuel + more) call = .ok (some s') := by
  induction fuel generalizing s call with
  | zero => cases h
  | succ fuel ih =>
      obtain ⟨after, s₁, hadvance, hseen, hrest⟩ := callFor_succ h
      rw [Nat.add_right_comm, Inner.callFor, hadvance, ok_bind, hseen, ok_bind]
      cases hrest with
      | inl last => simp [last.1, last.2]
      | inr next =>
          obtain ⟨call', hcall, hrun⟩ := next
          simpa only [hcall] using ih hrun

theorem call_ends {s : Inner Format} {call : PoolCall (ChargedAllocation Format) (Spec Format)}
    {ended : PoolEnd (ChargedAllocation Format)} (h : call.EndsAs s.pool ended)
    (charged : totalBytes ended.destroyed ≤ s.memory.allocated) :
    ∃ natives, Ends (s.call call) (s.afterCall ended natives) := by
  obtain ⟨fuel, hrun⟩ := h
  obtain ⟨natives, hcall⟩ := callFor_alone (hrun 0) charged
  exact ⟨natives, fuel, callFor_more hcall⟩

/-! The budget -/

namespace MemoryUsage
variable {usage : MemoryUsage} {bytes : Nat}

/-- The usage with a reservation more. -/
def withReserved (usage : MemoryUsage) (bytes : Nat) : MemoryUsage :=
  { usage with reserved := usage.reserved + bytes, peak := max usage.peak (usage.total + bytes) }

theorem reserve_eq (within : usage.total ≤ u64Max) : usage.reserve bytes =
    if u64Max < usage.total + bytes then .ok (usage, .error .overflow)
    else match usage.admission bytes usage.total (usage.total + bytes) with
      | .error error => .ok (usage, .error error)
      | .ok () => .ok (usage.withReserved bytes, .ok bytes) := by
  have hused : usage.used = .ok usage.total := add64_of_le within
  by_cases hover : u64Max < usage.total + bytes
  · have hnone : checkedAdd usage.total bytes = none := if_neg (Nat.not_le.mpr hover)
    simp [reserve, hused, hnone, hover]
  · have hfits : usage.total + bytes ≤ u64Max := Nat.le_of_not_lt hover
    have hsome : checkedAdd usage.total bytes = some (usage.total + bytes) := if_pos hfits
    have hreserved : usage.reserved + bytes ≤ u64Max := by
      simp only [total] at hfits
      omega
    simp only [reserve, hused, ok_bind, hsome, hover, if_false, add64_of_le hreserved]
    rfl

theorem reserve_granted (within : usage.total ≤ u64Max) (fits : usage.total + bytes ≤ u64Max)
    (h : bytes = 0 ∨ ∃ limit, usage.limit = some limit ∧ usage.total + bytes ≤ limit) :
    usage.reserve bytes = .ok (usage.withReserved bytes, .ok bytes) := by
  rw [reserve_eq within, if_neg (Nat.not_lt.mpr fits)]
  cases h with
  | inl hzero => simp [admission, hzero]
  | inr hroom =>
      obtain ⟨limit, hlimit, hle⟩ := hroom
      by_cases hzero : bytes = 0 <;> simp [admission, hzero, hlimit, Nat.not_lt.mpr hle]

theorem reserve_unconfigured (within : usage.total ≤ u64Max)
    (fits : usage.total + bytes ≤ u64Max) (positive : bytes ≠ 0) (h : usage.limit = none) :
    usage.reserve bytes = .ok (usage, .error .unconfigured) := by
  rw [reserve_eq within, if_neg (Nat.not_lt.mpr fits)]
  simp [admission, positive, h]

theorem reserve_capacity (within : usage.total ≤ u64Max) (fits : usage.total + bytes ≤ u64Max)
    (positive : bytes ≠ 0) {limit : Nat} (h : usage.limit = some limit)
    (exceeds : limit < usage.total + bytes) :
    usage.reserve bytes = .ok (usage, .error (.capacity bytes usage.total limit)) := by
  rw [reserve_eq within, if_neg (Nat.not_lt.mpr fits)]
  simp [admission, positive, h, exceeds]

end MemoryUsage

/-! The admission -/

/-- The oldest idle allocations have been evicted. -/
def Inner.evicted (s : Inner Format) (count : Nat)
    (natives : NativeId → Option (Native Format)) : Inner Format :=
  s.afterCall ⟨s.pool.holding (s.pool.idle.slots.drop count), s.pool.idle.slots.take count,
    .freed (totalBytes (s.pool.idle.slots.take count))⟩ natives

def Inner.withReserved (s : Inner Format) (bytes : Nat) : Inner Format :=
  { s with memory := s.memory.withReserved bytes }

/-- The ways an admission can go. -/
inductive Inner.Admits (s : Inner Format) (missing : Nat) :
    Inner Format → Except AdmissionError Nat → Prop
  | overflow (exceeds : u64Max < s.memory.total + missing) : Admits s missing s (.error .overflow)
  | unconfigured (fits : s.memory.total + missing ≤ u64Max) (positive : missing ≠ 0)
      (h : s.memory.limit = none) : Admits s missing s (.error .unconfigured)
  | granted (fits : s.memory.total + missing ≤ u64Max)
      (h : missing = 0 ∨ ∃ limit, s.memory.limit = some limit ∧
        s.memory.total + missing ≤ limit) :
      Admits s missing (s.withReserved missing) (.ok missing)
  | grantedLater {limit count : Nat} {natives : NativeId → Option (Native Format)}
      (fits : s.memory.total + missing ≤ u64Max) (positive : missing ≠ 0)
      (h : s.memory.limit = some limit) (exceeds : limit < s.memory.total + missing)
      (reaches : Reaches s.pool.idle.slots (s.memory.total + missing - limit) count)
      (room : (s.evicted count natives).memory.total + missing ≤ limit) :
      Admits s missing ((s.evicted count natives).withReserved missing) (.ok missing)
  | refused {limit count : Nat} {natives : NativeId → Option (Native Format)}
      (fits : s.memory.total + missing ≤ u64Max) (positive : missing ≠ 0)
      (h : s.memory.limit = some limit) (exceeds : limit < s.memory.total + missing)
      (reaches : Reaches s.pool.idle.slots (s.memory.total + missing - limit) count)
      (short : limit < (s.evicted count natives).memory.total + missing) :
      Admits s missing (s.evicted count natives)
        (.error (.capacity missing (s.evicted count natives).memory.total limit))

theorem reserveMissing_spec {s : Inner Format} (hp : Represented s.pool)
    (charged : totalBytes s.pool.idle.slots ≤ s.memory.allocated)
    (within : s.memory.total ≤ u64Max) (missing : Nat) :
    ∃ s' answer, Ends (s.reserveMissing missing) (s', answer) ∧ s.Admits missing s' answer := by
  by_cases hover : u64Max < s.memory.total + missing
  · have hreserve : s.memory.reserve missing = .ok (s.memory, .error .overflow) := by
      rw [MemoryUsage.reserve_eq within, if_pos hover]
    exact ⟨s, _, .bind (.lift hreserve) (.pure _), .overflow hover⟩
  have fits : s.memory.total + missing ≤ u64Max := Nat.le_of_not_lt hover
  by_cases hgranted : missing = 0 ∨ ∃ limit, s.memory.limit = some limit ∧
      s.memory.total + missing ≤ limit
  · have hreserve := MemoryUsage.reserve_granted within fits hgranted
    exact ⟨_, _, .bind (.lift hreserve) (.pure _), .granted fits hgranted⟩
  obtain ⟨positive, hlimits⟩ := not_or.mp hgranted
  cases hlimit : s.memory.limit with
  | none =>
      have hreserve := MemoryUsage.reserve_unconfigured within fits positive hlimit
      exact ⟨s, _, .bind (.lift hreserve) (.pure _), .unconfigured fits positive hlimit⟩
  | some limit =>
      have exceeds : limit < s.memory.total + missing :=
        Nat.lt_of_not_le fun hle => hlimits ⟨limit, hlimit, hle⟩
      have hreserve := MemoryUsage.reserve_capacity within fits positive hlimit exceeds
      have hshortage : saturatingAdd s.memory.total missing - limit =
          s.memory.total + missing - limit := by rw [saturatingAdd, Nat.min_eq_left fits]
      obtain ⟨count, hreaches, hends⟩ := evict_alone hp (s.memory.total + missing - limit)
      obtain ⟨natives, hcall⟩ := call_ends (s := s) hends
        ((totalBytes_sublist (List.take_sublist _ _)).trans charged)
      rw [← hshortage] at hcall
      -- The second reservation finds the charges of what was evicted given back.
      have hless : (s.evicted count natives).memory.total ≤ s.memory.total :=
        Nat.add_le_add_left (Nat.sub_le _ _) _
      have hwithin := hless.trans within
      have hfits := (Nat.add_le_add_right hless missing).trans fits
      by_cases hroom : (s.evicted count natives).memory.total + missing ≤ limit
      · have hagain := MemoryUsage.reserve_granted hwithin hfits (.inr ⟨limit, hlimit, hroom⟩)
        exact ⟨_, _, .bind (.lift hreserve) (.bind hcall (.bind (.lift hagain) (.pure _))),
          .grantedLater fits positive hlimit exceeds hreaches hroom⟩
      · have short := Nat.lt_of_not_le hroom
        have hagain := MemoryUsage.reserve_capacity hwithin hfits positive hlimit short
        exact ⟨_, _, .bind (.lift hreserve) (.bind hcall (.bind (.lift hagain) (.pure _))),
          .refused fits positive hlimit exceeds hreaches short⟩

omit [DecidableEq Format] in
theorem evicted_total {s : Inner Format}
    (charged : totalBytes s.pool.idle.slots ≤ s.memory.allocated) (count : Nat)
    (natives : NativeId → Option (Native Format)) :
    (s.evicted count natives).memory.total + totalBytes (s.pool.idle.slots.take count) =
      s.memory.total := by
  have hfreed : totalBytes (s.pool.idle.slots.take count) ≤ s.memory.allocated :=
    (totalBytes_sublist (List.take_sublist _ _)).trans charged
  simp only [Inner.evicted, Inner.afterCall, MemoryUsage.total]
  omega

omit [DecidableEq Format] in
/-- The oldest reach what all of them reach. -/
theorem reaches_enough {slots : List (ChargedAllocation Format)} {bytes count : Nat}
    (h : Reaches slots bytes count) :
    bytes ≤ totalBytes (slots.take count) ↔ bytes ≤ totalBytes slots := by
  refine ⟨fun hle => hle.trans (totalBytes_sublist (List.take_sublist _ _)), fun hle => ?_⟩
  cases h with
  | inl least => exact least.1
  | inr all =>
      obtain ⟨-, hcount⟩ := all
      rw [hcount, List.take_length]
      exact hle

omit [DecidableEq Format] in
/-- An eviction makes room if evicting everything would. -/
theorem evicted_room {s : Inner Format}
    (charged : totalBytes s.pool.idle.slots ≤ s.memory.allocated) {missing limit count : Nat}
    (exceeds : limit < s.memory.total + missing)
    (reaches : Reaches s.pool.idle.slots (s.memory.total + missing - limit) count)
    (natives : NativeId → Option (Native Format)) :
    (s.evicted count natives).memory.total + missing ≤ limit ↔
      s.memory.total - totalBytes s.pool.idle.slots + missing ≤ limit := by
  have htotal := evicted_total charged count natives
  have henough := reaches_enough reaches
  have hused : totalBytes s.pool.idle.slots ≤ s.memory.total :=
    charged.trans (Nat.le_add_left _ _)
  omega

/-! Plans -/

variable [Wgpu Format] {limits : Limits}

/-- What the plan of these descriptors finds. -/
def Inner.checkout (s : Inner Format) (specs : List (Spec Format)) : Checkout Format :=
  checkOut s.pool.idle.slots specs

/-- The matches have been checked out. -/
def Inner.checkedOut (s : Inner Format) (specs : List (Spec Format)) : Inner Format :=
  { s with pool := s.pool.holding (s.checkout specs).left }

theorem plan_admits {s : Inner Format} (hs : s.AtRest limits) {specs : List (Spec Format)}
    (valid : prepareCheck limits s.loss specs = .ok ())
    (fits : (s.checkout specs).missing limits specs ≤ u64Max) :
    ∃ s' answer,
      Ends (s.plan limits specs) (s', (s.checkout specs).slots, answer.mapError .admission) ∧
      (s.checkedOut specs).Admits ((s.checkout specs).missing limits specs) s' answer := by
  have htake := takeMatches_fits hs.represented (prepareCheck_ok.mp valid).2 [] 0
    ((Nat.zero_add _).symm ▸ fits)
  rw [List.nil_append, Nat.zero_add] at htake
  have hsublist := checkOut_sublist s.pool.idle.slots specs
  obtain ⟨s', answer, hadmit, houtcome⟩ := reserveMissing_spec (s := s.checkedOut specs)
    (hs.represented.holding hsublist) ((totalBytes_sublist hsublist).trans hs.charged) hs.within
    ((s.checkout specs).missing limits specs)
  refine ⟨s', answer, ?_, houtcome⟩
  rw [Inner.plan, valid]
  exact .bind (.lift htake) (.bind hadmit (.pure _))

theorem plan_overflows {s : Inner Format} (hs : s.AtRest limits) {specs : List (Spec Format)}
    (valid : prepareCheck limits s.loss specs = .ok ())
    (exceeds : u64Max < (s.checkout specs).missing limits specs) :
    ∃ count, Ends (s.plan limits specs)
      (s.checkedOut (specs.take count), (s.checkout (specs.take count)).slots,
        .error .overflow) := by
  obtain ⟨count, htake⟩ := takeMatches_overflow hs.represented (prepareCheck_ok.mp valid).2 [] 0
    (Nat.zero_le _) ((Nat.zero_add _).symm ▸ exceeds)
  rw [List.nil_append] at htake
  refine ⟨count, ?_⟩
  rw [Inner.plan, valid]
  exact .bind (.lift htake) (.pure _)

/-- A `prepare` of valid descriptors on a context without a loss is admitted exactly if the
limit has room for what is missing once every idle allocation that was not matched is gone;
if nothing is missing, it always is. It evicts only if the limit has no room with all of them
there, and then the fewest of the oldest that make room, or all if none do. -/
theorem prepare_admitted_when_possible {s : Inner Format} (hs : s.AtRest limits)
    (safe : s.loss = none) {specs : List (Spec Format)}
    (valid : ∀ spec ∈ specs, ∃ bytes, spec.bytes limits = .ok bytes)
    (fits : s.memory.total + (s.checkout specs).missing limits specs ≤ u64Max) :
    let left := (s.checkout specs).left
    let missing := (s.checkout specs).missing limits specs
    totalBytes left ≤ s.memory.total ∧
    ∃ s' answer, Ends (s.plan limits specs) (s', (s.checkout specs).slots, answer) ∧
      (missing = 0 → answer = .ok 0 ∧ s'.pool.idle.slots = left ∧ s'.destroyed = s.destroyed) ∧
      ∀ limit, s.memory.limit = some limit → 0 < missing →
        ((∃ remaining, answer = .ok remaining) ↔
          s.memory.total - totalBytes left + missing ≤ limit) ∧
        (s.memory.total + missing ≤ limit →
          s'.pool.idle.slots = left ∧ s'.destroyed = s.destroyed) ∧
        (limit < s.memory.total + missing → ∃ count,
          Reaches left (s.memory.total + missing - limit) count ∧
          s'.pool.idle.slots = left.drop count ∧
          s'.destroyed = (left.take count : Multiset (ChargedAllocation Format)).map deed +
            s.destroyed) := by
  intro left missing
  have checked : prepareCheck limits s.loss specs = .ok () :=
    prepareCheck_ok.mpr ⟨safe, fun spec hspec => by
      obtain ⟨bytes, hbytes⟩ := valid spec hspec
      exact Spec.bytes_of_valid hbytes⟩
  have hsublist : left.Sublist s.pool.idle.slots := checkOut_sublist _ specs
  have charged : totalBytes left ≤ s.memory.allocated :=
    (totalBytes_sublist hsublist).trans hs.charged
  have hused : totalBytes left ≤ s.memory.total := charged.trans (Nat.le_add_left _ _)
  obtain ⟨s', answer, hplan, houtcome⟩ := plan_admits hs checked
    ((Nat.le_add_left _ _).trans fits)
  refine ⟨hused, s', _, hplan, ?_⟩
  cases houtcome with
  | overflow exceeds => exact absurd fits (Nat.not_le.mpr exceeds)
  | unconfigured _ positive hnone =>
      refine ⟨fun hzero => absurd hzero positive, fun limit hlimit => ?_⟩
      rw [show s.memory.limit = none from hnone] at hlimit
      cases hlimit
  | granted _ hroom =>
      refine ⟨fun hzero => ⟨congrArg Except.ok hzero, rfl, rfl⟩, fun limit hlimit positive => ?_⟩
      have hle : s.memory.total + missing ≤ limit := by
        cases hroom with
        | inl hzero => exact absurd hzero positive.ne'
        | inr hroom =>
            obtain ⟨limit', hlimit', hle⟩ := hroom
            cases hlimit.symm.trans hlimit'
            exact hle
      exact ⟨⟨fun _ => by omega, fun _ => ⟨missing, rfl⟩⟩, fun _ => ⟨rfl, rfl⟩,
        fun hover => absurd hle (Nat.not_le.mpr hover)⟩
  | @grantedLater _ count natives _ positive hlimit exceeds reaches room =>
      refine ⟨fun hzero => absurd hzero positive, fun limit hlimit' _ => ?_⟩
      cases hlimit.symm.trans hlimit'
      have hroom := evicted_room (s := s.checkedOut specs) charged exceeds reaches natives
      exact ⟨⟨fun _ => hroom.mp room, fun _ => ⟨missing, rfl⟩⟩,
        fun hle => absurd exceeds (Nat.not_lt.mpr hle), fun _ => ⟨count, reaches, rfl, rfl⟩⟩
  | @refused _ count natives _ positive hlimit exceeds reaches short =>
      refine ⟨fun hzero => absurd hzero positive, fun limit hlimit' _ => ?_⟩
      cases hlimit.symm.trans hlimit'
      have hroom := evicted_room (s := s.checkedOut specs) charged exceeds reaches natives
      exact ⟨⟨nofun, fun hle => absurd (hroom.mpr hle) (Nat.not_le.mpr short)⟩,
        fun hle => absurd exceeds (Nat.not_lt.mpr hle), fun _ => ⟨count, reaches, rfl, rfl⟩⟩

/-- What a buffer of another kind finds where only a storage buffer is idle. -/
theorem checkout_of_storage {s : Inner R8} {allocation : ChargedAllocation R8}
    (idle : s.pool.idle.slots = [allocation]) (hspec : allocation.resource.spec = storage)
    {spec : Spec R8} (other : (storage == spec.normalized) = false) :
    s.checkout [spec] = ⟨[none], [allocation]⟩ := by
  have hkey : (Pooled.key allocation == spec.normalized) = false := by
    rw [← other, ← hspec]
    rfl
  have hnone : candidate s.pool.idle.slots spec = none := by
    simp [candidate, latest, idle, hkey]
  rw [Inner.checkout, checkOut, hnone]
  simp [checkOut, Checkout.after, idle]

/-- A buffer that takes the place of the one that is idle. -/
def larger : Spec R8 := .buffer ⟨⟨56, by decide⟩, 0x80⟩

theorem prepare_admitted_when_possible_storage_returns : ∃ (s s' : Inner R8)
    (slots : Slots R8) (answer : Except (ResourceError R8) Nat),
    s.memory = ⟨some 64, 0, 16, 16⟩ ∧
      Ends (s.plan smallLimits [larger]) (s', slots, answer) ∧
      ∃ remaining, answer = .ok remaining := by
  obtain ⟨c, allocation, hc, hidle, hspec, hbytes, hmemory, hloss⟩ := storage_returns
  have hother : (storage == larger.normalized) = false := by decide
  have hcheckout := checkout_of_storage hidle hspec hother
  have hmissing : (c.shared.checkout [larger]).missing smallLimits [larger] = 56 := by
    have hcost : larger.cost smallLimits = 56 := by decide
    rw [hcheckout]
    exact hcost
  have htotal : c.shared.memory.total = 16 := congrArg MemoryUsage.total hmemory
  have hleft : totalBytes [allocation] = 16 := by simp [totalBytes, Pooled.bytes, hbytes]
  have hvalid : ∀ spec ∈ [larger], ∃ bytes, spec.bytes smallLimits = .ok bytes := by
    intro spec hmem
    rw [List.mem_singleton.mp hmem]
    exact ⟨56, by decide⟩
  have hfits : c.shared.memory.total +
      (c.shared.checkout [larger]).missing smallLimits [larger] ≤ u64Max := by
    rw [htotal, hmissing]
    decide
  obtain ⟨-, s', answer, hplan, -, hlimits⟩ :=
    prepare_admitted_when_possible (reachable_atRest hc) hloss hvalid hfits
  have hlimit : c.shared.memory.limit = some 64 := congrArg MemoryUsage.limit hmemory
  have hpositive : 0 < (c.shared.checkout [larger]).missing smallLimits [larger] := by
    rw [hmissing]
    decide
  have hroom := (hlimits 64 hlimit hpositive).1
  rw [hmissing, htotal, hcheckout, hleft] at hroom
  exact ⟨c.shared, s', _, answer, hmemory, hplan, hroom.mpr (by decide)⟩

end GpuInfo
