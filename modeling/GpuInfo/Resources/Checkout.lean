import GpuInfo.Pool.ResourcePoolAlone
import GpuInfo.Resources.Prepare

/-!
What a plan of `prepare` is for: each descriptor in its turn takes the latest idle allocation
of its kind, the bytes of the others are missing, and nothing else stops being idle.
-/

namespace GpuInfo
open MachineInteger ResourcePool
variable {Format : Type}

/-- The allocation found for each descriptor, and those that stay idle. -/
structure Checkout (Format : Type) where
  found : List (Option (ChargedAllocation Format))
  left : List (ChargedAllocation Format)

namespace Checkout
variable (checkout : Checkout Format) (found : Option (ChargedAllocation Format))

def after : Checkout Format := { checkout with found := found :: checkout.found }

/-- The allocations found, as `prepare` holds them. -/
def slots : Slots Format :=
  checkout.found.map fun found => found.map fun allocation => ⟨allocation, true⟩

def taken : List (ChargedAllocation Format) := checkout.found.reduceOption

@[simp] theorem after_slots : (checkout.after found).slots =
    found.map (fun allocation => ⟨allocation, true⟩) :: checkout.slots := rfl

@[simp] theorem after_left : (checkout.after found).left = checkout.left := rfl

end Checkout

variable [DecidableEq Format]

/-- The latest idle allocation that a descriptor can be given. -/
def candidate (idle : List (ChargedAllocation Format)) (spec : Spec Format) :
    Option (ChargedAllocation Format × List (ChargedAllocation Format)) :=
  if spec.normalized.reusable then latest spec.normalized idle else none

def checkOut : List (ChargedAllocation Format) → List (Spec Format) → Checkout Format
  | idle, [] => ⟨[], idle⟩
  | idle, spec :: specs =>
      match candidate idle spec with
      | some (allocation, others) => (checkOut others specs).after (some allocation)
      | none => (checkOut idle specs).after none

section
variable [Wgpu Format] (limits : Limits)

/-- The bytes of a valid descriptor. -/
def Spec.cost (spec : Spec Format) : Nat := (spec.bytes limits).toOption.getD 0

/-- An allocation is what a descriptor asks for, and has the bytes computed for it. -/
def ChargedAllocation.Serves (allocation : ChargedAllocation Format) (spec : Spec Format) : Prop :=
  allocation.resource.spec = spec.normalized ∧ spec.bytes limits = .ok allocation.bytes

/-- The bytes of the descriptors whose slots are empty. -/
def missingBytes : List (Option (Owned Format) × Spec Format) → Nat
  | (none, spec) :: todo => spec.cost limits + missingBytes todo
  | (some _, _) :: todo => missingBytes todo
  | [] => 0

def Checkout.missing (checkout : Checkout Format) (specs : List (Spec Format)) : Nat :=
  missingBytes limits (checkout.slots.zip specs)

@[simp] theorem Checkout.missing_nil (checkout : Checkout Format) :
    checkout.missing limits [] = 0 := by
  rw [missing, List.zip_nil_right, missingBytes]

variable (checkout : Checkout Format) (spec : Spec Format) (specs : List (Spec Format))

@[simp] theorem Checkout.missing_found (allocation : ChargedAllocation Format) :
    (checkout.after (some allocation)).missing limits (spec :: specs) =
      checkout.missing limits specs := rfl

@[simp] theorem Checkout.missing_none :
    (checkout.after none).missing limits (spec :: specs) =
      spec.cost limits + checkout.missing limits specs := rfl

end

theorem candidate_spec {idle others : List (ChargedAllocation Format)} {spec : Spec Format}
    {allocation : ChargedAllocation Format}
    (h : candidate idle spec = some (allocation, others)) :
    spec.normalized.reusable = true ∧ allocation.resource.spec = spec.normalized ∧
      idle.Perm (allocation :: others) ∧ others.Sublist idle := by
  rw [candidate] at h
  split at h
  · rename_i hreusable
    obtain ⟨hkey, hperm, hsublist⟩ := latest_spec h
    exact ⟨hreusable, eq_of_beq hkey, hperm, hsublist⟩
  · cases h

theorem take_candidate {pool : ResourcePool (ChargedAllocation Format)} (hp : Represented pool)
    {spec : Spec Format} {allocation : ChargedAllocation Format}
    {others : List (ChargedAllocation Format)}
    (h : candidate pool.idle.slots spec = some (allocation, others)) :
    pool.take spec.normalized = .ok (pool.holding others, some allocation) := by
  rw [candidate, if_pos (candidate_spec h).1] at h
  exact take_alone hp h

theorem take_without_candidate {pool : ResourcePool (ChargedAllocation Format)}
    {spec : Spec Format} (h : candidate pool.idle.slots spec = none)
    (hreusable : spec.normalized.reusable = true) :
    pool.take spec.normalized = .ok (pool, none) := by
  rw [candidate, if_pos hreusable] at h
  exact take_nothing h

theorem checkOut_sublist (idle : List (ChargedAllocation Format)) (specs : List (Spec Format)) :
    (checkOut idle specs).left.Sublist idle := by
  induction specs generalizing idle with
  | nil => exact .refl idle
  | cons spec specs ih =>
      rw [checkOut]
      split
      · rename_i allocation others hfound
        exact (ih others).trans (candidate_spec hfound).2.2.2
      · exact ih idle

/-- What is found and what stays idle is what was idle. -/
theorem checkOut_perm (idle : List (ChargedAllocation Format)) (specs : List (Spec Format)) :
    idle.Perm ((checkOut idle specs).taken ++ (checkOut idle specs).left) := by
  induction specs generalizing idle with
  | nil => exact .refl idle
  | cons spec specs ih =>
      rw [checkOut]
      split
      · rename_i allocation others hfound
        exact (candidate_spec hfound).2.2.1.trans ((ih others).cons allocation)
      · exact ih idle

theorem checkOut_length (idle : List (ChargedAllocation Format)) (specs : List (Spec Format)) :
    (checkOut idle specs).slots.length = specs.length := by
  induction specs generalizing idle with
  | nil => rfl
  | cons spec specs ih =>
      rw [checkOut]
      split
      · exact congrArg (· + 1) (ih _)
      · exact congrArg (· + 1) (ih idle)

/-! The loop over the descriptors -/

variable [Wgpu Format] {limits : Limits}

theorem Spec.bytes_of_valid {spec : Spec Format} {bytes : Nat}
    (h : spec.bytes limits = .ok bytes) : spec.bytes limits = .ok (spec.cost limits) := by
  rw [Spec.cost, h]
  rfl

theorem prepareCheck_ok {loss : Option String} {specs : List (Spec Format)} :
    prepareCheck limits loss specs = .ok () ↔
      loss = none ∧ ∀ spec ∈ specs, spec.bytes limits = .ok (spec.cost limits) := by
  have checked : (specs.forM fun spec => do
        let _ ← spec.bytes limits : Except (ResourceError Format) Unit) = .ok () ↔
      ∀ spec ∈ specs, spec.bytes limits = .ok (spec.cost limits) := by
    induction specs with
    | nil => exact ⟨nofun, fun _ => rfl⟩
    | cons spec specs ih =>
        rw [List.forall_mem_cons, List.forM]
        cases hbytes : spec.bytes limits with
        | error error => simp
        | ok bytes =>
            have hcost : (Except.ok bytes : Except (ResourceError Format) Nat) =
                .ok (spec.cost limits) := by simp [Spec.cost, hbytes, Except.toOption]
            exact ih.trans (and_iff_right hcost).symm
  cases loss with
  | none => simpa [prepareCheck] using checked
  | some reason => simp [prepareCheck]

/-- What is found for a descriptor may serve it, if the idle allocations have the bytes of
theirs. -/
theorem checkOut_serves {idle : List (ChargedAllocation Format)}
    (priced : ∀ allocation ∈ idle, allocation.resource.spec.bytes limits = .ok allocation.bytes)
    (specs : List (Spec Format)) : ∀ owned spec,
      (some owned, spec) ∈ (checkOut idle specs).slots.zip specs →
        owned.allocation.Serves limits spec := by
  induction specs generalizing idle with
  | nil => simp
  | cons first specs ih =>
      intro owned spec hmem
      rw [checkOut] at hmem
      cases hfound : candidate idle first with
      | some result =>
          obtain ⟨found, others⟩ := result
          obtain ⟨-, hspec, hperm, hsublist⟩ := candidate_spec hfound
          simp only [hfound, Checkout.after_slots, List.zip_cons_cons, List.mem_cons] at hmem
          cases hmem with
          | inl hfirst =>
              cases hfirst
              have hbytes := priced found (hperm.mem_iff.mpr List.mem_cons_self)
              rw [hspec, Spec.normalized_bytes] at hbytes
              exact ⟨hspec, hbytes⟩
          | inr hlater =>
              exact ih (fun allocation hidle => priced allocation (hsublist.subset hidle))
                owned spec hlater
      | none =>
          simp only [hfound, Checkout.after_slots, List.zip_cons_cons, List.mem_cons] at hmem
          cases hmem with
          | inl hfirst => cases hfirst
          | inr hlater => exact ih priced owned spec hlater

theorem addMissing_of_valid {spec : Spec Format}
    (valid : spec.bytes limits = .ok (spec.cost limits)) (missing : Nat) :
    addMissing limits missing spec =
      if missing + spec.cost limits ≤ u64Max then .ok (missing + spec.cost limits)
      else .error .overflow := by
  rw [addMissing, Spec.normalized_bytes, valid, ok_bind, checkedAdd]
  by_cases hfits : missing + spec.cost limits ≤ u64Max <;> simp [hfits]

/-- The loop of the plan takes what the descriptors find. -/
theorem takeMatches_fits {pool : ResourcePool (ChargedAllocation Format)}
    (hp : Represented pool) {specs : List (Spec Format)}
    (valid : ∀ spec ∈ specs, spec.bytes limits = .ok (spec.cost limits)) (slots : Slots Format)
    (missing : Nat)
    (fits : missing + (checkOut pool.idle.slots specs).missing limits specs ≤ u64Max) :
    takeMatches limits pool specs slots missing =
      .ok (pool.holding (checkOut pool.idle.slots specs).left,
        slots ++ (checkOut pool.idle.slots specs).slots,
        .ok (missing + (checkOut pool.idle.slots specs).missing limits specs)) := by
  induction specs generalizing pool slots missing with
  | nil =>
      rw [takeMatches, Checkout.missing_nil, checkOut, hp.holding_self]
      simp [Checkout.slots]
  | cons spec specs ih =>
      obtain ⟨hspec, hspecs⟩ := List.forall_mem_cons.mp valid
      rw [checkOut] at fits ⊢
      cases hfound : candidate pool.idle.slots spec with
      | some found =>
          obtain ⟨allocation, others⟩ := found
          simp only [hfound, Checkout.missing_found] at fits ⊢
          obtain ⟨hreusable, -, -, hothers⟩ := candidate_spec hfound
          rw [takeMatches_hit hreusable (take_candidate hp hfound),
            ih (hp.holding hothers) hspecs _ _ fits]
          simp [ResourcePool.holding, setIdle]
      | none =>
          simp only [hfound, Checkout.missing_none, ← Nat.add_assoc] at fits ⊢
          have hadd : addMissing limits missing spec = .ok (missing + spec.cost limits) := by
            rw [addMissing_of_valid hspec, if_pos ((Nat.le_add_right _ _).trans fits)]
          rw [takeMatches_miss (take_without_candidate hfound) hadd, ih hp hspecs _ _ fits]
          simp

/-- Where the missing bytes do not fit 64 bits the loop stops, with what it has found so
far. -/
theorem takeMatches_overflow {pool : ResourcePool (ChargedAllocation Format)}
    (hp : Represented pool) {specs : List (Spec Format)}
    (valid : ∀ spec ∈ specs, spec.bytes limits = .ok (spec.cost limits)) (slots : Slots Format)
    (missing : Nat) (fits : missing ≤ u64Max)
    (exceeds : u64Max < missing + (checkOut pool.idle.slots specs).missing limits specs) :
    ∃ count, takeMatches limits pool specs slots missing =
      .ok (pool.holding (checkOut pool.idle.slots (specs.take count)).left,
        slots ++ (checkOut pool.idle.slots (specs.take count)).slots, .error .overflow) := by
  induction specs generalizing pool slots missing with
  | nil =>
      rw [Checkout.missing_nil] at exceeds
      exact absurd fits (Nat.not_le.mpr exceeds)
  | cons spec specs ih =>
      obtain ⟨hspec, hspecs⟩ := List.forall_mem_cons.mp valid
      rw [checkOut] at exceeds
      cases hfound : candidate pool.idle.slots spec with
      | some found =>
          obtain ⟨allocation, others⟩ := found
          simp only [hfound, Checkout.missing_found] at exceeds ⊢
          obtain ⟨hreusable, -, -, hothers⟩ := candidate_spec hfound
          obtain ⟨count, hrun⟩ := ih (hp.holding hothers) hspecs _ _ fits exceeds
          refine ⟨count + 1, ?_⟩
          rw [takeMatches_hit hreusable (take_candidate hp hfound), hrun]
          simp [checkOut, hfound, ResourcePool.holding, setIdle]
      | none =>
          simp only [hfound, Checkout.missing_none, ← Nat.add_assoc] at exceeds ⊢
          have absent := take_without_candidate hfound
          have hadd := addMissing_of_valid hspec missing
          by_cases hcost : missing + spec.cost limits ≤ u64Max
          · obtain ⟨count, hrun⟩ := ih hp hspecs (slots ++ [none]) _ hcost exceeds
            refine ⟨count + 1, ?_⟩
            rw [takeMatches_miss absent (hadd.trans (if_pos hcost)), hrun]
            simp [checkOut, hfound]
          · refine ⟨0, ?_⟩
            rw [takeMatches_missFails absent (hadd.trans (if_neg hcost)), List.take_zero, checkOut,
              hp.holding_self]
            simp [Checkout.slots]

end GpuInfo
