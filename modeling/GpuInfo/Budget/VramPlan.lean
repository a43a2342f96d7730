import GpuInfo.MachineInteger

/-!
How a resident GPU path splits its share of the VRAM (`plan_vram` in `src/budget.rs`). The
share itself is floating point: whatever 64 bits it comes to are what is planned. The plan
stays within them but for one case: a path that needs no tile is planned though its targets
and its decode pool are already too large.
-/

namespace GpuInfo
open MachineInteger

/-- The decode pool is this part of what is planned, between its floor and its cap. -/
def poolDiv : Nat := 16

def poolMin : Nat := 64 <<< 20

def poolMax : Nat := 256 <<< 20

structure VramPlan where
  atlas : Nat
  decode : Nat
  deriving DecidableEq, Repr

inductive VramError
  | unknown
  | tooSmall (fixed planned headroom : Nat) (unified : Bool)
  deriving DecidableEq, Repr

/-- `Ord::clamp` -/
def clamp (value low high : Nat) : Nat := max low (min value high)

def decodePool (planned : Nat) : Nat := clamp (planned / poolDiv) poolMin poolMax

section
variable (vramBudgetFrom : Nat → Bool → UInt64)

def planVram (headroom : Option Nat) (unified : Bool) (fixed oneTile : Nat) :
    Except VramError VramPlan :=
  match headroom with
  | none => .error .unknown
  | some headroom =>
      let planned := (vramBudgetFrom headroom unified).toNat
      let decode := decodePool planned
      let fixed := saturatingAdd fixed decode
      let atlas := planned - fixed
      if atlas < oneTile then .error (.tooSmall fixed planned headroom unified)
      else .ok ⟨atlas, decode⟩

/-- A plan is within the plannable share, and it is refused exactly if the share is too
small. -/
structure PlansWithin (headroom : Nat) (unified : Bool) (fixed oneTile : Nat) : Prop where
  within : ∀ plan, planVram vramBudgetFrom (some headroom) unified fixed oneTile = .ok plan →
    fixed + plan.decode + plan.atlas ≤ (vramBudgetFrom headroom unified).toNat ∧
      oneTile ≤ plan.atlas ∧ poolMin ≤ plan.decode ∧ plan.decode ≤ poolMax
  refused : (∃ fixed' planned headroom' unified',
      planVram vramBudgetFrom (some headroom) unified fixed oneTile =
        .error (.tooSmall fixed' planned headroom' unified')) ↔
    (vramBudgetFrom headroom unified).toNat <
      fixed + decodePool (vramBudgetFrom headroom unified).toNat + oneTile

end

theorem decodePool_bounds (planned : Nat) :
    poolMin ≤ decodePool planned ∧ decodePool planned ≤ poolMax :=
  ⟨Nat.le_max_left _ _, max_le (by decide) (Nat.min_le_right _ _)⟩

section
variable {vramBudgetFrom : Nat → Bool → UInt64} {headroom fixed oneTile : Nat} {unified : Bool}

/-- The saturated sum leaves of a number of 64 bits what the true sum leaves of it. -/
theorem sub_saturatingAdd {planned : Nat} (h : planned ≤ u64Max) (a b : Nat) :
    planned - saturatingAdd a b = planned - (a + b) := by
  rw [saturatingAdd]
  omega

theorem planVram_eq : planVram vramBudgetFrom (some headroom) unified fixed oneTile =
    let planned := (vramBudgetFrom headroom unified).toNat
    let decode := decodePool planned
    if planned - (fixed + decode) < oneTile then
      .error (.tooSmall (saturatingAdd fixed decode) planned headroom unified)
    else .ok ⟨planned - (fixed + decode), decode⟩ := by
  have planned_le : (vramBudgetFrom headroom unified).toNat ≤ u64Max :=
    Nat.le_pred_of_lt (vramBudgetFrom headroom unified).toNat_lt
  rw [planVram]
  simp only [sub_saturatingAdd planned_le]

/-- What is planned of a share, where either a tile is needed or the rest fits. -/
theorem plans_within (room : oneTile = 0 →
      fixed + decodePool (vramBudgetFrom headroom unified).toNat ≤
        (vramBudgetFrom headroom unified).toNat) :
    PlansWithin vramBudgetFrom headroom unified fixed oneTile := by
  obtain ⟨hmin, hmax⟩ := decodePool_bounds (vramBudgetFrom headroom unified).toNat
  refine ⟨fun plan hplan => ?_, ⟨fun hrefused => ?_, fun small => ?_⟩⟩
  · rw [planVram_eq] at hplan
    simp only at hplan
    split at hplan
    · cases hplan
    · rename_i enough
      cases hplan
      refine ⟨?_, Nat.le_of_not_lt enough, hmin, hmax⟩
      simp only
      omega
  · obtain ⟨_, _, _, _, hrefused⟩ := hrefused
    rw [planVram_eq] at hrefused
    simp only at hrefused
    split at hrefused
    · omega
    · cases hrefused
  · have short : (vramBudgetFrom headroom unified).toNat -
        (fixed + decodePool (vramBudgetFrom headroom unified).toNat) < oneTile := by omega
    exact ⟨_, _, _, _, planVram_eq.trans (if_pos short)⟩

/-- Without a tile to hold there is a plan whatever the share is. -/
theorem room_of_plans_within (h : PlansWithin vramBudgetFrom headroom unified fixed 0) :
    fixed + decodePool (vramBudgetFrom headroom unified).toNat ≤
      (vramBudgetFrom headroom unified).toNat := by
  obtain ⟨hwithin, -⟩ := h.within _ (planVram_eq.trans (if_neg (Nat.not_lt_zero _)))
  exact (Nat.le_add_right _ _).trans hwithin

end

/-- For every share of the headroom, a plan stays within the share and is refused exactly if
the share is too small, if and only if a tile is to be held or the share has room for the
targets and the decode pool. -/
theorem vram_plan_within (vramBudgetFrom : Nat → Bool → UInt64) (headroom : Nat) (unified : Bool)
    (fixed oneTile : Nat) :
    PlansWithin vramBudgetFrom headroom unified fixed oneTile ↔
      (0 < oneTile ∨ fixed + decodePool (vramBudgetFrom headroom unified).toNat ≤
        (vramBudgetFrom headroom unified).toNat) := by
  cases oneTile with
  | zero => exact ⟨fun h => .inr (room_of_plans_within h), fun h => plans_within fun _ =>
      h.resolve_left (Nat.lt_irrefl 0)⟩
  | succ oneTile =>
      exact ⟨fun _ => .inl (Nat.succ_pos oneTile), fun _ => plans_within fun hzero =>
        absurd hzero (Nat.succ_ne_zero oneTile)⟩

/-- A share of nothing is found to hold a decode pool. -/
theorem vram_plan_can_exceed :
    planVram (fun _ _ => 0) (some 0) false 0 0 = .ok ⟨0, poolMin⟩ ∧
      ¬ PlansWithin (fun _ _ => 0) 0 false 0 0 := by
  refine ⟨rfl, fun h => ?_⟩
  have hroom := room_of_plans_within h
  exact absurd hroom (by decide)

end GpuInfo
