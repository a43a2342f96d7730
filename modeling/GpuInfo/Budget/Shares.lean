import GpuInfo.Binary64
import GpuInfo.Budget.VramPlan
import GpuInfo.Os.GpuMemory

/-!
The shares of the memory that a process may use, in floating point (`ram_budget_from`,
`ram_budget`, `ram_budget_or` and `vram_budget_from` in `src/budget.rs`).
Floats are known by their bits. A budget grows with what there is and with the fraction, up to
`2 ^ 53` bytes it is exact to a byte, and a plan of the VRAM holds in a larger headroom too.
-/

namespace GpuInfo
open Binary64 MachineInteger

inductive Policy
  | installed
  | available
  | min
  deriving DecidableEq, Repr

def ramShare (base : Nat) (fraction : UInt64) (reserve : Nat) : Nat :=
  min ((Double.ofU64 base).mul ((Double.ofBits fraction).clamp .zero .one)).toU64 (base - reserve)

def ramBudgetFrom (total avail : Nat) (policy : Policy) (fraction : UInt64) (reserve : Nat) :
    Nat :=
  match policy with
  | .installed => ramShare total fraction reserve
  | .available => ramShare avail fraction reserve
  | .min => min (ramShare total fraction reserve) (avail - reserve)

/-- The physical memory, installed and available, as the system reports it. -/
structure SysMem where
  totalBytes : Nat
  availableBytes : Nat
  deriving DecidableEq, Repr

def ram (sysMem : Option SysMem) : Except BudgetError (Nat × Nat) :=
  match sysMem with
  | none => .error .unknownRam
  | some memory => .ok (memory.totalBytes, memory.availableBytes)

def ramBudget (sysMem : Option SysMem) (policy : Policy) (fraction : UInt64) (reserve : Nat) :
    Except BudgetError Nat := do
  let (total, avail) ← ram sysMem
  return ramBudgetFrom total avail policy fraction reserve

def ramBudgetOr (override : Option Nat) (sysMem : Option SysMem) (policy : Policy)
    (fraction : UInt64) (reserve : Nat) : Except BudgetError Nat :=
  match override with
  | some budget => .ok budget
  | none => ramBudget sysMem policy fraction reserve

/-- `VRAM_SHARE`, 0.66 -/
def vramShareDiscrete : UInt64 := 0x3FE51EB851EB851F

/-- `VRAM_SHARE_UNIFIED`, 0.25 -/
def vramShareUnified : UInt64 := 0x3FD0000000000000

def vramShare (unified : Bool) : UInt64 :=
  if unified then vramShareUnified else vramShareDiscrete

def vramBudgetFrom (headroom : Nat) (unified : Bool) : UInt64 :=
  .ofNat ((Double.ofU64 headroom).mul (Double.ofBits (vramShare unified))).toU64

/-! The RAM budget -/

theorem ramShare_eq {base : Nat} (hbase : base ≤ u64Max) (fraction : UInt64) (reserve : Nat) :
    ramShare base fraction reserve =
      min (shareOf base (Double.ofBits fraction).fraction) (base - reserve) := by
  rw [ramShare, Double.toU64_share hbase, Nat.min_assoc]
  congr 1
  exact Nat.min_eq_right ((Nat.sub_le base reserve).trans hbase)

theorem ramShare_mono {base base' reserve reserve' : Nat} {fraction fraction' : UInt64}
    (hbase : base ≤ base') (hbase' : base' ≤ u64Max)
    (hfraction : (Double.ofBits fraction).le (Double.ofBits fraction') = true)
    (hreserve : reserve' ≤ reserve) :
    ramShare base fraction reserve ≤ ramShare base' fraction' reserve' := by
  rw [ramShare_eq (hbase.trans hbase'), ramShare_eq hbase']
  exact min_le_min (shareOf_mono hbase (Double.fraction_mono hfraction)) (by omega)

/-- The figure that the fraction is taken of. -/
def Policy.base (policy : Policy) (total avail : Nat) : Nat :=
  match policy with
  | .installed | .min => total
  | .available => avail

/-- What the budget may not be more than. -/
def Policy.cap (policy : Policy) (total avail reserve : Nat) : Nat :=
  match policy with
  | .installed => total - reserve
  | .available => avail - reserve
  | .min => Min.min (total - reserve) (avail - reserve)

theorem ramBudgetFrom_eq {total avail : Nat} (htotal : total ≤ u64Max) (havail : avail ≤ u64Max)
    (policy : Policy) (fraction : UInt64) (reserve : Nat) :
    ramBudgetFrom total avail policy fraction reserve =
      min (shareOf (policy.base total avail) (Double.ofBits fraction).fraction)
        (policy.cap total avail reserve) := by
  cases policy with
  | installed => exact ramShare_eq htotal fraction reserve
  | available => exact ramShare_eq havail fraction reserve
  | min =>
      rw [ramBudgetFrom, ramShare_eq htotal, Nat.min_assoc]
      rfl

theorem ramBudgetFrom_le_cap {total avail : Nat} (htotal : total ≤ u64Max)
    (havail : avail ≤ u64Max) (policy : Policy) (fraction : UInt64) (reserve : Nat) :
    ramBudgetFrom total avail policy fraction reserve ≤ policy.cap total avail reserve := by
  rw [ramBudgetFrom_eq htotal havail]
  exact Nat.min_le_right _ _

/-- More memory, a larger fraction or a smaller reserve never makes the budget smaller. -/
theorem ram_budget_mono {total total' avail avail' reserve reserve' : Nat}
    {fraction fraction' : UInt64} (policy : Policy)
    (htotal : total ≤ total') (htotal' : total' ≤ u64Max)
    (havail : avail ≤ avail') (havail' : avail' ≤ u64Max)
    (hfraction : (Double.ofBits fraction).le (Double.ofBits fraction') = true)
    (hreserve : reserve' ≤ reserve) :
    ramBudgetFrom total avail policy fraction reserve ≤
      ramBudgetFrom total' avail' policy fraction' reserve' := by
  cases policy with
  | installed => exact ramShare_mono htotal htotal' hfraction hreserve
  | available => exact ramShare_mono havail havail' hfraction hreserve
  | min => exact min_le_min (ramShare_mono htotal htotal' hfraction hreserve) (by omega)

theorem ram_budget_mono_more :
    ramBudgetFrom 8589934592 1073741824 .min 0x3FE0000000000000 4096 ≤
      ramBudgetFrom 17179869184 4294967296 .min 0x3FE8000000000000 0 :=
  ram_budget_mono .min (by decide) (by decide) (by decide) (by decide) (by decide +kernel)
    (by decide)

/-- The budget is the formula of its policy, on any machine within its cap, on one of up to
`2 ^ 53` bytes to within a byte, and exactly where the fraction has few bits. -/
theorem ram_budget_formula {total avail : Nat} (htotal : total ≤ u64Max)
    (havail : avail ≤ u64Max) (policy : Policy) (fraction : UInt64) (reserve : Nat) :
    let base := policy.base total avail
    let cap := policy.cap total avail reserve
    let units := (Double.ofBits fraction).fraction
    let budget := ramBudgetFrom total avail policy fraction reserve
    budget ≤ cap ∧
      (base ≤ 2 ^ precision → min (base * units / 2 ^ point) cap ≤ budget ∧
        budget ≤ min ((base * units + (2 ^ point - 1)) / 2 ^ point) cap) ∧
      ∀ m k, k ≤ point → units = m * 2 ^ (point - k) → base ≤ 2 ^ precision →
        base * m ≤ 2 ^ precision → budget = min (base * m / 2 ^ k) cap := by
  intro base cap units budget
  have hbudget : budget = min (shareOf base units) cap :=
    ramBudgetFrom_eq htotal havail policy fraction reserve
  refine ⟨ramBudgetFrom_le_cap htotal havail policy fraction reserve, fun small => ?_,
    fun m k hk few small product => ?_⟩
  · obtain ⟨low, high⟩ := shareOf_between small (Double.fraction_le (Double.ofBits fraction))
    rw [hbudget]
    exact ⟨min_le_min_right _ low, min_le_min_right _ high⟩
  · rw [hbudget, few]
    congr 1
    exact shareOf_exact small product hk

/-- Half of the installed memory, unless less is free: here all bytes count. -/
theorem ram_budget_formula_half :
    let base := Policy.min.base 17179869184 4294967296
    let cap := Policy.min.cap 17179869184 4294967296 0
    let units := (Double.ofBits 0x3FE0000000000000).fraction
    let budget := ramBudgetFrom 17179869184 4294967296 .min 0x3FE0000000000000 0
    budget ≤ cap ∧
      (base ≤ 2 ^ precision → min (base * units / 2 ^ point) cap ≤ budget ∧
        budget ≤ min ((base * units + (2 ^ point - 1)) / 2 ^ point) cap) ∧
      ∀ m k, k ≤ point → units = m * 2 ^ (point - k) → base ≤ 2 ^ precision →
        base * m ≤ 2 ^ precision → budget = min (base * m / 2 ^ k) cap :=
  ram_budget_formula (by decide) (by decide) .min 0x3FE0000000000000 0

/-! The VRAM budget -/

/-- A share is a number between 0 and 1. -/
theorem vramShare_inside (unified : Bool) : (Double.ofBits (vramShare unified)).clamp .zero .one =
    Double.ofBits (vramShare unified) := by
  cases unified <;> decide +kernel

/-- The share of unified memory is the smaller one, and no share is above three quarters. -/
theorem vramShare_fractions : (Double.ofBits (vramShare true)).fraction ≤
      (Double.ofBits (vramShare false)).fraction ∧
    4 * (Double.ofBits (vramShare false)).fraction ≤ 3 * 2 ^ point := by
  decide +kernel

theorem vramShare_mono {unified unified' : Bool} (h : unified' = true → unified = true) :
    (Double.ofBits (vramShare unified)).fraction ≤
      (Double.ofBits (vramShare unified')).fraction := by
  cases unified with
  | false =>
      cases unified' with
      | false => exact le_rfl
      | true => cases h rfl
  | true =>
      cases unified' with
      | false => exact vramShare_fractions.1
      | true => exact le_rfl

theorem vramBudgetFrom_eq {headroom : Nat} (h : headroom ≤ u64Max) (unified : Bool) :
    (vramBudgetFrom headroom unified).toNat =
      min (shareOf headroom (Double.ofBits (vramShare unified)).fraction) u64Max := by
  rw [vramBudgetFrom, ← vramShare_inside, Double.toU64_share h, vramShare_inside]
  refine UInt64.toNat_ofNat_of_lt ((Nat.min_le_right _ _).trans_lt ?_)
  exact Nat.pred_lt (Nat.two_pow_pos 64).ne'

theorem vramBudgetFrom_mono {headroom headroom' : Nat} {unified unified' : Bool}
    (h : headroom ≤ headroom') (h' : headroom' ≤ u64Max)
    (hunified : unified' = true → unified = true) :
    (vramBudgetFrom headroom unified).toNat ≤ (vramBudgetFrom headroom' unified').toNat := by
  rw [vramBudgetFrom_eq (h.trans h'), vramBudgetFrom_eq h']
  exact min_le_min_right _ (shareOf_mono h (vramShare_mono hunified))

theorem vramBudgetFrom_le {headroom : Nat} (h : headroom ≤ u64Max) (unified : Bool) :
    (vramBudgetFrom headroom unified).toNat ≤ headroom := by
  have quarters : 4 * (Double.ofBits (vramShare unified)).fraction ≤ 3 * 2 ^ point :=
    (Nat.mul_le_mul_left 4 (vramShare_mono fun h => (by cases h))).trans vramShare_fractions.2
  rw [vramBudgetFrom_eq h]
  exact (Nat.min_le_left _ _).trans (shareOf_le_bytes quarters)

theorem decodePool_mono {planned planned' : Nat} (h : planned ≤ planned') :
    decodePool planned ≤ decodePool planned' :=
  max_le_max le_rfl (min_le_min_right _ (Nat.div_le_div_right h))

/-- Of what is added to the share, the decode pool takes a part. -/
theorem rest_mono {planned planned' fixed fixed' : Nat} (h : planned ≤ planned')
    (hfixed : fixed' ≤ fixed) :
    planned - (fixed + decodePool planned) ≤ planned' - (fixed' + decodePool planned') := by
  have hmin : poolMin = 67108864 := rfl
  have hmax : poolMax = 268435456 := rfl
  simp only [decodePool, clamp, poolDiv, hmin, hmax]
  omega

/-- What is planned of some headroom can be planned of more, of a card with memory of its own
instead of a unified one, and with less to hold; and the plan only grows. With a tile to hold
it stays within the headroom. -/
theorem vram_plan_grows {headroom headroom' fixed fixed' oneTile oneTile' : Nat}
    {unified unified' : Bool} (h : headroom ≤ headroom') (h' : headroom' ≤ u64Max)
    (hunified : unified' = true → unified = true) (hfixed : fixed' ≤ fixed)
    (htile : oneTile' ≤ oneTile) {plan : VramPlan}
    (planned : planVram vramBudgetFrom (some headroom) unified fixed oneTile = .ok plan) :
    (0 < oneTile → fixed + plan.decode + plan.atlas ≤ headroom) ∧
      ∃ plan', planVram vramBudgetFrom (some headroom') unified' fixed' oneTile' = .ok plan' ∧
        plan.decode ≤ plan'.decode ∧ plan.atlas ≤ plan'.atlas := by
  have more := vramBudgetFrom_mono h h' hunified
  refine ⟨fun tile => ?_, ?_⟩
  · have within : PlansWithin vramBudgetFrom headroom unified fixed oneTile :=
      plans_within fun hzero => absurd hzero tile.ne'
    exact (within.within plan planned).1.trans (vramBudgetFrom_le (h.trans h') unified)
  · rw [planVram_eq] at planned ⊢
    simp only at planned ⊢
    split at planned
    · cases planned
    · next enough =>
        cases planned
        have rest := rest_mono more hfixed
        exact ⟨_, if_neg (by omega), decodePool_mono more, rest⟩

theorem vram_plan_grows_doubled :
    (0 < 1 → 0 + 67108864 + 201326592 ≤ 1073741824) ∧
      ∃ plan', planVram vramBudgetFrom (some 2147483648) false 0 1 = .ok plan' ∧
        67108864 ≤ plan'.decode ∧ 201326592 ≤ plan'.atlas :=
  vram_plan_grows (show 1073741824 ≤ 2147483648 by decide) (by decide)
    (fun h => (by cases h)) le_rfl le_rfl (show planVram vramBudgetFrom (some 1073741824) true 0 1 =
      .ok ⟨201326592, 67108864⟩ by decide +kernel)

end GpuInfo
