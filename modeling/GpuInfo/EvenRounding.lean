import Mathlib.Data.Nat.Log
import Mathlib.Algebra.Order.Group.Nat
import Mathlib.Algebra.Order.Ring.Nat
import Mathlib.Tactic.Linarith
import Mathlib.Tactic.Ring

/-!
Rounding of natural numbers to so many significant bits, to the nearest and half way to the
even one, as floating-point arithmetic does. Numbers with a binary point are natural numbers
of a small enough unit; `grid` is the least exponent that a result may have in that unit.
-/

namespace EvenRounding

/-- The multiple of `2 ^ d` that is nearest. -/
def roundAt (d n : Nat) : Nat :=
  let down := n / 2 ^ d
  let rest := n % 2 ^ d
  if 2 ^ d < 2 * rest ∨ (2 * rest = 2 ^ d ∧ down % 2 = 1) then (down + 1) * 2 ^ d
  else down * 2 ^ d

/-- The exponent of the last bit that is kept of `bits`. -/
def exponent (bits grid n : Nat) : Nat := max grid (n.log2 + 1 - bits)

def round (bits grid n : Nat) : Nat := roundAt (exponent bits grid n) n

/-! One exponent -/

section At
variable {d n m k : Nat}

theorem roundAt_cases (d n : Nat) :
    (roundAt d n = n / 2 ^ d * 2 ^ d ∧ 2 * (n % 2 ^ d) ≤ 2 ^ d) ∨
      (roundAt d n = (n / 2 ^ d + 1) * 2 ^ d ∧ 2 ^ d ≤ 2 * (n % 2 ^ d)) := by
  simp only [roundAt]
  split
  · next h => exact .inr ⟨rfl, h.elim Nat.le_of_lt fun h => h.1.ge⟩
  · next h => exact .inl ⟨rfl, Nat.le_of_not_lt fun hlt => h (.inl hlt)⟩

theorem roundAt_of_dvd (h : 2 ^ d ∣ n) : roundAt d n = n := by
  have rest : n % 2 ^ d = 0 := Nat.mod_eq_zero_of_dvd h
  have pos : 0 < 2 ^ d := Nat.two_pow_pos d
  simp only [roundAt, rest]
  rw [if_neg (by omega), Nat.div_mul_cancel h]

/-- It is at most half a step away. -/
theorem roundAt_near (d n : Nat) :
    2 * roundAt d n ≤ 2 * n + 2 ^ d ∧ 2 * n ≤ 2 * roundAt d n + 2 ^ d := by
  have split := Nat.div_add_mod' n (2 ^ d)
  have rest := Nat.mod_lt n (Nat.two_pow_pos d)
  cases roundAt_cases d n with
  | inl h =>
      rw [h.1]
      omega
  | inr h =>
      rw [h.1, Nat.add_mul, Nat.one_mul]
      omega

theorem roundAt_mono (d : Nat) (h : n ≤ m) : roundAt d n ≤ roundAt d m := by
  have down := Nat.div_le_div_right (c := 2 ^ d) h
  cases Nat.lt_or_eq_of_le down with
  | inl below =>
      have up : roundAt d n ≤ (n / 2 ^ d + 1) * 2 ^ d := by
        cases roundAt_cases d n with
        | inl h => exact h.1 ▸ Nat.mul_le_mul_right _ (Nat.le_succ _)
        | inr h => exact h.1.le
      have low : m / 2 ^ d * 2 ^ d ≤ roundAt d m := by
        cases roundAt_cases d m with
        | inl h => exact h.1.ge
        | inr h => exact h.1 ▸ Nat.mul_le_mul_right _ (Nat.le_succ _)
      exact up.trans ((Nat.mul_le_mul_right _ below).trans low)
  | inr same =>
      have rest : n % 2 ^ d ≤ m % 2 ^ d := by
        have hn := Nat.div_add_mod' n (2 ^ d)
        have hm := Nat.div_add_mod' m (2 ^ d)
        rw [same] at hn
        omega
      simp only [roundAt, same]
      split
      · next hup =>
          rw [if_pos]
          omega
      · split
        · exact Nat.mul_le_mul_right _ (Nat.le_succ _)
        · exact le_rfl

theorem roundAt_le_of_dvd (h : n ≤ k) (hk : 2 ^ d ∣ k) : roundAt d n ≤ k :=
  (roundAt_mono d h).trans (roundAt_of_dvd hk).le

theorem le_roundAt_of_dvd (h : k ≤ n) (hk : 2 ^ d ∣ k) : k ≤ roundAt d n :=
  (roundAt_of_dvd hk).ge.trans (roundAt_mono d h)

end At

/-! All exponents -/

/-- No more bits than there are, and none below the grid. -/
def Representable (bits grid n : Nat) : Prop :=
  ∃ m e, n = m * 2 ^ e ∧ m ≤ 2 ^ bits ∧ grid ≤ e

section Round
variable {bits grid n m : Nat}

theorem exponent_mono (bits grid : Nat) (h : n ≤ m) :
    exponent bits grid n ≤ exponent bits grid m := by
  have logs : n.log2 ≤ m.log2 := by
    rw [Nat.log2_eq_log_two, Nat.log2_eq_log_two]
    exact Nat.log_mono_right h
  simp only [exponent]
  omega

theorem lt_two_pow_exponent (bits grid n : Nat) : n < 2 ^ (bits + exponent bits grid n) := by
  refine Nat.lt_log2_self.trans_le (Nat.pow_le_pow_right Nat.two_pos ?_)
  simp only [exponent]
  omega

theorem exponent_le (positive : 0 < bits) (h : n < 2 ^ (bits + m)) (hm : grid ≤ m) :
    exponent bits grid n ≤ m := by
  rw [exponent]
  refine max_le hm ?_
  by_cases hn : n = 0
  · subst hn
    have : (0 : Nat).log2 = 0 := rfl
    omega
  · have := (Nat.log2_lt hn).mpr h
    omega

/-- Above the grid the first bit is one. -/
theorem two_pow_exponent_le (positive : 0 < bits) (h : grid < exponent bits grid n) :
    2 ^ (bits - 1 + exponent bits grid n) ≤ n := by
  have log : bits - 1 + exponent bits grid n = n.log2 := by
    simp only [exponent] at h ⊢
    omega
  rw [log]
  refine Nat.log2_self_le fun hzero => ?_
  subst hzero
  have : (0 : Nat).log2 = 0 := rfl
  simp only [exponent] at h
  omega

theorem round_of_representable (positive : 0 < bits) (h : Representable bits grid n) :
    round bits grid n = n := by
  obtain ⟨m, e, rfl, hm, he⟩ := h
  refine roundAt_of_dvd ?_
  cases Nat.lt_or_eq_of_le hm with
  | inl hlt =>
      have small : exponent bits grid (m * 2 ^ e) ≤ e := by
        refine exponent_le positive ?_ he
        rw [Nat.pow_add]
        exact Nat.mul_lt_mul_of_pos_right hlt (Nat.two_pow_pos e)
      exact (Nat.pow_dvd_pow 2 small).trans (Nat.dvd_mul_left _ _)
  | inr heq =>
      have small : exponent bits grid (m * 2 ^ e) ≤ e + 1 := by
        refine exponent_le positive ?_ (he.trans (Nat.le_succ e))
        rw [heq, ← Nat.pow_add]
        exact Nat.pow_lt_pow_right Nat.one_lt_two (by omega)
      refine (Nat.pow_dvd_pow 2 small).trans ?_
      rw [heq, ← Nat.pow_add]
      exact Nat.pow_dvd_pow 2 (by omega)

/-- A number of a higher exponent is above what the lower one can round to. -/
theorem round_mono (positive : 0 < bits) (h : n ≤ m) :
    round bits grid n ≤ round bits grid m := by
  cases Nat.lt_or_eq_of_le (exponent_mono bits grid h) with
  | inr same =>
      rw [round, round, same]
      exact roundAt_mono _ h
  | inl higher =>
      have up : round bits grid n ≤ 2 ^ (bits + exponent bits grid n) :=
        roundAt_le_of_dvd (lt_two_pow_exponent bits grid n).le
          (Nat.pow_dvd_pow 2 (Nat.le_add_left _ _))
      have low : 2 ^ (bits - 1 + exponent bits grid m) ≤ round bits grid m :=
        le_roundAt_of_dvd
          (two_pow_exponent_le positive ((Nat.le_max_left _ _).trans_lt higher))
          (Nat.pow_dvd_pow 2 (Nat.le_add_left _ _))
      exact up.trans ((Nat.pow_le_pow_right Nat.two_pos (by omega)).trans low)

theorem round_le (positive : 0 < bits) (h : n ≤ m) (hm : Representable bits grid m) :
    round bits grid n ≤ m :=
  (round_mono positive h).trans (round_of_representable positive hm).le

theorem le_round (positive : 0 < bits) (h : m ≤ n) (hm : Representable bits grid m) :
    m ≤ round bits grid n :=
  (round_of_representable positive hm).ge.trans (round_mono positive h)

/-- Rounding changes a number of the grid by no more than half of its last bit. -/
theorem round_near (positive : 0 < bits) (hn : 2 ^ grid ∣ n) :
    2 ^ bits * round bits grid n ≤ (2 ^ bits + 1) * n ∧
      2 ^ bits * n ≤ 2 ^ bits * round bits grid n + n := by
  by_cases h : grid < exponent bits grid n
  · have near := roundAt_near (exponent bits grid n) n
    have first := two_pow_exponent_le positive h
    have half : 2 * 2 ^ (bits - 1 + exponent bits grid n) =
        2 ^ bits * 2 ^ exponent bits grid n := by
      rw [← Nat.pow_succ', ← Nat.pow_add]
      congr 1
      omega
    have step : 2 ^ bits * 2 ^ exponent bits grid n ≤ 2 * n := by omega
    rw [round]
    constructor
    · nlinarith [Nat.mul_le_mul_left (2 ^ bits) near.1]
    · nlinarith [Nat.mul_le_mul_left (2 ^ bits) near.2]
  · have least : exponent bits grid n = grid :=
      (Nat.le_of_not_lt h).antisymm (Nat.le_max_left _ _)
    have same : round bits grid n = n := by
      rw [round, least]
      exact roundAt_of_dvd hn
    rw [same]
    exact ⟨Nat.mul_le_mul_right n (Nat.le_succ _), Nat.le_add_right _ _⟩

end Round

end EvenRounding
