import Mathlib.Data.Nat.Init
import Mathlib.Algebra.Order.Group.Nat

/-!
Unsigned 64-bit arithmetic on natural numbers. The checked operations stop at a
`Fault` where the plain operators of a debug build panic and those of a release
build wrap, so that a proof that no fault is reached covers both.
-/

namespace MachineInteger

def u64Max : Nat := 2 ^ 64 - 1

inductive Fault
  | overflow
  | underflow
  | emptyRemove
  deriving DecidableEq, Repr

def add64 (a b : Nat) : Except Fault Nat :=
  if a + b ≤ u64Max then .ok (a + b) else .error .overflow

def sub64 (a b : Nat) : Except Fault Nat :=
  if b ≤ a then .ok (a - b) else .error .underflow

/-- `u64::saturating_add`. -/
def saturatingAdd (a b : Nat) : Nat := min (a + b) u64Max

/-- `u64::saturating_mul`. -/
def saturatingMul (a b : Nat) : Nat := min (a * b) u64Max

/-- `u64::checked_add`. -/
def checkedAdd (a b : Nat) : Option Nat := if a + b ≤ u64Max then some (a + b) else none

/-- `u64::checked_mul`. -/
def checkedMul (a b : Nat) : Option Nat := if a * b ≤ u64Max then some (a * b) else none

/-- A build decides what becomes of a plain operator that overflows: a debug build panics, a
release build wraps. -/
inductive Build
  | debug
  | release
  deriving DecidableEq, Repr

/-- `u64::mul` -/
def Build.mul (build : Build) (a b : Nat) : Except Fault Nat :=
  if a * b ≤ u64Max then .ok (a * b)
  else match build with
    | .debug => .error .overflow
    | .release => .ok (a * b % 2 ^ 64)

/-- `u32::mul` -/
def Build.mul32 (build : Build) (a b : Nat) : Except Fault Nat :=
  if a * b < 2 ^ 32 then .ok (a * b)
  else match build with
    | .debug => .error .overflow
    | .release => .ok (a * b % 2 ^ 32)

/-- `u64::add` -/
def Build.add (build : Build) (a b : Nat) : Except Fault Nat :=
  if a + b ≤ u64Max then .ok (a + b)
  else match build with
    | .debug => .error .overflow
    | .release => .ok ((a + b) % 2 ^ 64)

/-- `u64::sub` -/
def Build.sub (build : Build) (a b : Nat) : Except Fault Nat :=
  if b ≤ a then .ok (a - b)
  else match build with
    | .debug => .error .underflow
    | .release => .ok ((a + (2 ^ 64 - b)) % 2 ^ 64)

@[simp] theorem add64_of_le {a b : Nat} (h : a + b ≤ u64Max) : add64 a b = .ok (a + b) :=
  if_pos h

@[simp] theorem sub64_of_le {a b : Nat} (h : b ≤ a) : sub64 a b = .ok (a - b) := if_pos h

@[simp] theorem ok_bind {ε α β : Type} (a : α) (f : α → Except ε β) :
    (Except.ok a >>= f) = f a := rfl

@[simp] theorem error_bind {ε α β : Type} (e : ε) (f : α → Except ε β) :
    ((Except.error e : Except ε α) >>= f) = .error e := rfl

theorem sub64_eq_ok {a b c : Nat} : sub64 a b = .ok c ↔ b ≤ a ∧ c = a - b := by
  unfold sub64
  split <;> simp_all [eq_comm]

theorem add64_eq_ok {a b c : Nat} : add64 a b = .ok c ↔ a + b ≤ u64Max ∧ c = a + b := by
  unfold add64
  split <;> simp_all [eq_comm]

/-! Several checked operations in a row stop only where the whole result does not fit -/

/-- A number, if 64 bits hold it. -/
def fit64 (n : Nat) : Option Nat := if n ≤ u64Max then some n else none

/-- A step back from the result: what precedes it is no greater. -/
theorem fit64_bind {a b : Nat} (hle : a ≤ b) : ((fit64 a).bind fun _ => fit64 b) = fit64 b := by
  unfold fit64
  by_cases fits : a ≤ u64Max
  · rw [if_pos fits, Option.bind_some]
  · rw [if_neg fits, Option.bind_none]
    exact (if_neg fun h => fits (hle.trans h)).symm

theorem fit64_bind_eq (a : Nat) (f : Nat → Option Nat) :
    (fit64 a).bind f = (fit64 a).bind fun _ => f a := by
  unfold fit64
  split <;> rfl

theorem fit64_bind_checkedMul {a b : Nat} (hb : 0 < b) :
    ((fit64 a).bind fun n => checkedMul n b) = fit64 (a * b) := by
  rw [fit64_bind_eq]
  exact fit64_bind (Nat.le_mul_of_pos_right a hb)

theorem fit64_bind_checkedMul_bind {a b : Nat} (hb : 0 < b) (f : Nat → Option Nat) :
    ((fit64 a).bind fun n => (checkedMul n b).bind f) = (fit64 (a * b)).bind f := by
  rw [← fit64_bind_checkedMul hb, Option.bind_assoc]

theorem fit64_bind_checkedAdd (a b : Nat) : (fit64 a).bind (checkedAdd b) = fit64 (b + a) := by
  rw [fit64_bind_eq]
  exact fit64_bind (Nat.le_add_left a b)

namespace Build
variable {build : Build} {a b c : Nat}

theorem mul_of_le (h : a * b ≤ u64Max) : build.mul a b = .ok (a * b) := if_pos h

theorem mul32_of_lt (h : a * b < 2 ^ 32) : build.mul32 a b = .ok (a * b) := if_pos h

theorem add_of_le (h : a + b ≤ u64Max) : build.add a b = .ok (a + b) := if_pos h

theorem debug_mul_eq_ok : debug.mul a b = .ok c ↔ a * b ≤ u64Max ∧ c = a * b := by
  unfold mul
  split <;> simp_all [eq_comm]

theorem debug_mul_of_exceeds (h : ¬ a * b ≤ u64Max) : debug.mul a b = .error .overflow := if_neg h

theorem release_mul (a b : Nat) : release.mul a b = .ok (a * b % 2 ^ 64) := by
  unfold mul
  split
  · rename_i h
    rw [Nat.mod_eq_of_lt (Nat.lt_of_le_of_lt h (by decide))]
  · rfl

end Build

theorem checkedAdd_eq_some {a b c : Nat} :
    checkedAdd a b = some c ↔ a + b ≤ u64Max ∧ c = a + b := by
  unfold checkedAdd
  split <;> simp_all [eq_comm]

end MachineInteger
