import GpuInfo.EvenRounding
import GpuInfo.MachineInteger

/-!
Floating-point numbers of 64 bits, as far as shares and sums of numbers of bytes need them: a word
of 64 bits as a number, the conversion of a `u64` and back, the product, the sum, the order and the
clamp. A finite number is a number of units of `2 ^ -1074`, the least of the format.
-/

namespace Binary64
open EvenRounding MachineInteger

def precision : Nat := 53

/-- The exponent of 1, in units. -/
def point : Nat := 1074

inductive Double
  | nan
  | infinite (negative : Bool)
  | finite (negative : Bool) (units : Nat)
  deriving DecidableEq, Repr

namespace Double

def zero : Double := .finite false 0

def one : Double := .finite false (2 ^ point)

/-- `f64::from_bits` -/
def ofBits (bits : UInt64) : Double :=
  let negative := bits.toNat / 2 ^ 63 = 1
  let field := bits.toNat / 2 ^ 52 % 2 ^ 11
  let fraction := bits.toNat % 2 ^ 52
  if field = 2047 then if fraction = 0 then .infinite negative else .nan
  else if field = 0 then .finite negative fraction
  else .finite negative ((2 ^ 52 + fraction) * 2 ^ (field - 1))

/-- `n as f64` of a `u64` -/
def ofU64 (n : Nat) : Double := .finite false (round precision 0 n * 2 ^ point)

/-- `n as f64` of an `i64` -/
def ofI64 (n : Int) : Double := .finite (n < 0) (round precision 0 n.natAbs * 2 ^ point)

/-- `x as u64`: cut off, and saturated. -/
def toU64 : Double → Nat
  | .nan | .infinite true | .finite true _ => 0
  | .infinite false => u64Max
  | .finite false units => min (units / 2 ^ point) u64Max

/-- The number nearest to that of so many of the square of the unit. -/
def rounded (negative : Bool) (n : Nat) : Double :=
  let units := round precision point n / 2 ^ point
  if 2 ^ (1024 + point) ≤ units then .infinite negative else .finite negative units

def mul : Double → Double → Double
  | .nan, _ | _, .nan => .nan
  | .infinite s, .infinite t => .infinite (s != t)
  | .infinite s, .finite t units | .finite t units, .infinite s =>
      if units = 0 then .nan else .infinite (s != t)
  | .finite s a, .finite t b => rounded (s != t) (a * b)

def signed (negative : Bool) (units : Nat) : Int := if negative then -units else units

def lt : Double → Double → Bool
  | .nan, _ | _, .nan => false
  | .infinite s, .infinite t => s && !t
  | .infinite s, .finite _ _ => s
  | .finite _ _, .infinite t => !t
  | .finite s a, .finite t b => signed s a < signed t b

def le : Double → Double → Bool
  | .nan, _ | _, .nan => false
  | .infinite s, .infinite t => s || !t
  | .infinite s, .finite _ _ => s
  | .finite _ _, .infinite t => !t
  | .finite s a, .finite t b => signed s a ≤ signed t b

/-- Of opposite zeros, and of a number and its negative, the sum is the positive zero. -/
def add : Double → Double → Double
  | .nan, _ | _, .nan => .nan
  | .infinite s, .infinite t => if s = t then .infinite s else .nan
  | .infinite s, .finite _ _ | .finite _ _, .infinite s => .infinite s
  | .finite s a, .finite t b =>
      let sum := signed s a + signed t b
      if sum = 0 then .finite (s && t) 0 else rounded (sum < 0) (sum.natAbs * 2 ^ point)

def isFinite : Double → Bool
  | .nan | .infinite _ => false
  | .finite _ _ => true

/-- `f64::max`: of a number and what is none, the number; of equal ones, the first. -/
def max (x y : Double) : Double :=
  match x with
  | .nan => y
  | x => if x.lt y then y else x

/-- `f64::clamp` -/
def clamp (x low high : Double) : Double :=
  let x := if x.lt low then low else x
  if high.lt x then high else x

/-- What is left of a number between 0 and 1, in units. -/
def fraction : Double → Nat
  | .nan | .infinite true | .finite true _ => 0
  | .infinite false => 2 ^ point
  | .finite false units => min units (2 ^ point)

end Double

/-- So many units of each of so many bytes, in whole bytes. -/
def shareOf (bytes units : Nat) : Nat :=
  round precision point (round precision 0 bytes * 2 ^ point * units) / 2 ^ point / 2 ^ point

theorem precision_pos : 0 < precision := by decide

theorem representable_of_le {m e grid : Nat} (hm : m ≤ 2 ^ precision) (he : grid ≤ e) :
    Representable precision grid (m * 2 ^ e) := ⟨m, e, rfl, hm, he⟩

theorem shareOf_mono {bytes bytes' units units' : Nat} (hbytes : bytes ≤ bytes')
    (hunits : units ≤ units') : shareOf bytes units ≤ shareOf bytes' units' := by
  refine Nat.div_le_div_right (Nat.div_le_div_right (round_mono precision_pos ?_))
  exact Nat.mul_le_mul (Nat.mul_le_mul_right _ (round_mono precision_pos hbytes)) hunits

theorem shareOf_zero (bytes : Nat) : shareOf bytes 0 = 0 := by
  have none : round precision point 0 = 0 :=
    round_of_representable precision_pos ⟨0, point, (Nat.zero_mul _).symm, Nat.zero_le _, le_rfl⟩
  rw [shareOf, Nat.mul_zero, none, Nat.zero_div, Nat.zero_div]

/-- The product of a `u64` and a number of at most 1 is far from infinite. -/
theorem rounded_share {bytes units : Nat} (hbytes : bytes ≤ u64Max)
    (hunits : units ≤ 2 ^ point) (negative : Bool) :
    Double.rounded negative (round precision 0 bytes * 2 ^ point * units) =
      .finite negative
        (round precision point (round precision 0 bytes * 2 ^ point * units) / 2 ^ point) := by
  have number : round precision 0 bytes ≤ 2 ^ 64 := by
    refine round_le precision_pos (hbytes.trans (Nat.sub_le _ _)) ⟨1, 64, ?_, ?_, Nat.zero_le _⟩
    · exact (Nat.one_mul _).symm
    · exact Nat.one_le_two_pow
  have product : round precision 0 bytes * 2 ^ point * units ≤ 2 ^ 64 * 2 ^ point * 2 ^ point :=
    Nat.mul_le_mul (Nat.mul_le_mul_right _ number) hunits
  have result : round precision point (round precision 0 bytes * 2 ^ point * units) ≤
      2 ^ 64 * 2 ^ point * 2 ^ point := by
    refine round_le precision_pos product ⟨1, 64 + point + point, ?_, Nat.one_le_two_pow, ?_⟩
    · rw [Nat.one_mul, Nat.pow_add, Nat.pow_add]
    · exact Nat.le_add_left _ _
  have units_le : round precision point (round precision 0 bytes * 2 ^ point * units) / 2 ^ point ≤
      2 ^ 64 * 2 ^ point := Nat.div_le_of_le_mul (by rwa [Nat.mul_comm (2 ^ point)])
  rw [Double.rounded, if_neg]
  refine Nat.not_le_of_lt (units_le.trans_lt ?_)
  rw [← Nat.pow_add]
  exact Nat.pow_lt_pow_right Nat.one_lt_two (by decide)

namespace Double

theorem lt_finite (a b : Nat) : lt (.finite false a) (.finite false b) = decide (a < b) := by
  simp [lt, signed]

theorem lt_negativeZero (a : Nat) : lt (.finite false a) (.finite true 0) = false := by
  simp [lt, signed]

theorem one_lt_zero : one.lt zero = false := by
  rw [one, zero, lt_finite]
  exact decide_eq_false (Nat.not_lt_zero _)

theorem clamp_of_low {x : Double} (low : x.lt zero = true) : x.clamp zero one = zero := by
  simp only [clamp, if_pos low, one_lt_zero, Bool.false_eq_true, if_false]

theorem clamp_of_high {x : Double} (low : x.lt zero = false) (high : one.lt x = true) :
    x.clamp zero one = one := by
  simp only [clamp, low, high, Bool.false_eq_true, if_false, if_true]

theorem clamp_of_inside {x : Double} (low : x.lt zero = false) (high : one.lt x = false) :
    x.clamp zero one = x := by
  simp only [clamp, low, high, Bool.false_eq_true, if_false]

/-- A clamped number is no number, or between 0 and 1. -/
theorem clamp_share (x : Double) :
    x.clamp zero one = .nan ∧ x.fraction = 0 ∨
      ∃ negative, x.clamp zero one = .finite negative x.fraction ∧
        (negative = true → x.fraction = 0) := by
  cases x with
  | nan => exact .inl ⟨rfl, rfl⟩
  | infinite negative =>
      refine .inr ⟨false, ?_, fun h => (by cases h)⟩
      cases negative with
      | true => exact clamp_of_low rfl
      | false => exact clamp_of_high rfl rfl
  | finite negative units =>
      cases negative with
      | true =>
          refine .inr ?_
          by_cases hzero : units = 0
          · subst hzero
            have high : one.lt (.finite true 0) = false := lt_negativeZero _
            exact ⟨true, clamp_of_inside rfl high, fun _ => rfl⟩
          · have low : lt (.finite true units) zero = true := by
              simp [lt, zero, signed, Nat.pos_of_ne_zero hzero]
            exact ⟨false, clamp_of_low low, fun h => (by cases h)⟩
      | false =>
          refine .inr ⟨false, ?_, fun h => (by cases h)⟩
          have low : lt (.finite false units) zero = false := by
            rw [zero, lt_finite]
            exact decide_eq_false (Nat.not_lt_zero _)
          by_cases h : 2 ^ point < units
          · rw [clamp_of_high low (by rw [one, lt_finite, decide_eq_true h]), fraction,
              Nat.min_eq_right h.le]
            rfl
          · rw [clamp_of_inside low (by rw [one, lt_finite, decide_eq_false h]), fraction,
              Nat.min_eq_left (Nat.le_of_not_lt h)]

theorem fraction_le (x : Double) : x.fraction ≤ 2 ^ point := by
  cases x with
  | nan => exact Nat.zero_le _
  | infinite negative =>
      cases negative with
      | true => exact Nat.zero_le _
      | false => exact le_rfl
  | finite negative units =>
      cases negative with
      | true => exact Nat.zero_le _
      | false => exact Nat.min_le_right _ _

/-- What of so many bytes a fraction is, in the arithmetic of the format. -/
theorem toU64_share {bytes : Nat} (hbytes : bytes ≤ u64Max) (x : Double) :
    ((ofU64 bytes).mul (x.clamp zero one)).toU64 = min (shareOf bytes x.fraction) u64Max := by
  cases clamp_share x with
  | inl h =>
      rw [h.1, h.2, shareOf_zero]
      rfl
  | inr h =>
      obtain ⟨negative, hclamp, hzero⟩ := h
      rw [hclamp, ofU64, mul, rounded_share hbytes x.fraction_le]
      cases negative with
      | false => rfl
      | true =>
          rw [hzero rfl, shareOf_zero]
          rfl

theorem fraction_mono {x y : Double} (h : x.le y = true) : x.fraction ≤ y.fraction := by
  cases x with
  | nan => exact Nat.zero_le _
  | infinite s =>
      cases s with
      | true => exact Nat.zero_le _
      | false =>
          cases y with
          | nan => cases h
          | infinite t =>
              cases t with
              | true => cases h
              | false => exact le_rfl
          | finite t b => cases h
  | finite s a =>
      cases s with
      | true => exact Nat.zero_le _
      | false =>
          cases y with
          | nan => cases h
          | infinite t =>
              cases t with
              | true => cases h
              | false =>
                  rw [fraction, fraction]
                  exact Nat.min_le_right _ _
          | finite t b =>
              have hle : (a : Int) ≤ signed t b := of_decide_eq_true h
              cases t with
              | true =>
                  have hle : (a : Int) ≤ -(b : Int) := hle
                  have hzero : a = 0 := by omega
                  rw [fraction, fraction, hzero, Nat.zero_min]
              | false =>
                  have hle : (a : Int) ≤ (b : Int) := hle
                  rw [fraction, fraction]
                  exact min_le_min_right _ (Int.ofNat_le.mp hle)

end Double

/-! How near a share is -/

/-- Whole numbers of bytes are numbers of the format up to `2 ^ 53`. -/
theorem whole_representable {n : Nat} (h : n ≤ 2 ^ precision) :
    Representable precision point (n * (2 ^ point * 2 ^ point)) := by
  rw [← Nat.pow_add]
  exact representable_of_le h (Nat.le_add_left _ _)

theorem round_bytes {bytes : Nat} (h : bytes ≤ 2 ^ precision) :
    round precision 0 bytes = bytes :=
  round_of_representable precision_pos ⟨bytes, 0, (Nat.mul_one _).symm, h, le_rfl⟩

/-- Of up to `2 ^ 53` bytes it is the exact share, rounded down or up. -/
theorem shareOf_between {bytes units : Nat} (hbytes : bytes ≤ 2 ^ precision)
    (hunits : units ≤ 2 ^ point) :
    bytes * units / 2 ^ point ≤ shareOf bytes units ∧
      shareOf bytes units ≤ (bytes * units + (2 ^ point - 1)) / 2 ^ point := by
  have pos : 0 < 2 ^ point := Nat.two_pow_pos point
  have most : bytes * units ≤ bytes * 2 ^ point := Nat.mul_le_mul_left bytes hunits
  have square : bytes * 2 ^ point * units = bytes * units * 2 ^ point := by ring
  rw [shareOf, round_bytes hbytes, Nat.div_div_eq_div_mul, square]
  constructor
  · have down : bytes * units / 2 ^ point ≤ 2 ^ precision :=
      (Nat.div_le_of_le_mul (by rwa [Nat.mul_comm (2 ^ point)])).trans hbytes
    refine (Nat.le_div_iff_mul_le (Nat.mul_pos pos pos)).mpr
      (le_round precision_pos ?_ (whole_representable down))
    rw [← Nat.mul_assoc]
    exact Nat.mul_le_mul_right _ (Nat.div_mul_le_self _ _)
  · have up : (bytes * units + (2 ^ point - 1)) / 2 ^ point ≤ 2 ^ precision := by
      refine le_trans ?_ hbytes
      refine Nat.le_of_lt_succ ((Nat.div_lt_iff_lt_mul pos).mpr ?_)
      rw [Nat.succ_mul]
      omega
    refine Nat.div_le_of_le_mul ?_
    rw [Nat.mul_comm (2 ^ point * 2 ^ point)]
    refine round_le precision_pos ?_ (whole_representable up)
    rw [← Nat.mul_assoc]
    refine Nat.mul_le_mul_right _ ?_
    have split := Nat.div_add_mod' (bytes * units + (2 ^ point - 1)) (2 ^ point)
    have rest := Nat.mod_lt (bytes * units + (2 ^ point - 1)) pos
    omega

/-- It is exact if the product has no more bits than there are. -/
theorem shareOf_exact {bytes m k : Nat} (hbytes : bytes ≤ 2 ^ precision)
    (product : bytes * m ≤ 2 ^ precision) (hk : k ≤ point) :
    shareOf bytes (m * 2 ^ (point - k)) = bytes * m / 2 ^ k := by
  have whole : bytes * 2 ^ point * (m * 2 ^ (point - k)) =
      bytes * m * 2 ^ (point + (point - k)) := by
    rw [Nat.pow_add]
    ring
  have scale : 2 ^ point * 2 ^ point = 2 ^ k * 2 ^ (point + (point - k)) := by
    rw [← Nat.pow_add, ← Nat.pow_add]
    congr 1
    omega
  rw [shareOf, round_bytes hbytes, whole, round_of_representable precision_pos
    (representable_of_le product (Nat.le_add_right _ _)), Nat.div_div_eq_div_mul, scale,
    Nat.mul_div_mul_right _ _ (Nat.two_pow_pos _)]

/-- Of any number of bytes it is at most two roundings more than the exact share. -/
theorem shareOf_le (bytes units : Nat) :
    2 ^ precision * 2 ^ precision * (shareOf bytes units * 2 ^ point) ≤
      (2 ^ precision + 1) * (2 ^ precision + 1) * (bytes * units) := by
  have pos : 0 < 2 ^ point := Nat.two_pow_pos point
  have number := (round_near precision_pos (show 2 ^ 0 ∣ bytes from one_dvd bytes)).1
  have product := (round_near precision_pos
    (Nat.dvd_mul_right_of_dvd (Nat.dvd_mul_left (2 ^ point) (round precision 0 bytes)) units)).1
  have cut : shareOf bytes units * (2 ^ point * 2 ^ point) ≤
      round precision point (round precision 0 bytes * 2 ^ point * units) := by
    rw [shareOf, Nat.div_div_eq_div_mul]
    exact Nat.div_mul_le_self _ _
  refine Nat.le_of_mul_le_mul_right ?_ pos
  calc 2 ^ precision * 2 ^ precision * (shareOf bytes units * 2 ^ point) * 2 ^ point
      = 2 ^ precision * (2 ^ precision * (shareOf bytes units * (2 ^ point * 2 ^ point))) := by
        ring
    _ ≤ 2 ^ precision * ((2 ^ precision + 1) * (round precision 0 bytes * 2 ^ point * units)) :=
        Nat.mul_le_mul_left _ ((Nat.mul_le_mul_left _ cut).trans product)
    _ = (2 ^ precision + 1) * (2 ^ precision * round precision 0 bytes) * (2 ^ point * units) := by
        ring
    _ ≤ (2 ^ precision + 1) * ((2 ^ precision + 1) * bytes) * (2 ^ point * units) :=
        Nat.mul_le_mul_right _ (Nat.mul_le_mul_left _ number)
    _ = (2 ^ precision + 1) * (2 ^ precision + 1) * (bytes * units) * 2 ^ point := by ring

/-- A share of up to three quarters of a number of bytes is not more than these. -/
theorem shareOf_le_bytes {bytes units : Nat} (h : 4 * units ≤ 3 * 2 ^ point) :
    shareOf bytes units ≤ bytes := by
  have pos : 0 < 2 ^ precision * 2 ^ precision * 2 ^ point * 4 := by positivity
  have room : (2 ^ precision + 1) * (2 ^ precision + 1) * 3 ≤
      2 ^ precision * 2 ^ precision * 4 := by decide
  refine Nat.le_of_mul_le_mul_right ?_ pos
  calc shareOf bytes units * (2 ^ precision * 2 ^ precision * 2 ^ point * 4)
      = 2 ^ precision * 2 ^ precision * (shareOf bytes units * 2 ^ point) * 4 := by ring
    _ ≤ (2 ^ precision + 1) * (2 ^ precision + 1) * (bytes * units) * 4 :=
        Nat.mul_le_mul_right 4 (shareOf_le bytes units)
    _ = (2 ^ precision + 1) * (2 ^ precision + 1) * bytes * (4 * units) := by ring
    _ ≤ (2 ^ precision + 1) * (2 ^ precision + 1) * bytes * (3 * 2 ^ point) :=
        Nat.mul_le_mul_left _ h
    _ = (2 ^ precision + 1) * (2 ^ precision + 1) * 3 * (bytes * 2 ^ point) := by ring
    _ ≤ 2 ^ precision * 2 ^ precision * 4 * (bytes * 2 ^ point) := Nat.mul_le_mul_right _ room
    _ = bytes * (2 ^ precision * 2 ^ precision * 2 ^ point * 4) := by ring

/-! Sums of whole numbers -/

namespace Double

/-- A whole number that has no more bits than there are. -/
def whole (n : Nat) : Double := .finite false (n * 2 ^ point)

theorem whole_add {a b : Nat} (h : a + b ≤ 2 ^ precision) :
    (whole a).add (whole b) = whole (a + b) := by
  have sum : signed false (a * 2 ^ point) + signed false (b * 2 ^ point) =
      ((a + b) * 2 ^ point : Nat) := by
    simp only [signed, Bool.false_eq_true, if_false]
    push_cast
    ring
  have units : round precision point ((a + b) * 2 ^ point * 2 ^ point) / 2 ^ point =
      (a + b) * 2 ^ point := by
    rw [Nat.mul_assoc, round_of_representable precision_pos (whole_representable h),
      ← Nat.mul_assoc, Nat.mul_div_cancel _ (Nat.two_pow_pos point)]
  have below : (a + b) * 2 ^ point < 2 ^ (1024 + point) := by
    refine (Nat.mul_le_mul h le_rfl).trans_lt ?_
    rw [← Nat.pow_add]
    exact Nat.pow_lt_pow_right Nat.one_lt_two (Nat.add_lt_add_right (by decide) point)
  simp only [add, whole, sum]
  split
  · next hzero =>
      rw [Int.natCast_eq_zero.mp hzero, Bool.and_false]
  · rw [Int.natAbs_natCast, rounded, units, if_neg (Nat.not_le_of_lt below),
      decide_eq_false (Int.not_lt.mpr (Int.natCast_nonneg _))]

/-- Added up one after the other, up to `2 ^ 53` nothing is lost. -/
theorem whole_sum (numbers : List Nat) (start : Nat) (h : start + numbers.sum ≤ 2 ^ precision) :
    (numbers.map whole).foldl add (whole start) = whole (start + numbers.sum) := by
  induction numbers generalizing start with
  | nil => rfl
  | cons n numbers ih =>
      rw [List.sum_cons, ← Nat.add_assoc] at h ⊢
      rw [List.map_cons, List.foldl_cons, whole_add (le_of_add_le_left h)]
      exact ih _ h

theorem zero_eq_whole : zero = whole 0 := by
  rw [zero, whole, Nat.zero_mul]

theorem whole_le {a b : Nat} (h : a ≤ b) : (whole a).le (whole b) = true := by
  simp only [le, whole, signed, Bool.false_eq_true, if_false, decide_eq_true_eq]
  exact Int.ofNat_le.mpr (Nat.mul_le_mul_right _ h)

theorem toU64_whole (n : Nat) : ((whole n).max zero).toU64 = min n u64Max := by
  have low : (whole n).lt zero = false := by
    rw [whole, zero, lt_finite]
    exact decide_eq_false (Nat.not_lt_zero _)
  have same : (whole n).max zero = whole n := by
    show (if (whole n).lt zero then zero else whole n) = whole n
    rw [low]
    rfl
  rw [same, whole, toU64, Nat.mul_div_cancel _ (Nat.two_pow_pos point)]

/-! The greatest of several -/

theorem le_refl_of_ne {x : Double} (h : x ≠ .nan) : x.le x = true := by
  cases x with
  | nan => exact absurd rfl h
  | infinite s => cases s <;> rfl
  | finite s a => simp [le]

theorem le_trans {x y z : Double} (h : x.le y = true) (h' : y.le z = true) : x.le z = true := by
  cases x <;> cases y <;> cases z <;> simp_all [le]
  · next s t u => cases s <;> cases t <;> simp_all
  · exact Int.le_trans h h'

/-- Numbers can be compared. -/
theorem le_of_not_lt {x y : Double} (hx : x ≠ .nan) (hy : y ≠ .nan) (h : x.lt y = false) :
    y.le x = true := by
  cases x <;> cases y <;> simp_all [le, lt]
  next s t => cases s <;> cases t <;> simp_all

theorem le_of_lt {x y : Double} (h : x.lt y = true) : x.le y = true := by
  cases x <;> cases y <;> simp_all [le, lt]
  exact Int.le_of_lt h

theorem max_of_ne {x : Double} (h : x ≠ .nan) (y : Double) :
    x.max y = if x.lt y then y else x := by
  cases x with
  | nan => exact absurd rfl h
  | infinite s => rfl
  | finite s a => rfl

theorem le_max {x y : Double} (hx : x ≠ .nan) (hy : y ≠ .nan) :
    x.le (x.max y) = true ∧ y.le (x.max y) = true ∧ (x.max y = x ∨ x.max y = y) := by
  rw [max_of_ne hx]
  cases hlt : x.lt y with
  | true => exact ⟨le_of_lt hlt, le_refl_of_ne hy, .inr rfl⟩
  | false => exact ⟨le_refl_of_ne hx, le_of_not_lt hx hy hlt, .inl rfl⟩

/-- The greatest of several numbers is one of them, and none is greater. -/
theorem foldl_max {numbers : List Double} {start : Double} (hstart : start ≠ .nan)
    (h : ∀ x ∈ numbers, x ≠ .nan) :
    let greatest := numbers.foldl max start
    (greatest = start ∨ greatest ∈ numbers) ∧ start.le greatest = true ∧
      ∀ x ∈ numbers, x.le greatest = true := by
  induction numbers generalizing start with
  | nil => exact ⟨.inl rfl, le_refl_of_ne hstart, fun x hx => absurd hx List.not_mem_nil⟩
  | cons y numbers ih =>
      obtain ⟨left, right, either⟩ := le_max hstart (h y List.mem_cons_self)
      have number : start.max y ≠ .nan := by
        cases either with
        | inl heq =>
            rw [heq]
            exact hstart
        | inr heq =>
            rw [heq]
            exact h y List.mem_cons_self
      obtain ⟨one, above, all⟩ := ih number fun x hx => h x (List.mem_cons_of_mem y hx)
      refine ⟨?_, le_trans left above, fun x hx => ?_⟩
      · cases one with
        | inl heq =>
            cases either with
            | inl hleft => exact .inl (heq.trans hleft)
            | inr hright => exact .inr (List.mem_cons.mpr (.inl (heq.trans hright)))
        | inr hmem => exact .inr (List.mem_cons_of_mem y hmem)
      · cases List.mem_cons.mp hx with
        | inl heq =>
            rw [heq]
            exact le_trans right above
        | inr hmem => exact all x hmem

theorem clamp_within {x low high : Double} (hx : x ≠ .nan) (hlow : low ≠ .nan)
    (hhigh : high ≠ .nan) (h : low.le high = true) :
    low.le (x.clamp low high) = true ∧ (x.clamp low high).le high = true := by
  unfold clamp
  cases hbelow : x.lt low with
  | true =>
      simp only [if_true]
      cases habove : high.lt low with
      | true => exact ⟨h, le_refl_of_ne hhigh⟩
      | false => exact ⟨le_refl_of_ne hlow, h⟩
  | false =>
      simp only [Bool.false_eq_true, if_false]
      cases habove : high.lt x with
      | true => exact ⟨h, le_refl_of_ne hhigh⟩
      | false => exact ⟨le_of_not_lt hx hlow hbelow, le_of_not_lt hhigh hx habove⟩

/-- A sum that starts with a number stays one as finite numbers are added. -/
theorem foldl_add_ne_nan {numbers : List Double} {start : Double} (hstart : start ≠ .nan)
    (h : ∀ x ∈ numbers, x.isFinite = true) : numbers.foldl add start ≠ .nan := by
  induction numbers generalizing start with
  | nil => exact hstart
  | cons x numbers ih =>
      refine ih ?_ fun y hy => h y (List.mem_cons_of_mem x hy)
      have finite := h x List.mem_cons_self
      cases x with
      | nan => cases finite
      | infinite s => cases finite
      | finite t b =>
          cases start with
          | nan => exact absurd rfl hstart
          | infinite s => simp [add]
          | finite s a =>
              simp only [add, rounded]
              split
              · simp
              · split <;> simp

end Double

end Binary64
