import Mathlib.Data.Nat.Digits.Lemmas

/-!
Numbers as they lie in memory, the lowest byte first. As many bytes as a number fits in give it
back, and of one count no other bytes do.
-/

namespace LittleEndian

/-- `u64::from_le_bytes` and its kind. -/
def fromBytes (bytes : List UInt8) : Nat := Nat.ofDigits 256 (bytes.map UInt8.toNat)

/-- The lowest bytes of a number. -/
def toBytes : Nat → Nat → List UInt8
  | 0, _ => []
  | count + 1, value => UInt8.ofNat value :: toBytes count (value / 256)

@[simp]
theorem length_toBytes (count value : Nat) : (toBytes count value).length = count := by
  induction count generalizing value with
  | zero => rfl
  | succ count ih => rw [toBytes, List.length_cons, ih]

theorem fromBytes_cons (byte : UInt8) (bytes : List UInt8) :
    fromBytes (byte :: bytes) = byte.toNat + 256 * fromBytes bytes := by
  rw [fromBytes, List.map_cons, Nat.ofDigits_cons, fromBytes]

theorem fromBytes_append (bytes more : List UInt8) :
    fromBytes (bytes ++ more) = fromBytes bytes + 256 ^ bytes.length * fromBytes more := by
  rw [fromBytes, List.map_append, Nat.ofDigits_append, List.length_map, fromBytes, fromBytes]

theorem fromBytes_toBytes {count value : Nat} (h : value < 256 ^ count) :
    fromBytes (toBytes count value) = value := by
  induction count generalizing value with
  | zero =>
      have zero : value = 0 := by simpa using h
      rw [zero]
      rfl
  | succ count ih =>
      have rest : value / 256 < 256 ^ count := by
        rw [Nat.div_lt_iff_lt_mul (by decide), ← Nat.pow_succ]
        exact h
      rw [toBytes, fromBytes_cons, ih rest, UInt8.toNat_ofNat']
      exact Nat.mod_add_div value 256

/-- The digits of a number to the base 256 are its bytes. -/
theorem digit_lt {bytes : List UInt8} : ∀ digit ∈ bytes.map UInt8.toNat, digit < 256 := by
  intro digit hdigit
  obtain ⟨byte, -, rfl⟩ := List.mem_map.mp hdigit
  exact byte.toNat_lt

theorem fromBytes_lt (bytes : List UInt8) : fromBytes bytes < 256 ^ bytes.length := by
  have bound := Nat.ofDigits_lt_base_pow_length (by decide : 1 < 256) ((@digit_lt bytes))
  rwa [List.length_map] at bound

theorem fromBytes_inj {bytes other : List UInt8} (hlength : bytes.length = other.length)
    (h : fromBytes bytes = fromBytes other) : bytes = other := by
  have digits := Nat.ofDigits_inj_of_len_eq (by decide : 1 < 256)
    (by rw [List.length_map, List.length_map, hlength]) digit_lt digit_lt h
  exact List.map_injective_iff.mpr (fun _ _ => UInt8.toNat_inj.mp) digits

end LittleEndian
