import GpuInfo.SortedMap
import Mathlib.Data.BitVec
import Mathlib.Data.String.Basic

/-!
JSON values as `serde_json` keeps them, and when it takes two of them to be equal. An object
is a map in the order of its keys. Numbers of different kinds are different, and a float is
finite.
-/

namespace GpuInfo

/-- A finite `f64`, by its bits: not every bit of the exponent is set. -/
structure FiniteF64 where
  bits : BitVec 64
  finite : bits.extractLsb 62 52 ≠ BitVec.allOnes 11
  deriving DecidableEq

namespace FiniteF64

def isZero (x : FiniteF64) : Bool := x.bits <<< 1 == 0

/-- Finite floats of different bits are equal if they are the two zeros. -/
instance : BEq FiniteF64 where
  beq x y := x.bits == y.bits || x.isZero && y.isZero

theorem beq_iff {x y : FiniteF64} : (x == y) = true ↔
    x.bits = y.bits ∨ x.isZero = true ∧ y.isZero = true := by
  show (x.bits == y.bits || x.isZero && y.isZero) = true ↔ _
  simp

instance : EquivBEq FiniteF64 where
  rfl := beq_iff.mpr (.inl rfl)
  symm h := by
    rw [beq_iff] at h ⊢
    exact h.imp Eq.symm And.symm
  trans := by
    intro x y z hxy hyz
    rw [beq_iff] at hxy hyz ⊢
    have isZero_congr : ∀ {x y : FiniteF64}, x.bits = y.bits → x.isZero = y.isZero := fun h => by
      rw [isZero, isZero, h]
    obtain hxy | ⟨hx, hy⟩ := hxy
    · rw [hxy, isZero_congr hxy]
      exact hyz
    · obtain hyz | ⟨-, hz⟩ := hyz
      · exact .inr ⟨hx, (isZero_congr hyz) ▸ hy⟩
      · exact .inr ⟨hx, hz⟩

end FiniteF64

/-- A negative integer is never kept as `posInt`. -/
inductive Number
  | posInt (n : UInt64)
  | negInt (n : Int64)
  | float (x : FiniteF64)
  deriving DecidableEq

instance : BEq Number where
  beq
    | .posInt n, .posInt m => n == m
    | .negInt n, .negInt m => n == m
    | .float x, .float y => x == y
    | _, _ => false

theorem Number.beq_comm (n m : Number) : (n == m) = (m == n) := by
  cases n with
  | posInt n =>
      cases m with
      | posInt m => exact (BEq.comm : (n == m) = (m == n))
      | _ => rfl
  | negInt n =>
      cases m with
      | negInt m => exact (BEq.comm : (n == m) = (m == n))
      | _ => rfl
  | float x =>
      cases m with
      | float y => exact (BEq.comm : (x == y) = (y == x))
      | _ => rfl

inductive Json
  | null
  | bool (b : Bool)
  | number (n : Number)
  | string (s : String)
  | array (elements : List Json)
  | object (entries : List (String × Json))

namespace Json

mutual

/-- `PartialEq` of a `Value`. -/
def beq : Json → Json → Bool
  | .null, .null => true
  | .bool b, .bool c => b == c
  | .number n, .number m => n == m
  | .string s, .string t => s == t
  | .array elements, .array elements' => beqElements elements elements'
  | .object entries, .object entries' => beqEntries entries entries'
  | _, _ => false

def beqElements : List Json → List Json → Bool
  | [], [] => true
  | a :: elements, b :: elements' => a.beq b && beqElements elements elements'
  | _, _ => false

def beqEntries : List (String × Json) → List (String × Json) → Bool
  | [], [] => true
  | (k, a) :: entries, (l, b) :: entries' => k == l && a.beq b && beqEntries entries entries'
  | _, _ => false

end

instance : BEq Json := ⟨beq⟩

theorem beqElements_iff {elements elements' : List Json} :
    beqElements elements elements' = true ↔
      List.Forall₂ (fun a b => (a == b) = true) elements elements' := by
  induction elements generalizing elements' with
  | nil => cases elements' <;> simp [beqElements]
  | cons a elements ih =>
      cases elements' with
      | nil => simp [beqElements]
      | cons b elements' =>
          rw [beqElements, Bool.and_eq_true, List.forall₂_cons, ih]
          rfl

theorem beqEntries_iff {entries entries' : List (String × Json)} :
    beqEntries entries entries' = true ↔
      List.Forall₂ (fun x y => x.1 = y.1 ∧ (x.2 == y.2) = true) entries entries' := by
  induction entries generalizing entries' with
  | nil => cases entries' <;> simp [beqEntries]
  | cons x entries ih =>
      cases entries' with
      | nil => simp [beqEntries]
      | cons y entries' =>
          rw [beqEntries, Bool.and_eq_true, Bool.and_eq_true, beq_iff_eq, List.forall₂_cons, ih]
          rfl

/-- The entries of every object are a map. -/
inductive Canonical : Json → Prop
  | null : Canonical .null
  | bool (b : Bool) : Canonical (.bool b)
  | number (n : Number) : Canonical (.number n)
  | string (s : String) : Canonical (.string s)
  | array {elements : List Json} (h : ∀ a ∈ elements, Canonical a) : Canonical (.array elements)
  | object {entries : List (String × Json)} (sorted : SortedMap.Sorted entries)
      (h : ∀ entry ∈ entries, Canonical entry.2) : Canonical (.object entries)

theorem Canonical.sorted {entries : List (String × Json)} (h : (Json.object entries).Canonical) :
    SortedMap.Sorted entries := by
  cases h
  assumption

theorem Canonical.of_lookup {entries : List (String × Json)} (h : (Json.object entries).Canonical)
    {k : String} {a : Json} (hlookup : entries.lookup k = some a) : a.Canonical := by
  cases h with
  | object _ hentries => exact hentries (k, a) (SortedMap.mem_of_lookup hlookup)

theorem Canonical.of_getElem? {elements : List Json} (h : (Json.array elements).Canonical)
    {i : Nat} {a : Json} (hget : elements[i]? = some a) : a.Canonical := by
  cases h with
  | array helements => exact helements a (List.mem_of_getElem? hget)

end Json

/-- A `serde_json::Value`. -/
structure Value where
  json : Json
  canonical : json.Canonical

end GpuInfo
