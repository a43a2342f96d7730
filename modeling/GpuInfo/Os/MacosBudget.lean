import GpuInfo.Os.PrimaryAdapter
import GpuInfo.Os.SystemMemory

/-!
The primary GPU of macOS (`macos_query` in `src/os.rs`) and the VRAM budget it gives: the memory
that `system_profiler` prints if it prints any, and else that of the machine, which the GPU shares.
-/

namespace GpuInfo
open MachineInteger TextFields

/-- The factor of a unit; only letters of ASCII are one of these in upper case. -/
def sizeFactor (unit : List Char) : Nat :=
  let unit := unit.map Char.toUpper
  if unit = "TB".toList then 1024 * 1024 * 1024 * 1024
  else if unit = "GB".toList then 1024 * 1024 * 1024
  else if unit = "MB".toList then 1024 * 1024
  else if unit = "KB".toList then 1024
  else 1

def chipsetModel : List Char := "Chipset Model".toList

def vramMark : List Char := "VRAM".toList

inductive ProfilerField
  | blank
  | model (name : List Char)
  /-- The memory of a card, of a kind that is told behind the mark. -/
  | memory (kind : List Char) (amount : Nat) (unit : List Char)
  | other (key text : List Char)

/-- A field, indented. -/
structure ProfilerLine where
  padding : Nat
  field : ProfilerField

namespace ProfilerField

def text : ProfilerField → List Char
  | .blank => []
  | .model name => chipsetModel ++ ':' :: ' ' :: name
  | .memory kind amount unit =>
      vramMark ++ kind ++ ':' :: ' ' :: (Nat.toDigits 10 amount ++ ' ' :: unit)
  | .other key text => key ++ ':' :: text

/-- No space at the ends, and a key that says what the field is. -/
inductive WellFormed : ProfilerField → Prop
  | blank : WellFormed .blank
  | model {name : List Char} (h : IsName name) : WellFormed (.model name)
  | memory {kind unit : List Char} {amount : Nat} (hkind : Inline kind) (mark : ':' ∉ kind)
      (hunit : unit ≠ []) (word : ∀ c ∈ unit, ¬ isWhitespace c)
      (range : amount ≤ u64Max) (fits : amount * sizeFactor unit ≤ u64Max) :
      WellFormed (.memory kind amount unit)
  | other {key text : List Char} (hkey : IsName key) (mark : ':' ∉ key)
      (model : key ≠ chipsetModel) (memory : ¬ vramMark <+: key) (inline : Inline text)
      (last : ∀ c ∈ text.getLast?, ¬ isWhitespace c) : WellFormed (.other key text)

/-- What the field sets. -/
def sets (found : List Char × Nat) : ProfilerField → List Char × Nat
  | .blank | .other _ _ => found
  | .model name => (name, found.2)
  | .memory _ amount unit => (found.1, amount * sizeFactor unit)

end ProfilerField

def ProfilerLine.print (line : ProfilerLine) : List Char :=
  List.replicate line.padding ' ' ++ line.field.text

end GpuInfo
