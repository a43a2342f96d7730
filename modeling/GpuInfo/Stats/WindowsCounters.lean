import GpuInfo.Binary64
import GpuInfo.GroupedValues
import GpuInfo.Stats.Attribution
import GpuInfo.TextFields
import Mathlib.Data.List.Sort

/-!
The counters of Windows (`src/stats/windows.rs`): the adapters that DXGI describes, and the
instances of a PDH counter, whose names say to which adapter they belong. Each instance is counted
for one adapter, memory is exact to the byte, and the utilisation is that of the busiest type of
engine. What becomes of a 64-bit float in 32 bits is a parameter.
-/

namespace GpuInfo
open Binary64 GroupedValues TextFields

/-! Adapters -/

structure Luid where
  high : Int32
  low : UInt32
  deriving DecidableEq, Repr

def hexDigit (value : Nat) : Char := "0123456789ABCDEF".toList.getD value '0'

def hex : Nat → Nat → List Char
  | 0, _ => []
  | width + 1, value => hex width (value / 16) ++ [hexDigit (value % 16)]

/-- `luid_tag`, without the character it begins with. -/
def luidRest (luid : Luid) : List Char :=
  "uid_0x".toList ++ hex 8 luid.high.toUInt32.toNat ++ ("_0x".toList ++ hex 8 luid.low.toNat)

def luidTag (luid : Luid) : List Char := 'l' :: luidRest luid

/-- `String::from_utf16_lossy` -/
def fromUtf16Lossy : List UInt16 → List Char
  | [] => []
  | [unit] =>
      if 0xD800 ≤ unit ∧ unit < 0xE000 then ['\uFFFD'] else [Char.ofNat unit.toNat]
  | unit :: next :: units =>
      if 0xD800 ≤ unit ∧ unit < 0xDC00 ∧ 0xDC00 ≤ next ∧ next < 0xE000 then
        Char.ofNat (0x10000 + (unit.toNat - 0xD800) * 0x400 + (next.toNat - 0xDC00)) ::
          fromUtf16Lossy units
      else if 0xD800 ≤ unit ∧ unit < 0xE000 then '\uFFFD' :: fromUtf16Lossy (next :: units)
      else Char.ofNat unit.toNat :: fromUtf16Lossy (next :: units)

def describe (raw : List UInt16) : String :=
  String.ofList (trim (fromUtf16Lossy (raw.takeWhile (· ≠ 0))))

/-- `DXGI_ADAPTER_DESC1` -/
structure AdapterDesc where
  description : List UInt16
  software : Bool
  dedicatedVideoMemory : Nat
  sharedSystemMemory : Nat
  luid : Luid

/-- An `Adapter` with its tag. -/
structure TaggedAdapter extends Adapter where
  luidTag : List Char

def AdapterDesc.adapter (desc : AdapterDesc) : Option TaggedAdapter :=
  let unified := desc.dedicatedVideoMemory == 0
  let totalBytes := if unified then desc.sharedSystemMemory else desc.dedicatedVideoMemory
  if desc.software ∨ totalBytes = 0 then none
  else some
    { name := describe desc.description, totalBytes, sharedBytes := desc.sharedSystemMemory,
      unified, luidTag := luidTag desc.luid }

/-- `Adapter::open_all`, of the adapters that are enumerated; some do not describe themselves. -/
def openAll (enumerated : List (Option AdapterDesc)) : List TaggedAdapter :=
  let list := enumerated.filterMap fun desc => desc.bind AdapterDesc.adapter
  let list := if list.any (!·.unified) then list.filter (!·.unified) else list
  list.insertionSort fun a b => b.totalBytes ≤ a.totalBytes

/-! Counters -/

/-- An instance of a counter; a name may be no text. -/
structure CounterItem where
  name : Option (List Char)
  value : Double

inductive PdhAnswer
  | items (items : List CounterItem)
  | moreData
  | failed

/-- `Counters::format`: asked once more if the buffer is too small. -/
def format (answers : PdhAnswer × PdhAnswer) : Option (List CounterItem) :=
  match answers.1 with
  | .items [] | .failed => none
  | .items items => some items
  | .moreData =>
      match answers.2 with
      | .items [] | .moreData | .failed => none
      | .items items => some items

/-- What `for_each` visits. -/
def visited (luid : List Char) (items : List CounterItem) : List (List Char × Double) :=
  items.filterMap fun item => item.name.bind fun name =>
    if contains luid name ∧ item.value.isFinite then some (name, item.value) else none

def knownEngines : List (List Char) :=
  ["3D", "Copy", "Compute", "VideoDecode", "VideoEncode", "VideoProcessing", "Security",
    "Graphics_1"].map String.toList

def engineType (name : List Char) : List Char :=
  (knownEngines.find? (· = name)).getD "other".toList

/-- `name.split("engtype_").nth(1)` -/
def engineName (name : List Char) : Option (List Char) :=
  (afterFirst "engtype_".toList name).map (beforeFirst "engtype_".toList)

def hundred : Double := Double.whole 100

variable {F32 : Type} (toF32 : Double → F32)

/-- The instances by the type of their engine, as far as their names have one. -/
def engines (luid : List Char) (items : List CounterItem) : List (List Char × Double) :=
  (visited luid items).filterMap fun found =>
    (engineName found.1).map fun engine => (engineType engine, found.2)

def busiestEngine (luid : List Char) (answers : PdhAnswer × PdhAnswer) : Option F32 :=
  (format answers).map fun items =>
    let totals := groups Double.add (engines luid items)
    let busiest := (totals.map Prod.snd).foldl Double.max Double.zero
    toF32 (busiest.clamp Double.zero hundred)

def memoryUsed (luid : List Char) (answers : PdhAnswer × PdhAnswer) : Option Nat :=
  (format answers).map fun items =>
    (((visited luid items).map Prod.snd).foldl Double.add Double.zero |>.max Double.zero).toU64

/-- What PDH gives for the three counters when it is asked for one adapter. -/
structure Poll where
  util : PdhAnswer × PdhAnswer
  dedicated : PdhAnswer × PdhAnswer
  shared : PdhAnswer × PdhAnswer

def sampleCollected (poll : Poll) (luid : List Char) (unified : Bool) : Sample F32 where
  utilPct := busiestEngine toF32 luid poll.util
  used := if unified then memoryUsed luid poll.shared else memoryUsed luid poll.dedicated
  spilled := if unified then none else memoryUsed luid poll.shared

/-- `windows::query_all`; there is no poll if the query cannot be opened or collected. -/
def countersQueryAll (adapters : List TaggedAdapter) (poll : Option (Nat → Poll)) :
    List (GpuStats F32) :=
  windowsQueryAll (adapters.map TaggedAdapter.toAdapter) <|
    match poll with
    | none => adapters.map fun _ => ⟨none, none, none⟩
    | some poll => adapters.zipIdx.map fun entry =>
        sampleCollected toF32 (poll entry.2) entry.1.luidTag entry.1.unified

end GpuInfo
