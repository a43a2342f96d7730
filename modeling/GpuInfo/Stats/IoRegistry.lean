import GpuInfo.Binary64
import GpuInfo.OwnedTokens
import GpuInfo.Stats.GpuStats

/-!
The GPU counters of macOS (`src/stats/apple.rs`), a program of the calls of IOKit and
CoreFoundation with any answers. What is created is a reference that is to be released once; what
a dictionary holds is borrowed from it. References to one object are told apart, and of what type
an object is shows only when it is asked. No name of a key or of a class has a NUL.
-/

namespace GpuInfo.IoRegistry
open CallProgram OwnedTokens Binary64

inductive CfKind
  | dictionary
  | number
  | string
  | data
  | other
  deriving DecidableEq, Repr

/-- A reference to a CF object. -/
structure CfObject where
  id : Nat
  kind : CfKind
  deriving DecidableEq, Repr

/-- A pointer to an object that is alive as long as its holder: itself, or the dictionary that it
is in. -/
structure CfPointer where
  holder : CfObject
  kind : CfKind
  deriving DecidableEq, Repr

/-- `CfOwned::as_raw` -/
def CfObject.raw (object : CfObject) : CfPointer := ⟨object, object.kind⟩

inductive IoQuestion
  | serviceMatching (name : String)
  /-- `IOServiceGetMatchingService` -/
  | matchingService (dictionary : Nat)
  | createString (text : String)
  | property (service : Nat) (key : CfObject)
  | dictionaryValue (dictionary key : CfObject)
  | typeId (value : CfPointer)
  /-- `CFNumberGetValue`, as an `i64` and as an `f64` -/
  | numberInt (value : CfPointer)
  | numberFloat (value : CfPointer)
  /-- `CFStringGetCString` -/
  | stringBytes (value : CfPointer)
  | dataLength (value : CfPointer)
  /-- `CFDataGetBytePtr`, and as many bytes behind it. -/
  | dataBytes (value : CfPointer) (length : Nat)
  | memsize
  | release (object : CfObject)
  | releaseService (service : Nat)
  deriving DecidableEq, Repr

abbrev IoQuestion.Reply : IoQuestion → Type
  | .serviceMatching _ | .createString _ => Option Nat
  | .matchingService _ => Nat
  | .property _ _ => Option CfObject
  | .dictionaryValue dictionary _ => Option { value : CfPointer // value.holder = dictionary }
  | .typeId value => { kind : CfKind // kind = value.kind }
  | .numberInt _ => Option Int
  | .numberFloat _ => Option Double
  | .stringBytes _ => Option (List UInt8)
  | .dataLength _ => Int
  | .dataBytes _ length => Option { bytes : List UInt8 // bytes.length = length }
  | .memsize => Int × Nat
  | .release _ | .releaseService _ => Unit

inductive IoToken
  | matching (id : Nat)
  | service (id : Nat)
  | object (object : CfObject)
  deriving DecidableEq, Repr

/-- What may be named: what is alive, and each function has its type of object. -/
def IoQuestion.Allowed : IoQuestion → Multiset IoToken → Prop
  | .serviceMatching _, _ | .createString _, _ | .memsize, _ => True
  | .matchingService dictionary, owned => .matching dictionary ∈ owned
  | .property service key, owned =>
      .service service ∈ owned ∧ .object key ∈ owned ∧ key.kind = .string
  | .dictionaryValue dictionary key, owned =>
      .object dictionary ∈ owned ∧ dictionary.kind = .dictionary ∧ .object key ∈ owned
  | .typeId value, owned => .object value.holder ∈ owned
  | .numberInt value, owned | .numberFloat value, owned =>
      .object value.holder ∈ owned ∧ value.kind = .number
  | .stringBytes value, owned => .object value.holder ∈ owned ∧ value.kind = .string
  | .dataLength value, owned | .dataBytes value _, owned =>
      .object value.holder ∈ owned ∧ value.kind = .data
  | .release object, owned => .object object ∈ owned
  | .releaseService service, owned => .service service ∈ owned

/-- The dictionary of a match goes with it. -/
def IoQuestion.spent : IoQuestion → Multiset IoToken
  | .matchingService dictionary => {.matching dictionary}
  | .release object => {.object object}
  | .releaseService service => {.service service}
  | .serviceMatching _ | .createString _ | .property _ _ | .dictionaryValue _ _ | .typeId _
  | .numberInt _ | .numberFloat _ | .stringBytes _ | .dataLength _ | .dataBytes _ _ | .memsize => 0

def IoQuestion.made : (question : IoQuestion) → question.Reply → Multiset IoToken
  | .serviceMatching _, some id => {.matching id}
  | .matchingService _, service => if service = 0 then 0 else {.service service}
  | .createString _, some id => {.object ⟨id, .string⟩}
  | .property _ _, some object => {.object object}
  | .serviceMatching _, none | .createString _, none | .property _ _, none => 0
  | .dictionaryValue _ _, _ | .typeId _, _ | .numberInt _, _ | .numberFloat _, _
  | .stringBytes _, _ | .dataLength _, _ | .dataBytes _ _, _ | .memsize, _ | .release _, _
  | .releaseService _, _ => 0

abbrev iokit : Signature where
  Question := IoQuestion
  Reply := IoQuestion.Reply
  Token := IoToken
  allowed := IoQuestion.Allowed
  spent question _ := question.spent
  handed _ _ := 0
  made := IoQuestion.made

abbrev Io (α : Type) := Program IoQuestion IoQuestion.Reply α

def ask (question : IoQuestion) : Io question.Reply := .call question .done

/-- `CfKey`: an owned string. -/
structure CfKey where
  id : Nat
  deriving DecidableEq, Repr

/-- `CfKey::as_ptr` -/
def CfKey.object (key : CfKey) : CfObject := ⟨key.id, .string⟩

/-- `CfKey::new` -/
def newKey (text : String) : Io (Option CfKey) := do
  let id ← ask (.createString text)
  return id.map CfKey.mk

/-- `IoService::matching` -/
def serviceMatching (name : String) : Io (Option Nat) := do
  match ← ask (.serviceMatching name) with
  | none => return none
  | some dictionary =>
      let service ← ask (.matchingService dictionary)
      return if service = 0 then none else some service

/-- `IoService::property` -/
def property (service : Nat) (key : String) : Io (Option CfObject) := do
  match ← newKey key with
  | none => return none
  | some key =>
      let raw ← ask (.property service key.object)
      ask (.release key.object)
      return raw

/-- What is borrowed, as a number. -/
def number (value : CfPointer) : Io (Option Double) := do
  let kind ← ask (.typeId value)
  if kind.1 = .number then
    match ← ask (.numberInt value) with
    | some n => return some (.ofI64 n)
    | none => ask (.numberFloat value)
  else return none

def dictNumber (dictionary : CfObject) (key : String) : Io (Option Double) := do
  match ← newKey key with
  | none => return none
  | some key =>
      match ← ask (.dictionaryValue dictionary key.object) with
      | none =>
          ask (.release key.object)
          return none
      | some value =>
          let answer ← number value.1
          ask (.release key.object)
          return answer

/-- `str::from_utf8`, of a C string. -/
def cString (bytes : List UInt8) : Option String :=
  String.fromUTF8? ⟨(bytes.takeWhile (· ≠ 0)).toArray⟩

def decodeText (value : CfObject) : Io (Option String) := do
  let kind ← ask (.typeId value.raw)
  match kind.1 with
  | .string =>
      let bytes ← ask (.stringBytes value.raw)
      return bytes.bind cString
  | .data =>
      let length ← ask (.dataLength value.raw)
      let bytes ← ask (.dataBytes value.raw length.toNat)
      return if length ≤ 0 then none else bytes.bind fun bytes => cString bytes.1
  | .dictionary | .number | .other => return none

/-- The text of a property. -/
def text (service : Nat) (key : String) : Io (Option String) := do
  match ← property service key with
  | none => return none
  | some value =>
      let text ← decodeText value
      ask (.release value)
      return text

def sysMemsize : Io (Option Nat) := do
  let (rc, value) ← ask .memsize
  return if rc = 0 ∧ 0 < value then some value else none

/-- Neither negative nor none. -/
def usedBytes (value : Double) : Option Nat :=
  if value.isFinite ∧ Double.zero.le value then some value.toU64 else none

/-- What a build has: `cfg!(target_arch = "aarch64")`, and `(v as f32).clamp(0.0, 100.0)`. -/
structure Target (F32 : Type) where
  aarch64 : Bool
  percent : Double → F32

variable {F32 : Type} (target : Target F32)

def reading (service : Nat) (util : Option F32) (used : Option Nat) : Io (GpuStats F32) := do
  let name ← text service "model"
  let driverClass ← text service "IOClass"
  let unified := (driverClass.getD "").startsWith "AGX" || target.aarch64
  let total ← if unified then sysMemsize else pure none
  return {
    name, utilPct := util, memUsedBytes := used, memTotalBytes := total, memSharedBytes := none,
    unified, tempC := none, powerW := none, powerLimitW := none, fanPct := none,
    clockCoreMhz := none, clockMemMhz := none, memBusPct := none, driver := none }

/-- What the statistics of a service say, if it is a dictionary. -/
def counters (service : Nat) (stats : CfObject) : Io (Option (GpuStats F32)) := do
  let kind ← ask (.typeId stats.raw)
  if kind.1 = .dictionary then
    let util ← dictNumber stats "Device Utilization %"
    let used ← dictNumber stats "In use system memory"
    let util := util.map target.percent
    let used := used.bind usedBytes
    if util.isNone ∧ used.isNone then return none
    else
      let found ← reading target service util used
      return some found
  else return none

/-- One class of `query`. -/
def queryClass (name : String) : Io (Option (GpuStats F32)) := do
  match ← serviceMatching name with
  | none => return none
  | some service =>
      match ← property service "PerformanceStatistics" with
      | none =>
          ask (.releaseService service)
          return none
      | some stats =>
          let found ← counters target service stats
          ask (.release stats)
          ask (.releaseService service)
          return found

def queryClasses : List String → Io (Option (GpuStats F32))
  | [] => return none
  | name :: names => do
      match ← queryClass target name with
      | some stats => return some stats
      | none => queryClasses names

def acceleratorClasses : List String := ["IOAccelerator", "AGXAccelerator"]

/-- `apple::query` -/
def query : Io (Option (GpuStats F32)) := queryClasses target acceleratorClasses

end GpuInfo.IoRegistry
