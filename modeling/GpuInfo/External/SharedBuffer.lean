import GpuInfo.OwnedTokens

/-!
Buffers that two devices share (`src/external.rs`): the Vulkan objects and the handles that
exports, imports and the drops of shared buffers make and destroy, on any number of threads and
devices and with any answer of the driver. What a driver makes is none of what there is; a value
of a handle may come again once it is free. The barriers between the two sides are left out.
-/

namespace GpuInfo.External
open CallProgram OwnedTokens

inductive ExternalError
  | notVulkan
  | missingExtension (name : String)
  | noMemoryType (typeBits : BitVec 32)
  | vulkan (call result : String)
  deriving DecidableEq, Repr

def ExternalError.toString : ExternalError → String
  | .notVulkan => "not a Vulkan device"
  | .missingExtension name => "the Vulkan device lacks " ++ name
  | .noMemoryType typeBits =>
      "no device-local memory type accepts a shared buffer (type bits 0x" ++
        String.ofList (Nat.toDigits 16 typeBits.toNat) ++ ")"
  | .vulkan call result => call ++ ": " ++ result

structure MemoryRequirements where
  size : Nat
  memoryTypeBits : BitVec 32
  deriving DecidableEq, Repr

/-- What is read of a device; its memory types are 32 at most, of which the first are in
use. -/
structure Raw where
  deviceLocal : List Bool
  typesUsed : Nat
  deriving DecidableEq, Repr

/-- Where the memory of an allocation comes from. -/
inductive Source
  | exportable
  | imported (handle : Nat)
  deriving DecidableEq, Repr

inductive VkQuestion
  /-- `as_hal`, and whether the extension is enabled. -/
  | hal
  | createBuffer (size : Nat)
  | requirements (buffer : Nat)
  /-- An allocation dedicated to the buffer. -/
  | allocate (buffer size memoryType : Nat) (source : Source)
  | bind (buffer memory : Nat)
  | destroyBuffer (buffer : Nat)
  | freeMemory (memory : Nat)
  | win32Handle (memory : Nat)
  /-- `wrap`: wgpu has the buffer, and what drops it. -/
  | wrap (buffer memory size : Nat)
  | closeHandle (handle : Nat)
  deriving DecidableEq, Repr

abbrev VkQuestion.Reply : VkQuestion → Type
  | .hal => Option (Raw × Bool)
  | .createBuffer _ | .allocate _ _ _ _ | .win32Handle _ => Except String Nat
  | .requirements _ => MemoryRequirements
  | .bind _ _ => Except String Unit
  | .destroyBuffer _ | .freeMemory _ | .wrap _ _ _ | .closeHandle _ => Unit

inductive VkToken
  | buffer (id : Nat)
  | memory (id : Nat)
  | handle (value : Nat)
  deriving DecidableEq, Repr

/-- Of a buffer that is shared, the buffer and its memory. -/
def pair (buffer memory : Nat) : Multiset VkToken := {.buffer buffer, .memory memory}

/-- What may be named. A buffer is destroyed before its memory is freed; the handle that an import
names stays its caller's. -/
def VkQuestion.Allowed : VkQuestion → Multiset VkToken → Prop
  | .hal, _ | .createBuffer _, _ => True
  | .requirements buffer, owned | .allocate buffer _ _ _, owned
  | .destroyBuffer buffer, owned => .buffer buffer ∈ owned
  | .bind buffer memory, owned => .buffer buffer ∈ owned ∧ .memory memory ∈ owned
  | .freeMemory memory, owned => .memory memory ∈ owned ∧ ∀ buffer, .buffer buffer ∉ owned
  | .win32Handle memory, owned => .memory memory ∈ owned
  | .wrap buffer memory _, owned => .buffer buffer ∈ owned ∧ .memory memory ∈ owned
  | .closeHandle handle, owned => .handle handle ∈ owned

def VkQuestion.spent : VkQuestion → Multiset VkToken
  | .destroyBuffer buffer => {.buffer buffer}
  | .freeMemory memory => {.memory memory}
  | .closeHandle handle => {.handle handle}
  | .hal | .createBuffer _ | .requirements _ | .allocate _ _ _ _ | .bind _ _ | .win32Handle _
  | .wrap _ _ _ => 0

def VkQuestion.handed : VkQuestion → Multiset VkToken
  | .wrap buffer memory _ => pair buffer memory
  | .hal | .createBuffer _ | .requirements _ | .allocate _ _ _ _ | .bind _ _ | .destroyBuffer _
  | .freeMemory _ | .win32Handle _ | .closeHandle _ => 0

/-- A null handle is none. -/
def VkQuestion.made : (question : VkQuestion) → question.Reply → Multiset VkToken
  | .createBuffer _, .ok buffer => {.buffer buffer}
  | .allocate _ _ _ _, .ok memory => {.memory memory}
  | .win32Handle _, .ok handle => if handle = 0 then 0 else {.handle handle}
  | .createBuffer _, .error _ | .allocate _ _ _ _, .error _ | .win32Handle _, .error _ => 0
  | .hal, _ | .requirements _, _ | .bind _ _, _ | .destroyBuffer _, _ | .freeMemory _, _
  | .wrap _ _ _, _ | .closeHandle _, _ => 0

abbrev vulkan : Signature where
  Question := VkQuestion
  Reply := VkQuestion.Reply
  Token := VkToken
  allowed := VkQuestion.Allowed
  spent question _ := question.spent
  handed question _ := question.handed
  made := VkQuestion.made

/-- A function of the driver's answers. -/
abbrev Vk (α : Type) := Program VkQuestion VkQuestion.Reply α

def ask (question : VkQuestion) : Vk question.Reply := .call question .done

def extensionName : String := "VK_KHR_external_memory_win32"

def raw : Vk (Except ExternalError Raw) := do
  match ← ask .hal with
  | none => return .error .notVulkan
  | some (raw, enabled) =>
      if enabled then return .ok raw
      else return .error (.missingExtension extensionName)

def createBuffer (size : Nat) : Vk (Except ExternalError Nat) := do
  match ← ask (.createBuffer size) with
  | .error result => return .error (.vulkan "vkCreateBuffer" result)
  | .ok buffer => return .ok buffer

/-- The first device-local memory type that accepts the buffer. -/
def findMemoryType (requirements : MemoryRequirements) (raw : Raw) : Option Nat :=
  ((raw.deviceLocal.take raw.typesUsed).zipIdx.find? fun kind =>
    requirements.memoryTypeBits.getLsbD kind.2 ∧ kind.1).map Prod.snd

def getRequirements (buffer : Nat) (raw : Raw) :
    Vk (Except ExternalError (MemoryRequirements × Nat)) := do
  let requirements ← ask (.requirements buffer)
  match findMemoryType requirements raw with
  | none => return .error (.noMemoryType requirements.memoryTypeBits)
  | some index => return .ok (requirements, index)

def allocateAndBind (buffer size memoryType : Nat) (source : Source) :
    Vk (Except ExternalError Nat) := do
  match ← ask (.allocate buffer size memoryType source) with
  | .error result =>
      ask (.destroyBuffer buffer)
      return .error (.vulkan "vkAllocateMemory" result)
  | .ok memory =>
      match ← ask (.bind buffer memory) with
      | .error result =>
          ask (.destroyBuffer buffer)
          ask (.freeMemory memory)
          return .error (.vulkan "vkBindBufferMemory" result)
      | .ok () => return .ok memory

/-- `Owned::drop` -/
def dropOwned (buffer memory : Nat) : Vk Unit := do
  ask (.destroyBuffer buffer)
  ask (.freeMemory memory)

structure Export where
  handle : Nat
  allocation : Nat
  memoryType : Nat
  deriving DecidableEq, Repr

/-- `SharedBuffer`: the buffer of its device. -/
structure SharedBuffer where
  raw : Nat
  size : Nat
  deriving DecidableEq, Repr

def wrap (buffer memory size : Nat) : Vk SharedBuffer := do
  ask (.wrap buffer memory size)
  return ⟨buffer, size⟩

/-- `SharedBuffer::export`; what is owned is dropped where it fails. -/
def exportBuffer (size : Nat) : Vk (Except ExternalError (SharedBuffer × Export)) := do
  match ← raw with
  | .error error => return .error error
  | .ok raw =>
      match ← createBuffer size with
      | .error error => return .error error
      | .ok buffer =>
          match ← getRequirements buffer raw with
          | .error error =>
              ask (.destroyBuffer buffer)
              return .error error
          | .ok (requirements, memoryType) =>
              match ← allocateAndBind buffer requirements.size memoryType .exportable with
              | .error error => return .error error
              | .ok memory =>
                  match ← ask (.win32Handle memory) with
                  | .error result =>
                      dropOwned buffer memory
                      return .error (.vulkan "vkGetMemoryWin32HandleKHR" result)
                  | .ok handle =>
                      if handle = 0 then
                        dropOwned buffer memory
                        return .error (.vulkan "vkGetMemoryWin32HandleKHR" "a null handle")
                      else
                        let shared ← wrap buffer memory size
                        return .ok (shared, ⟨handle, requirements.size, memoryType⟩)

/-- `SharedBuffer::import`; the handle stays the caller's. -/
def importBuffer (handle allocation memoryType size : Nat) :
    Vk (Except ExternalError SharedBuffer) := do
  match ← raw with
  | .error error => return .error error
  | .ok _ =>
      match ← createBuffer size with
      | .error error => return .error error
      | .ok buffer =>
          match ← allocateAndBind buffer allocation memoryType (.imported handle) with
          | .error error => return .error error
          | .ok memory =>
              let shared ← wrap buffer memory size
              return .ok shared

end GpuInfo.External
