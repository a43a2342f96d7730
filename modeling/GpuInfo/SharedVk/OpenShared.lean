import Mathlib.Data.BitVec

/-!
The one Vulkan device that serves wgpu and a video decoder (`open_shared` in
`src/shared_vk.rs`): which queues it is planned with, what that adds to what wgpu asks the
driver for, and what is published of it. Raw handles, and the features and limits that are
passed on as they come, are left out.
-/

namespace GpuInfo

/-- `VkQueueFlags` -/
abbrev QueueFlags := BitVec 32

namespace QueueFlags

def graphics : QueueFlags := 0x1
def compute : QueueFlags := 0x2
def videoDecode : QueueFlags := 0x20

def contains (flags wanted : QueueFlags) : Bool := flags &&& wanted == wanted

end QueueFlags

structure QueueFamilyProperties where
  queueFlags : QueueFlags
  queueCount : Nat
  deriving DecidableEq, Repr

/-- The queue families of a physical device; the driver counts them in a `u32`. -/
structure QueueFamilies where
  list : List QueueFamilyProperties
  counted : list.length < 2 ^ 32

/-- What is read of an adapter of the Vulkan backend. -/
structure VulkanAdapter where
  families : QueueFamilies
  extensions : List String
  instanceApiVersion : Nat
  apiVersion : Nat

/-- A structure of the chain that a device is created with; `wgpu` is one of wgpu's own. -/
inductive FeatureStruct
  | synchronization2
  | videoDecodeVp9
  | wgpu (index : Nat)
  deriving DecidableEq, Repr

structure DeviceQueueCreateInfo where
  queueFamilyIndex : Nat
  queuePriorities : List Rat
  deriving DecidableEq

/-- What the callback of `open_with_callback` may edit. -/
structure CreateDeviceCallbackArgs where
  extensions : List String
  queueCreateInfos : List DeviceQueueCreateInfo
  next : List FeatureStruct

/-- wgpu's half: what it asks a device for, the `(family, index)` of the queue it takes from a
device that the driver creates, and whether it then adopts that device. -/
structure WgpuHal where
  requested : CreateDeviceCallbackArgs
  create : CreateDeviceCallbackArgs → Except String (Nat × Nat)
  adopt : Except String Unit

namespace SharedVk

def videoExt : List String :=
  ["VK_KHR_video_queue", "VK_KHR_video_decode_queue", "VK_KHR_video_decode_h265",
    "VK_KHR_video_decode_h264", "VK_KHR_video_decode_av1", "VK_KHR_video_decode_vp9"]

def interopExt (windows : Bool) : List String :=
  if windows then ["VK_KHR_external_semaphore_win32"] else []

def videoCore : List String := ["VK_KHR_video_queue", "VK_KHR_video_decode_queue"]

def priority : List Rat := [1]

def priorityPair : List Rat := [1, 1]

/-- The queue family wgpu renders on. -/
def wgpuFamily : Nat := 0

/-- `VK_MAKE_API_VERSION` of variant 0 and patch 0. -/
def apiVersion (major minor : Nat) : Nat := major * 2 ^ 22 + minor * 2 ^ 12

/-- Why no device is shared. -/
inductive Refusal
  | notVulkan
  | noVideoExtensions
  | noDecodeFamily
  | decodeOnMain (decode : Nat)
  | createFailed (error : String)
  | mainElsewhere (family : Nat)
  | notAdopted (error : String)
  deriving DecidableEq, Repr

/-- The line that is logged with a refusal. -/
def Refusal.message : Refusal → Option String
  | .notVulkan | .noDecodeFamily => none
  | .noVideoExtensions =>
      some "gpu-info: adapter has no Vulkan video extensions; no shared decode device"
  | .decodeOnMain decode =>
      some ("gpu-info: the only video-decode family (" ++ toString decode ++ ") is the one wgpu " ++
        "renders on; not sharing this device, because a decoder and the renderer would submit " ++
        "to one queue from two threads")
  | .createFailed error => some ("gpu-info: shared Vulkan device creation failed: " ++ error)
  | .mainElsewhere family =>
      some ("gpu-info: wgpu renders on family " ++ toString family ++ " rather than " ++
        toString wgpuFamily ++ "; not sharing this device, because the decode and compute " ++
        "queues were chosen against the wrong one")
  | .notAdopted error => some ("gpu-info: wgpu refused the shared Vulkan device: " ++ error)

def presentVideoExt (adapter : VulkanAdapter) : List String :=
  videoExt.filter fun ext => adapter.extensions.contains ext

def presentInteropExt (windows : Bool) (adapter : VulkanAdapter) : List String :=
  (interopExt windows).filter fun ext => adapter.extensions.contains ext

def sync2Possible (adapter : VulkanAdapter) : Bool :=
  apiVersion 1 3 ≤ adapter.apiVersion || adapter.extensions.contains "VK_KHR_synchronization2"

def sync2NeedsExtension (adapter : VulkanAdapter) : Bool :=
  adapter.apiVersion < apiVersion 1 3 && adapter.extensions.contains "VK_KHR_synchronization2"

section Families
variable (families : List QueueFamilyProperties)

/-- The index of a family, if `compute_family` may choose it. -/
def usable (main : Nat) (decode : Option Nat) (family : QueueFamilyProperties × Nat) :
    Option Nat :=
  let (f, idx) := family
  if idx < 2 ^ 32 ∧ f.queueFlags.contains .compute ∧ idx ≠ main ∧ some idx ≠ decode ∧
      0 < f.queueCount then some idx
  else none

def computeFamily (main : Nat) (decode : Option Nat) : Option Nat :=
  (families.zipIdx.findSome? fun family =>
      (usable main decode family).filter fun _ => !family.1.queueFlags.contains .graphics).or
    (families.zipIdx.findSome? (usable main decode))

/-- The index is cast to a `u32`. -/
def decodeFamily : Option Nat :=
  (families.findIdx? fun f => f.queueFlags.contains .videoDecode).map (· % 2 ^ 32)

/-- The queue for compute beside wgpu's and the decoder's. -/
def computeQueue (decode : Nat) : Option (Nat × Nat) :=
  match computeFamily families wgpuFamily (some decode) with
  | some f => some (f, 0)
  | none =>
      (families[wgpuFamily]?.filter fun f => 2 ≤ f.queueCount).map fun _ => (wgpuFamily, 1)

end Families

/-- What is decided before the device is created. -/
structure Plan where
  videoExt : List String
  decode : Nat
  compute : Option (Nat × Nat)
  sync2On : Bool
  extra : List String
  deriving DecidableEq, Repr

def plan (windows : Bool) (adapter : VulkanAdapter) : Except Refusal Plan :=
  let videoExt := presentVideoExt adapter
  if !videoCore.all fun ext => videoExt.contains ext then .error .noVideoExtensions
  else match decodeFamily adapter.families.list with
    | none => .error .noDecodeFamily
    | some decode =>
        if decode = wgpuFamily then .error (.decodeOnMain decode)
        else .ok {
          videoExt
          decode
          compute := computeQueue adapter.families.list decode
          sync2On := sync2Possible adapter
          extra := videoExt ++ presentInteropExt windows adapter ++
            if sync2NeedsExtension adapter then ["VK_KHR_synchronization2"] else [] }

/-- A create-info for a family, unless it has one. -/
def want (family : Nat) (infos : List DeviceQueueCreateInfo) : List DeviceQueueCreateInfo :=
  if infos.any fun q => q.queueFamilyIndex == family then infos
  else infos ++ [⟨family, priority⟩]

/-- A second queue in the family of the first create-info. -/
def pairFirst : List DeviceQueueCreateInfo → List DeviceQueueCreateInfo
  | [] => []
  | first :: rest => { first with queuePriorities := priorityPair } :: rest

namespace Plan
variable (plan : Plan)

def queueCreateInfos (infos : List DeviceQueueCreateInfo) : List DeviceQueueCreateInfo :=
  let infos := want plan.decode infos
  let infos := match plan.compute.filter fun queue => queue.1 != wgpuFamily with
    | some (family, _) => want family infos
    | none => infos
  if plan.compute = some (wgpuFamily, 1) then pairFirst infos else infos

/-- The callback. -/
def edit (args : CreateDeviceCallbackArgs) : CreateDeviceCallbackArgs where
  extensions := args.extensions ++ plan.extra
  queueCreateInfos := plan.queueCreateInfos args.queueCreateInfos
  next :=
    let next := if plan.sync2On then .synchronization2 :: args.next else args.next
    if plan.videoExt.contains "VK_KHR_video_decode_vp9" then .videoDecodeVp9 :: next else next

end Plan

end SharedVk

/-- What a consumer of the shared device is told. -/
structure VulkanShared where
  mainQueue : Nat × Nat
  decodeQueue : Option (Nat × Nat)
  computeQueue : Option (Nat × Nat)
  videoExtensions : List String
  deviceExtensions : List String
  instanceApiVersion : Nat
  deviceApiVersion : Nat
  timelineSemaphore : Bool
  synchronization2 : Bool
  samplerYcbcrConversion : Bool
  deriving DecidableEq, Repr

/-- Every queue that is published. -/
def VulkanShared.queues (shared : VulkanShared) : List (Nat × Nat) :=
  shared.mainQueue :: shared.decodeQueue.toList ++ shared.computeQueue.toList

namespace SharedVk

/-- `adapter` is `none` for an adapter of another backend. -/
def openShared (windows : Bool) (adapter : Option VulkanAdapter) (hal : WgpuHal) :
    Except Refusal VulkanShared := do
  let adapter ← match adapter with
    | none => .error .notVulkan
    | some adapter => .ok adapter
  let plan ← plan windows adapter
  let args := plan.edit hal.requested
  let mainQueue ← (hal.create args).mapError .createFailed
  if mainQueue.1 ≠ wgpuFamily then .error (.mainElsewhere mainQueue.1)
  hal.adopt.mapError .notAdopted
  return {
    mainQueue
    decodeQueue := some (plan.decode, 0)
    computeQueue := plan.compute
    videoExtensions := plan.videoExt
    deviceExtensions := args.extensions
    instanceApiVersion := adapter.instanceApiVersion
    deviceApiVersion := adapter.apiVersion
    timelineSemaphore := adapter.extensions.contains "VK_KHR_timeline_semaphore" ||
      apiVersion 1 2 ≤ adapter.apiVersion
    synchronization2 := plan.sync2On
    samplerYcbcrConversion := false }

end SharedVk

end GpuInfo
