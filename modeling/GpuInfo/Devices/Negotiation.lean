import GpuInfo.OnceCellRuns
import GpuInfo.SharedVk.ComputeDevice

/-!
The devices of a process (`shared_device`, `compute_device_status` and `auto_compute_device` in
`src/lib.rs`), asked for by any number of threads. Each is negotiated by its first caller, after
the module is pinned, and one device of the process is created at a time. What wgpu and the
loader answer, and whether a call to wgpu unwinds, is up to the world.
-/

namespace GpuInfo.Devices
open OnceCells OnceCells.Program

/-- `wgpu::Features` -/
abbrev Features := BitVec 128

/-- The sets of features that the code names. -/
structure FeatureSets where
  all : Features
  experimental : Features
  mappablePrimaryBuffers : Features

/-- `stable_features` -/
def FeatureSets.stable (sets : FeatureSets) : Features :=
  (sets.all &&& ~~~sets.experimental) &&& ~~~sets.mappablePrimaryBuffers

inductive DeviceType
  | other
  | integratedGpu
  | discreteGpu
  | virtualGpu
  | cpu
  deriving DecidableEq, Repr

/-- What is read of a `wgpu::Adapter`; handles are numbers. -/
structure WgpuAdapter where
  id : Nat
  name : String
  deviceType : DeviceType
  features : Features
  deriving DecidableEq, Repr

structure OpenedDevice where
  device : Nat
  queue : Nat
  deriving DecidableEq, Repr

structure SharedGpu where
  device : Nat
  queue : Nat
  adapter : WgpuAdapter
  instance' : Nat
  vulkan : Option VulkanShared
  deriving DecidableEq, Repr

structure ComputeGpu where
  device : Nat
  queue : Nat
  adapter : WgpuAdapter
  instance' : Nat
  opticalFlow : Option OpticalFlow
  raw : Option VulkanHandles
  deriving DecidableEq, Repr

/-- The statics of the process: `SHARED`, `COMPUTE` and `AUTO`. -/
inductive DeviceCell
  | shared
  | compute
  | auto
  deriving DecidableEq, Repr

abbrev DeviceCell.Value : DeviceCell → Type
  | .shared => Option SharedGpu
  | .compute | .auto => Except String ComputeGpu

/-- `DEVICE_CREATION` -/
inductive DeviceLock
  | deviceCreation
  deriving DecidableEq, Repr

inductive DeviceQuestion
  | pinContainingModule
  /-- `wgpu::Instance::new` of `shared_instance_descriptor` -/
  | newInstance
  /-- The high-performance adapter that is no fallback. -/
  | requestAdapter (instance' : Nat)
  /-- Devices are created with these features. -/
  | openShared (adapter : WgpuAdapter) (features : Features)
  | openCompute (adapter : WgpuAdapter) (features : Features)
  | requestDevice (adapter : WgpuAdapter) (features : Features)
  deriving DecidableEq, Repr

abbrev DeviceQuestion.Reply : DeviceQuestion → Type
  | .pinContainingModule => Except String Unit
  | .newInstance => Nat
  | .requestAdapter _ => Except String WgpuAdapter
  | .openShared _ _ => Option (OpenedDevice × VulkanShared)
  | .openCompute _ _ =>
      Except String (OpenedDevice × Option OpticalFlow × Option VulkanHandles)
  | .requestDevice _ _ => Except String OpenedDevice

/-- A caller holds what it initializes, and then the lock. -/
def deviceRank : DeviceCell ⊕ DeviceLock → Nat
  | .inl .auto => 2
  | .inl .shared | .inl .compute => 1
  | .inr .deviceCreation => 0

abbrev devices : Signature where
  Cell := DeviceCell
  Value := DeviceCell.Value
  Lock := DeviceLock
  Question := DeviceQuestion
  Reply := DeviceQuestion.Reply
  rank := deviceRank

/-- The intersection with what the adapter has is what is asked for. -/
def requestMaxDevice (adapter : WgpuAdapter) (extraFeatures : Features) :
    Program devices (Except String OpenedDevice) :=
  perform (S := devices) (.requestDevice adapter (extraFeatures &&& adapter.features))

section Initializers
variable (sets : FeatureSets)

def sharedDevice : Program devices (Option SharedGpu) := do
  match ← perform (S := devices) .pinContainingModule with
  | .error _ => return none
  | .ok () =>
      let instance' ← perform (S := devices) .newInstance
      match ← perform (S := devices) (.requestAdapter instance') with
      | .error _ => return none
      | .ok adapter =>
          hold (S := devices) .deviceCreation
          let stable := sets.stable
          match ← perform (S := devices) (.openShared adapter (stable &&& adapter.features)) with
          | some (opened, vulkan) =>
              return some ⟨opened.device, opened.queue, adapter, instance', some vulkan⟩
          | none =>
              match ← requestMaxDevice adapter stable with
              | .error _ => return none
              | .ok opened =>
                  return some ⟨opened.device, opened.queue, adapter, instance', none⟩

/-- `open_compute_device`; not every target has a Vulkan backend. -/
def openComputeDevice (vulkanTarget : Bool) (adapter : WgpuAdapter) (instance' : Nat)
    (features : Features) : Program devices (Except String ComputeGpu) := do
  if vulkanTarget then
    match ← perform (S := devices) (.openCompute adapter features) with
    | .error error => return .error error
    | .ok (opened, opticalFlow, raw) =>
        return .ok ⟨opened.device, opened.queue, adapter, instance', opticalFlow, raw⟩
  else
    match ← requestMaxDevice adapter features with
    | .error error => return .error (ComputeVk.refused adapter.name error)
    | .ok opened => return .ok ⟨opened.device, opened.queue, adapter, instance', none, none⟩

def computeDeviceStatus (vulkanTarget : Bool) : Program devices (Except String ComputeGpu) := do
  match ← perform (S := devices) .pinContainingModule with
  | .error error => return .error ("the plug-in module cannot be pinned: " ++ error)
  | .ok () =>
      let instance' ← perform (S := devices) .newInstance
      match ← perform (S := devices) (.requestAdapter instance') with
      | .error error => return .error ("no high-performance compute adapter: " ++ error)
      | .ok adapter =>
          hold (S := devices) .deviceCreation
          openComputeDevice vulkanTarget adapter instance' (sets.stable &&& adapter.features)

end Initializers

def softwareReason (adapter : WgpuAdapter) : Option String :=
  if adapter.deviceType = .cpu then
    some ("only a software adapter (" ++ adapter.name ++
      ") is available: Auto computes on the CPU")
  else none

def autoComputeDevice : Program devices (Except String ComputeGpu) := do
  match ← need (S := devices) .compute with
  | .error reason => return .error reason
  | .ok gpu =>
      match softwareReason gpu.adapter with
      | some reason => return .error reason
      | none => return .ok gpu

def init (sets : FeatureSets) (vulkanTarget : Bool) :
    (cell : DeviceCell) → Program devices cell.Value
  | .shared => sharedDevice sets
  | .compute => computeDeviceStatus sets vulkanTarget
  | .auto => autoComputeDevice

end GpuInfo.Devices
