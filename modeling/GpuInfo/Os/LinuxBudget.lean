import GpuInfo.Os.PrimaryAdapter
import GpuInfo.Stats.LinuxCards

/-!
The primary GPU of Linux (`src/os.rs`) and the VRAM budget it gives (`src/budget.rs`): the last of
the largest among the devices of NVML and then the cards of DRM, of which the kernel prints a total.
-/

namespace GpuInfo
open MachineInteger

variable {F32 : Type}

/-- The memory of a discrete GPU, of which so much may be known to be in use. -/
def discreteInfo (name : String) (total used : Option Nat) : Option GpuMemInfo :=
  total.bind fun total =>
    if 0 < total then some ⟨name, total, total - used.getD 0, 0, false⟩ else none

/-- The memory of a device of NVML that gives a handle. -/
def NvmlDevice.info (device : NvmlDevice F32) (index : Nat) : Option GpuMemInfo :=
  if device.handle then
    discreteInfo (device.name.getD ("NVIDIA GPU " ++ toString index)) device.reading.memTotalBytes
      device.reading.memUsedBytes
  else none

def DrmCard.info (card : DrmCard) : Option GpuMemInfo :=
  discreteInfo (((card.label <|> card.product).map String.ofList).getD "GPU") card.total card.used

/-- The devices that NVML counts, if it is there. -/
def Nvml.counted (lib : Option (Nvml F32)) : List (NvmlDevice F32) :=
  match lib with
  | none => []
  | some lib => if lib.counts then lib.devices else []

end GpuInfo
