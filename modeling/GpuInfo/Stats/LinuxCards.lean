import GpuInfo.Os.SystemMemory

/-!
The GPUs of a Linux machine (`src/stats.rs`, `src/stats/nvml.rs`, `src/stats/drm.rs`): the devices
of NVML, and the first cards of DRM with what the kernel prints of them in files. What becomes of a
percentage in 32 bits is a parameter.
-/

namespace GpuInfo
open MachineInteger TextFields

variable {F32 : Type}

/-- What files hold, if they can be read; a path is its characters. -/
abbrev Files := List Char → Option (List Char)

namespace Drm

def maxCards : Nat := 8

def base (index : Nat) : List Char :=
  "/sys/class/drm/card".toList ++ Nat.toDigits 10 index ++ "/device".toList

def busyPath (index : Nat) : List Char := base index ++ "/gpu_busy_percent".toList

def totalPath (index : Nat) : List Char := base index ++ "/mem_info_vram_total".toList

def usedPath (index : Nat) : List Char := base index ++ "/mem_info_vram_used".toList

def labelPath (index : Nat) : List Char := base index ++ "/label".toList

def productPath (index : Nat) : List Char := base index ++ "/product_name".toList

def readU64 (files : Files) (path : List Char) : Option Nat :=
  (files path).bind fun text => parseU64 (trim text)

def readLine (files : Files) (path : List Char) : Option String :=
  (files path).bind fun text => (lines text).head?.bind fun line =>
    if trim line = [] then none else some (String.ofList (trim line))

/-- A card that answers none of the three is either NVIDIA or not a GPU at all. -/
def card (toPct : Nat → F32) (files : Files) (index : Nat) : Option (GpuStats F32) :=
  let utilPct := (readU64 files (busyPath index)).map toPct
  let memTotalBytes := readU64 files (totalPath index)
  let memUsedBytes := readU64 files (usedPath index)
  if utilPct.isNone && memTotalBytes.isNone && memUsedBytes.isNone then none
  else some
    { name := readLine files (labelPath index) <|> readLine files (productPath index)
      utilPct := utilPct
      memUsedBytes := memUsedBytes
      memTotalBytes := memTotalBytes
      memSharedBytes := none
      unified := false
      tempC := none
      powerW := none
      powerLimitW := none
      fanPct := none
      clockCoreMhz := none
      clockMemMhz := none
      memBusPct := none
      driver := none }

/-- `drm::query_all` -/
def queryAll (toPct : Nat → F32) (files : Files) : List (GpuStats F32) :=
  (List.range maxCards).filterMap (card toPct files)

end Drm

/-- `nvml::query_all` -/
def Nvml.queryAll (lib : Option (Nvml F32)) : List (String × NvmlStats F32) :=
  match lib with
  | none => []
  | some lib =>
      if !lib.counts then []
      else lib.devices.zipIdx.filterMap fun entry =>
        let (device, index) := entry
        if !device.handle then none
        else
          let name := device.name.getD ("NVIDIA GPU " ++ toString index)
          (lib.sampleDevice index).map fun stats => (name, stats)

/-- The counters of a device of NVML, as `stats::query_all` takes them over. -/
def NvmlStats.stats (reading : NvmlStats F32) (name : String) : GpuStats F32 where
  name := some name
  utilPct := reading.utilPct
  memUsedBytes := reading.memUsedBytes
  memTotalBytes := reading.memTotalBytes
  memSharedBytes := none
  unified := false
  tempC := reading.tempC
  powerW := reading.powerW
  powerLimitW := reading.powerLimitW
  fanPct := reading.fanPct
  clockCoreMhz := reading.clockCoreMhz
  clockMemMhz := reading.clockMemMhz
  memBusPct := reading.memBusPct
  driver := reading.driver

/-- What the kernel publishes of a card, which may be none of it. -/
structure DrmCard where
  busy : Option Nat
  total : Option Nat
  used : Option Nat
  label : Option (List Char)
  product : Option (List Char)

end GpuInfo
