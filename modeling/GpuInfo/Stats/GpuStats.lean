import Mathlib.Data.List.Zip

/-!
The live counters of the GPUs of a machine (`src/stats.rs`), and the base reading that Windows
gives (`src/stats/windows.rs`). A 32-bit float is whatever `F32` is: nothing computes with one.
-/

namespace GpuInfo

structure GpuStats (F32 : Type) where
  name : Option String
  utilPct : Option F32
  memUsedBytes : Option Nat
  memTotalBytes : Option Nat
  memSharedBytes : Option Nat
  unified : Bool
  tempC : Option F32
  powerW : Option F32
  powerLimitW : Option F32
  fanPct : Option F32
  clockCoreMhz : Option Nat
  clockMemMhz : Option Nat
  memBusPct : Option F32
  driver : Option String

variable {F32 : Type}

/-- No usable counter. -/
def GpuStats.isEmpty (stats : GpuStats F32) : Bool :=
  stats.utilPct.isNone && stats.memUsedBytes.isNone

/-- A hardware adapter as DXGI describes it. -/
structure Adapter where
  name : String
  totalBytes : Nat
  sharedBytes : Nat
  unified : Bool
  deriving DecidableEq, Repr

/-- One poll of the counters of one adapter. -/
structure Sample (F32 : Type) where
  utilPct : Option F32
  used : Option Nat
  spilled : Option Nat

/-- What Windows publishes of an adapter. -/
def Adapter.stats (adapter : Adapter) (sample : Sample F32) : GpuStats F32 where
  name := some adapter.name
  utilPct := sample.utilPct
  memUsedBytes := sample.used
  memTotalBytes := (some adapter.totalBytes).filter (0 < ·)
  memSharedBytes := sample.spilled
  unified := adapter.unified
  tempC := none
  powerW := none
  powerLimitW := none
  fanPct := none
  clockCoreMhz := none
  clockMemMhz := none
  memBusPct := none
  driver := none

/-- `windows::query_all`, with the sample of each adapter. -/
def windowsQueryAll (adapters : List Adapter) (samples : List (Sample F32)) :
    List (GpuStats F32) :=
  (adapters.zipWith Adapter.stats samples).filter fun stats => !stats.isEmpty

/-- `windows::adapter_memory`: name, total, shared, used and whether it is unified. -/
def adapterMemory (adapters : List Adapter) (used : Option Nat) :
    Option (String × Nat × Nat × Nat × Bool) :=
  adapters.head?.map fun adapter =>
    (adapter.name, adapter.totalBytes, adapter.sharedBytes, used.getD 0, adapter.unified)

end GpuInfo
