import GpuInfo.Interleaving
import GpuInfo.PipelineCache.Shared

/-!
The registry of the pipeline caches of a process (`pipeline_cache` and `create_compute_pipeline`
in `src/pipeline_cache.rs`), for any number of threads and devices. A device has the cache that
its first caller has opened, or none; devices of one adapter have one file. No other process
writes the files meanwhile.
-/

namespace GpuInfo
open FileSystem Interleaving

/-- A `DiskPipelineCache` by its file and its position among the caches of it. -/
structure CacheHandle (Key : Type) where
  file : Key
  index : Nat
  deriving DecidableEq

structure PipelineProcess (Device Key Pipeline : Type) where
  /-- `CACHES` -/
  caches : List (Device × Option (CacheHandle Key))
  files : Key → SharedFile Pipeline
  /-- The pipelines whose creation has written its cache: no code reads these. -/
  written : List (Key × Pipeline)

/-- `create_compute_pipeline` on its way. -/
inductive Creation (Device Adapter Key Pipeline : Type)
  | looksUp (device : Device) (adapter : Adapter) (pipeline : Pipeline)
  | compiles (device : Device) (cache : Option (CacheHandle Key)) (pipeline : Pipeline)
  | saves (device : Device) (cache : CacheHandle Key) (pipeline : Pipeline)

variable {Device Adapter Key Pipeline : Type} [DecidableEq Device] [DecidableEq Key]
  [DecidableEq Pipeline] (hash : Bytes → UInt64) (driver : PipelineDriver Pipeline)
  (cacheKey : Device → Adapter → Option Key) (pid : Nat)

namespace PipelineProcess

def initial (files : Key → Option Bytes) : PipelineProcess Device Key Pipeline :=
  ⟨[], fun key => .initial (files key), []⟩

def call (p : PipelineProcess Device Key Pipeline) (key : Key) (call : FileCall Pipeline) :
    PipelineProcess Device Key Pipeline :=
  { p with files := Function.update p.files key ((p.files key).call hash driver call) }

/-- `open`, of a device with this key; `None` without one. -/
def openCache (p : PipelineProcess Device Key Pipeline) (device : Device) (key : Option Key) :
    Option (CacheHandle Key) × PipelineProcess Device Key Pipeline :=
  match key with
  | none => (none, { p with caches := p.caches ++ [(device, none)] })
  | some key =>
      let handle : CacheHandle Key := ⟨key, (p.files key).caches.length⟩
      (some handle,
        { p.call hash driver key (.openIn pid) with caches := p.caches ++ [(device, some handle)] })

/-- `pipeline_cache`, all of it under the lock of the registry. -/
def pipelineCache (p : PipelineProcess Device Key Pipeline) (device : Device) (adapter : Adapter) :
    Option (CacheHandle Key) × PipelineProcess Device Key Pipeline :=
  match p.caches.find? fun entry => entry.1 = device with
  | some entry => (entry.2, p)
  | none => p.openCache hash driver pid device (cacheKey device adapter)

/-- Whether a save of the cache has anything to write. -/
def writes (p : PipelineProcess Device Key Pipeline) (cache : CacheHandle Key) : Bool :=
  ((p.files cache.file).caches[cache.index]?.bind fun found => found.save hash driver).isSome

/-- `DiskPipelineCache::save`, and whether `write_atomically` succeeds. -/
def save (p : PipelineProcess Device Key Pipeline) (cache : CacheHandle Key) (pipeline : Pipeline)
    (written : Bool) : PipelineProcess Device Key Pipeline :=
  { p.call hash driver cache.file (.save cache.index written) with
    written := if written && p.writes hash driver cache then (cache.file, pipeline) :: p.written
      else p.written }

end PipelineProcess

inductive CreationRule :
    Rule (PipelineProcess Device Key Pipeline) (Creation Device Adapter Key Pipeline)
  | begins {p : PipelineProcess Device Key Pipeline} (device : Device) (adapter : Adapter)
      (pipeline : Pipeline) : CreationRule p 0 p {.looksUp device adapter pipeline}
  | looksUp {p : PipelineProcess Device Key Pipeline} {device : Device} {adapter : Adapter}
      {pipeline : Pipeline} :
      CreationRule p {.looksUp device adapter pipeline}
        (p.pipelineCache hash driver cacheKey pid device adapter).2
        {.compiles device (p.pipelineCache hash driver cacheKey pid device adapter).1 pipeline}
  | compiles {p : PipelineProcess Device Key Pipeline} {device : Device}
      {cache : CacheHandle Key} {pipeline : Pipeline} :
      CreationRule p {.compiles device (some cache) pipeline}
        (p.call hash driver cache.file (.compile cache.index pipeline))
        {.saves device cache pipeline}
  | saves {p : PipelineProcess Device Key Pipeline} {device : Device} {cache : CacheHandle Key}
      {pipeline : Pipeline} (written : Bool) :
      CreationRule p {.saves device cache pipeline} (p.save hash driver cache pipeline written) 0
  /-- A pipeline is there without a cache, or the thread unwinds: a lock that it holds goes on. -/
  | leaves {p : PipelineProcess Device Key Pipeline}
      {creation : Creation Device Adapter Key Pipeline} : CreationRule p {creation} p 0

abbrev CreationConfig (Device Adapter Key Pipeline : Type) :=
  Config (PipelineProcess Device Key Pipeline) (Creation Device Adapter Key Pipeline)

def CreationStart (c : CreationConfig Device Adapter Key Pipeline) : Prop :=
  ∃ files, c = ⟨.initial files, 0⟩

end GpuInfo
