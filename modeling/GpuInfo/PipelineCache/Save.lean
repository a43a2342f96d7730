import GpuInfo.FileSystem
import GpuInfo.Interleaving
import Mathlib.Data.List.TakeDrop

/-!
The pipeline caches that persist to one file (`src/pipeline_cache.rs`). The file
and its temporaries lie in one directory, so a path is its last component. Each
file-system call is one step; a save or a read may fail at any of them, and a
process may die between any two. The mutex of a cache admits one save of that
cache at a time: the cache is an activity that a save turns into its own phases.
What the driver puts into a cache, and the standard library's hash, are arbitrary.
-/

namespace GpuInfo
open FileSystem

abbrev FileName := List Char

/-- `Path::file_stem`: all before the last dot, unless that dot comes first. -/
def fileStem (name : FileName) : FileName :=
  let before := (name.reverse.dropWhile (· ≠ '.')).tail.reverse
  if before = [] then name else before

/-- `Path::with_extension` -/
def withExtension (name extension : FileName) : FileName :=
  fileStem name ++ if extension = [] then [] else '.' :: extension

/-- The temporary beside `file` that a process writes. -/
def temporary (file : FileName) (pid : Nat) : FileName :=
  withExtension file (Nat.toDigits 10 pid ++ ['.', 't', 'm', 'p'])

abbrev Fingerprint := Nat × UInt64

/-- A `DiskPipelineCache`: the process it lives in and the content last written. -/
structure DiskPipelineCache where
  pid : Nat
  saved : Option Fingerprint
  deriving DecidableEq, Repr

section
variable (hash : Bytes → UInt64) (file : FileName)

def fingerprint (data : Bytes) : Fingerprint := (data.length, hash data)

/-- What `save` hands to `write_atomically`: the driver's data, if it has any and
its content changed. -/
def DiskPipelineCache.save (cache : DiskPipelineCache) (data : Option Bytes) : Option Bytes := do
  let data ← data
  if some (fingerprint hash data) = cache.saved then none else some data

/-- The directory, the data of every save that got as far as writing, and what
the reads of the file have returned. -/
structure CacheFolder where
  dir : Directory FileName
  saves : List Bytes
  reads : List Bytes

inductive CacheActivity
  /-- A cache with no save in progress. -/
  | unlocked (cache : DiskPipelineCache)
  /-- `write_atomically` before it opens the temporary. -/
  | opening (cache : DiskPipelineCache) (data : Bytes)
  | writing (cache : DiskPipelineCache) (data : Bytes) (inode written : Nat)
  /-- `fs::write` has returned. -/
  | replacing (cache : DiskPipelineCache) (data : Bytes)
  /-- `open_in` reads the file, and has `got` this much of it. -/
  | reading (pid inode : Nat) (got : Bytes)
  deriving DecidableEq, Repr

/-- Where a save goes when a call of it fails: back, with nothing recorded. -/
def CacheActivity.failed : CacheActivity → Option DiskPipelineCache
  | .opening cache _ | .writing cache _ _ _ | .replacing cache _ => some cache
  | .unlocked _ | .reading _ _ _ => none

inductive CacheRule : Interleaving.Rule CacheFolder CacheActivity
  | openMissing {s : CacheFolder} (pid : Nat) (h : s.dir.links file = none) :
      CacheRule s 0 s {.unlocked ⟨pid, none⟩}
  | openFound {s : CacheFolder} (pid : Nat) {inode : Nat} (h : s.dir.links file = some inode) :
      CacheRule s 0 s {.reading pid inode []}
  | readPiece {s : CacheFolder} {pid inode : Nat} {got : Bytes} (size : Nat)
      (h : got.length < (s.dir.files inode).length) :
      CacheRule s {.reading pid inode got} s
        {.reading pid inode (got ++ ((s.dir.files inode).drop got.length).take size)}
  | readEnd {s : CacheFolder} {pid inode : Nat} {got : Bytes}
      (h : (s.dir.files inode).length ≤ got.length) :
      CacheRule s {.reading pid inode got} { s with reads := got :: s.reads }
        {.unlocked ⟨pid, some (fingerprint hash got)⟩}
  | readFail {s : CacheFolder} {pid inode : Nat} {got : Bytes} :
      CacheRule s {.reading pid inode got} s {.unlocked ⟨pid, none⟩}
  | save {s : CacheFolder} {cache : DiskPipelineCache} (driver : Option Bytes) {data : Bytes}
      (h : cache.save hash driver = some data) :
      CacheRule s {.unlocked cache} { s with saves := data :: s.saves } {.opening cache data}
  | create {s : CacheFolder} {cache : DiskPipelineCache} {data : Bytes}
      {dir : Directory FileName} {inode : Nat}
      (h : s.dir.create (temporary file cache.pid) = (dir, inode)) :
      CacheRule s {.opening cache data} { s with dir } {.writing cache data inode 0}
  | write {s : CacheFolder} {cache : DiskPipelineCache} {data : Bytes} {inode written : Nat}
      (size : Nat) (h : written + size ≤ data.length) :
      CacheRule s {.writing cache data inode written}
        { s with dir := s.dir.write inode written ((data.drop written).take size) }
        {.writing cache data inode (written + size)}
  | close {s : CacheFolder} {cache : DiskPipelineCache} {data : Bytes} {inode : Nat} :
      CacheRule s {.writing cache data inode data.length} s {.replacing cache data}
  | rename {s : CacheFolder} {cache : DiskPipelineCache} {data : Bytes}
      {dir : Directory FileName}
      (h : s.dir.rename (temporary file cache.pid) file = some dir) :
      CacheRule s {.replacing cache data} { s with dir }
        {.unlocked { cache with saved := some (fingerprint hash data) }}
  | fail {s : CacheFolder} {activity : CacheActivity} {cache : DiskPipelineCache}
      (h : activity.failed = some cache) : CacheRule s {activity} s {.unlocked cache}
  /-- The process dies, or drops the cache. -/
  | gone {s : CacheFolder} {activity : CacheActivity} : CacheRule s {activity} s 0

abbrev CacheConfig := Interleaving.Config CacheFolder CacheActivity

abbrev CacheStep : CacheConfig → CacheConfig → Prop := Interleaving.Step (CacheRule hash file)

def CacheStart (initial : Directory FileName) (c : CacheConfig) : Prop := c = ⟨⟨initial, [], []⟩, 0⟩

end

end GpuInfo
