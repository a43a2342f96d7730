import GpuInfo.PipelineCache.Save
import Mathlib.Data.Finset.Insert
import Mathlib.Data.Finset.Lattice.Basic
import Mathlib.Data.Fintype.Powerset
import Mathlib.Data.List.Infix

/-!
Caches of several devices or processes on one file, with each open and each save as one
step. A save writes what its own cache holds and nothing of what the file has held since
that cache was opened. So what one cache has saved outlives the save of another exactly
if the other holds it too.
-/

namespace GpuInfo
open FileSystem

/-- What the driver puts into the data of a cache and finds in it again. -/
structure PipelineDriver (Pipeline : Type) where
  getData : Finset Pipeline → Option Bytes
  /-- What a cache created from this data holds, which is nothing if the driver rejects it. -/
  seed : Bytes → Finset Pipeline
  accepts : ∀ {pipelines data}, getData pipelines = some data → seed data = pipelines

/-- A `DiskPipelineCache` and the pipelines it holds. -/
structure OpenCache (Pipeline : Type) where
  disk : DiskPipelineCache
  pipelines : Finset Pipeline
  /-- What other caches have saved since this one was opened or wrote: no code reads it. -/
  unseen : Finset Pipeline

structure SharedFile (Pipeline : Type) where
  file : Option Bytes
  caches : List (OpenCache Pipeline)
  /-- The pipelines of every completed save: no code reads it. -/
  saved : Finset Pipeline

/-- A call on some cache, which is known by its position; `written` is whether
`write_atomically` succeeds. -/
inductive FileCall (Pipeline : Type)
  | openIn (pid : Nat)
  | compile (cache : Nat) (pipeline : Pipeline)
  | save (cache : Nat) (written : Bool)

variable {Pipeline : Type} [DecidableEq Pipeline] (hash : Bytes → UInt64)
  (driver : PipelineDriver Pipeline)

namespace OpenCache

/-- `create_pipeline_cache` with what the file holds, and `saved` its fingerprint. -/
def openIn (file : Option Bytes) (pid : Nat) : OpenCache Pipeline where
  disk := ⟨pid, file.map (fingerprint hash)⟩
  pipelines := (file.map driver.seed).getD ∅
  unseen := ∅

def compile (cache : OpenCache Pipeline) (pipeline : Pipeline) : OpenCache Pipeline :=
  { cache with pipelines := insert pipeline cache.pipelines }

/-- What `save` writes, if it writes. -/
def save (cache : OpenCache Pipeline) : Option Bytes :=
  cache.disk.save hash (driver.getData cache.pipelines)

/-- This cache after its save. -/
def wrote (cache : OpenCache Pipeline) (data : Bytes) : OpenCache Pipeline :=
  { cache with disk := { cache.disk with saved := some (fingerprint hash data) }, unseen := ∅ }

/-- Any other cache after a save of `saved`. -/
def overtaken (cache : OpenCache Pipeline) (saved : Finset Pipeline) : OpenCache Pipeline :=
  { cache with unseen := cache.unseen ∪ saved }

end OpenCache

namespace SharedFile

def initial (file : Option Bytes) : SharedFile Pipeline := ⟨file, [], ∅⟩

/-- The pipelines a cache opened now would hold. -/
def held (s : SharedFile Pipeline) : Finset Pipeline := (s.file.map driver.seed).getD ∅

def save (s : SharedFile Pipeline) (index : Nat) : SharedFile Pipeline :=
  match s.caches[index]? with
  | none => s
  | some cache =>
      match cache.save hash driver with
      | none => s
      | some data =>
          { file := some data
            caches := (s.caches.map (·.overtaken cache.pipelines)).set index (cache.wrote hash data)
            saved := s.saved ∪ cache.pipelines }

def call (s : SharedFile Pipeline) : FileCall Pipeline → SharedFile Pipeline
  | .openIn pid => { s with caches := s.caches ++ [.openIn hash driver s.file pid] }
  | .compile index pipeline =>
      { s with caches := s.caches.modify index (·.compile pipeline) }
  | .save index true => s.save hash driver index
  | .save _ false => s

def run (s : SharedFile Pipeline) (calls : List (FileCall Pipeline)) : SharedFile Pipeline :=
  calls.foldl (call hash driver) s

/-- Everything a completed save has put into the file is in the file. -/
def Kept (s : SharedFile Pipeline) : Prop := s.saved ⊆ s.held driver

/-- If the call writes the file, its cache holds all that other caches have saved since it
was opened or wrote. -/
def Informed (s : SharedFile Pipeline) (call : FileCall Pipeline) : Prop :=
  ∀ index cache data, call = .save index true → s.caches[index]? = some cache →
    cache.save hash driver = some data → cache.unseen ⊆ cache.pipelines

/-! One call -/

structure Sound (s : SharedFile Pipeline) : Prop where
  kept : s.Kept driver
  caches : ∀ cache ∈ s.caches,
    s.saved ⊆ cache.pipelines ∪ cache.unseen ∧ cache.unseen ⊆ s.saved

variable {hash driver} {s : SharedFile Pipeline}

theorem initial_sound (file : Option Bytes) :
    (initial file : SharedFile Pipeline).Sound driver where
  kept := Finset.empty_subset _
  caches := nofun

omit [DecidableEq Pipeline] in
theorem save_held {cache : OpenCache Pipeline} {data : Bytes}
    (h : cache.save hash driver = some data) : driver.seed data = cache.pipelines := by
  unfold OpenCache.save DiskPipelineCache.save at h
  cases hdata : driver.getData cache.pipelines with
  | none => simp [hdata] at h
  | some got =>
      rw [hdata, Option.bind_eq_bind, Option.bind_some] at h
      split at h
      · cases h
      · cases h
        exact driver.accepts hdata

theorem save_written {index : Nat} {cache : OpenCache Pipeline} {data : Bytes}
    (hcache : s.caches[index]? = some cache) (hsave : cache.save hash driver = some data) :
    s.save hash driver index =
      { file := some data
        caches := (s.caches.map (·.overtaken cache.pipelines)).set index (cache.wrote hash data)
        saved := s.saved ∪ cache.pipelines } := by
  simp only [save, hcache, hsave]

variable (hash driver) in
/-- A save either leaves everything as it is or writes. -/
theorem save_cases (index : Nat) :
    s.save hash driver index = s ∧ s.Informed hash driver (.save index true) ∨
      ∃ cache data, s.caches[index]? = some cache ∧ cache.save hash driver = some data := by
  cases hcache : s.caches[index]? with
  | none =>
      refine .inl ⟨by simp only [save, hcache], fun other cache data hcall hother => ?_⟩
      cases hcall
      cases hcache.symm.trans hother
  | some cache =>
      cases hsave : cache.save hash driver with
      | none =>
          refine .inl ⟨by simp only [save, hcache, hsave], ?_⟩
          intro other cache' data hcall hother hdata
          cases hcall
          cases hcache.symm.trans hother
          cases hsave.symm.trans hdata
      | some data => exact .inr ⟨cache, data, rfl, hsave⟩

omit [DecidableEq Pipeline] in
theorem Informed.of_not_save {call : FileCall Pipeline} (h : ∀ index, call ≠ .save index true) :
    s.Informed hash driver call :=
  fun index _ _ hcall => absurd hcall (h index)

/-- Under the bookkeeping, a save keeps everything exactly if its cache knows of it. -/
theorem Sound.save_kept_iff (h : s.Sound driver) {index : Nat} {cache : OpenCache Pipeline}
    {data : Bytes} (hcache : s.caches[index]? = some cache)
    (hsave : cache.save hash driver = some data) :
    (s.save hash driver index).Kept driver ↔ cache.unseen ⊆ cache.pipelines := by
  obtain ⟨known, unseen⟩ := h.caches cache (List.mem_of_getElem? hcache)
  have hheld : (s.save hash driver index).held driver = cache.pipelines := by
    rw [save_written hcache hsave]
    exact save_held hsave
  have hsaved : (s.save hash driver index).saved = s.saved ∪ cache.pipelines := by
    rw [save_written hcache hsave]
  rw [Kept, hheld, hsaved]
  constructor
  · intro kept
    exact unseen.trans (Finset.union_subset_left kept)
  · intro informed
    refine Finset.union_subset (known.trans ?_) (Finset.Subset.refl _)
    exact Finset.union_subset (Finset.Subset.refl _) informed

theorem Sound.kept_iff (h : s.Sound driver) (call : FileCall Pipeline) :
    (s.call hash driver call).Kept driver ↔ s.Informed hash driver call := by
  cases call with
  | openIn pid => exact iff_of_true h.kept (.of_not_save (by simp))
  | compile index pipeline => exact iff_of_true h.kept (.of_not_save (by simp))
  | save index written =>
      cases written with
      | false => exact iff_of_true h.kept (.of_not_save (by simp))
      | true =>
          cases s.save_cases hash driver index with
          | inl unchanged =>
              refine iff_of_true ?_ unchanged.2
              rw [call, unchanged.1]
              exact h.kept
          | inr wrote =>
              obtain ⟨cache, data, hcache, hsave⟩ := wrote
              rw [call, h.save_kept_iff hcache hsave]
              constructor
              · intro informed index' cache' data' hcall hcache' hsave'
                cases hcall
                cases hcache.symm.trans hcache'
                exact informed
              · intro informed
                exact informed index cache data rfl hcache hsave

theorem Sound.openIn (h : s.Sound driver) (pid : Nat) :
    (s.call hash driver (.openIn pid)).Sound driver where
  kept := h.kept
  caches cache hcache := by
    cases List.mem_append.mp hcache with
    | inl old => exact h.caches cache old
    | inr new =>
        rw [List.mem_singleton.mp new]
        exact ⟨h.kept.trans Finset.subset_union_left, Finset.empty_subset _⟩

theorem Sound.compile (h : s.Sound driver) (index : Nat) (pipeline : Pipeline) :
    (s.call hash driver (.compile index pipeline)).Sound driver where
  kept := h.kept
  caches cache hcache := by
    obtain ⟨position, hposition⟩ := List.getElem?_of_mem hcache
    rw [call, List.getElem?_modify] at hposition
    obtain ⟨before, hbefore, heq⟩ := Option.map_eq_some_iff.mp hposition
    obtain ⟨known, unseen⟩ := h.caches before (List.mem_of_getElem? hbefore)
    by_cases hindex : index = position
    · rw [if_pos hindex] at heq
      subst heq
      refine ⟨known.trans ?_, unseen⟩
      exact Finset.union_subset_union_left (Finset.subset_insert pipeline before.pipelines)
    · rw [if_neg hindex] at heq
      subst heq
      exact ⟨known, unseen⟩

theorem Sound.save (h : s.Sound driver) {index : Nat}
    (kept : (s.save hash driver index).Kept driver) : (s.save hash driver index).Sound driver := by
  cases s.save_cases hash driver index with
  | inl unchanged => exact unchanged.1.symm ▸ h
  | inr wrote =>
      obtain ⟨cache, data, hcache, hsave⟩ := wrote
      refine ⟨kept, ?_⟩
      have hheld : (s.save hash driver index).held driver = cache.pipelines := by
        rw [save_written hcache hsave]
        exact save_held hsave
      rw [Kept, hheld] at kept
      rw [save_written hcache hsave] at kept ⊢
      intro other hother
      cases List.mem_or_eq_of_mem_set hother with
      | inr heq =>
          subst heq
          exact ⟨kept.trans Finset.subset_union_left, Finset.empty_subset _⟩
      | inl overtaken =>
          obtain ⟨before, hbefore, rfl⟩ := List.mem_map.mp overtaken
          obtain ⟨known, unseen⟩ := h.caches before hbefore
          refine ⟨?_, Finset.union_subset_union_left unseen⟩
          rw [OpenCache.overtaken, ← Finset.union_assoc]
          exact Finset.union_subset_union_left known

theorem Sound.call (h : s.Sound driver) (call : FileCall Pipeline)
    (kept : (s.call hash driver call).Kept driver) : (s.call hash driver call).Sound driver := by
  cases call with
  | openIn pid => exact h.openIn pid
  | compile index pipeline => exact h.compile index pipeline
  | save index written =>
      cases written with
      | false => exact h
      | true => exact h.save kept

/-! Runs -/

theorem run_append (s : SharedFile Pipeline) (calls more : List (FileCall Pipeline)) :
    s.run hash driver (calls ++ more) = (s.run hash driver calls).run hash driver more :=
  List.foldl_append

/-- The bookkeeping is right after every run in which every call is informed. -/
theorem run_sound {file : Option Bytes} (calls : List (FileCall Pipeline))
    (informed : ∀ done call, done ++ [call] <+: calls →
      ((initial file).run hash driver done).Informed hash driver call) :
    ((initial file).run hash driver calls).Sound driver := by
  induction calls using List.reverseRecOn with
  | nil => exact initial_sound file
  | append_singleton calls call ih =>
      have earlier := ih fun done call' hdone =>
        informed done call' (hdone.trans (List.prefix_append _ _))
      have hlast := informed calls call (List.prefix_refl _)
      rw [run_append]
      exact earlier.call call ((earlier.kept_iff call).mpr hlast)

/-- As long as everything has been kept, every call has been informed. -/
theorem informed_of_kept {file : Option Bytes} (calls : List (FileCall Pipeline))
    (kept : ∀ done, done <+: calls → ((initial file).run hash driver done).Kept driver)
    {done : List (FileCall Pipeline)} {call : FileCall Pipeline} (h : done ++ [call] <+: calls) :
    ((initial file).run hash driver done).Informed hash driver call := by
  induction calls using List.reverseRecOn generalizing done call with
  | nil => simp at h
  | append_singleton calls last ih =>
      have earlier : ∀ early, early <+: calls →
          ((initial file).run hash driver early).Kept driver :=
        fun early hearly => kept early (hearly.trans (List.prefix_append _ _))
      cases List.prefix_concat_iff.mp h with
      | inr inside => exact ih earlier inside
      | inl whole =>
          obtain ⟨rfl, hcall⟩ := List.append_inj' whole rfl
          obtain rfl := List.singleton_inj.mp hcall
          have sound := run_sound done fun _ _ => ih earlier
          have hafter := kept _ (List.prefix_refl _)
          rw [run_append] at hafter
          exact (sound.kept_iff call).mp hafter

end SharedFile

/-- In every run of opens, compiles and saves on one file, what completed saves have put
into it is there after every call exactly if each save that writes is one of a cache that
holds all that other caches have saved since it was opened or last wrote. -/
theorem persisted_pipelines_kept (file : Option Bytes) (calls : List (FileCall Pipeline)) :
    (∀ done, done <+: calls → ((SharedFile.initial file).run hash driver done).Kept driver) ↔
      ∀ done call, done ++ [call] <+: calls →
        ((SharedFile.initial file).run hash driver done).Informed hash driver call := by
  constructor
  · intro kept done call
    exact SharedFile.informed_of_kept calls kept
  · intro informed done hdone
    have sound : ((SharedFile.initial file).run hash driver done).Sound driver :=
      SharedFile.run_sound done fun early call h => informed early call (h.trans hdone)
    exact sound.kept

/-- Two shaders, and a byte of the data for each. -/
def twoShaders : PipelineDriver Bool where
  getData pipelines :=
    some [if false ∈ pipelines then 1 else 0, if true ∈ pipelines then 1 else 0]
  seed
    | [first, second] =>
        (if first = 1 then {false} else ∅) ∪ (if second = 1 then {true} else ∅)
    | _ => ∅
  accepts {pipelines data} h := by
    cases h
    revert pipelines
    decide

/-- Two caches open the missing file; each compiles its shader and saves. -/
def twoDevices : List (FileCall Bool) :=
  [.openIn 1, .openIn 1, .compile 0 false, .compile 1 true, .save 0 true, .save 1 true]

theorem a_save_can_lose_anothers_pipeline :
    ¬ ∀ done, done <+: twoDevices →
      ((SharedFile.initial none).run (fun _ => 0) twoShaders done).Kept twoShaders := by
  intro kept
  have lost := kept twoDevices (List.prefix_refl _)
  revert lost
  unfold SharedFile.Kept
  decide

end GpuInfo
