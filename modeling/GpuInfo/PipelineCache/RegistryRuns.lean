import GpuInfo.PipelineCache.Registry

/-!
Every run of creations in one process: a device has one cache, which all its creations use, and
a file that no two of the registered devices have keeps every pipeline that has been written.
-/

namespace GpuInfo
open FileSystem Interleaving
variable {Device Adapter Key Pipeline : Type} [DecidableEq Key] [DecidableEq Pipeline]
  {hash : Bytes → UInt64} {driver : PipelineDriver Pipeline}
  {cacheKey : Device → Adapter → Option Key} {pid : Nat}

/-! One file -/

namespace SharedFile

/-- Some cache holds the pipeline. -/
def Holds (s : SharedFile Pipeline) (index : Nat) (pipeline : Pipeline) : Prop :=
  ∃ cache, s.caches[index]? = some cache ∧ pipeline ∈ cache.pipelines

/-- No cache has missed a save of another one. -/
def Alone (s : SharedFile Pipeline) : Prop := ∀ cache ∈ s.caches, cache.unseen = ∅

variable {s : SharedFile Pipeline}

theorem length_openIn (s : SharedFile Pipeline) (pid : Nat) :
    (s.call hash driver (.openIn pid)).caches.length = s.caches.length + 1 := by
  rw [call, List.length_append, List.length_singleton]

theorem length_compile (s : SharedFile Pipeline) (index : Nat) (pipeline : Pipeline) :
    (s.call hash driver (.compile index pipeline)).caches.length = s.caches.length := by
  rw [call, List.length_modify]

theorem length_save (s : SharedFile Pipeline) (index : Nat) (written : Bool) :
    (s.call hash driver (.save index written)).caches.length = s.caches.length := by
  cases written with
  | false => rfl
  | true =>
      cases s.save_cases hash driver index with
      | inl unchanged => exact congrArg (fun t => t.caches.length) unchanged.1
      | inr wrote =>
          obtain ⟨cache, data, hcache, hsave⟩ := wrote
          rw [call, save_written hcache hsave, List.length_set, List.length_map]

/-- What a cache holds it goes on to hold. -/
theorem Holds.call {index : Nat} {pipeline : Pipeline} (h : s.Holds index pipeline)
    (call : FileCall Pipeline) : (s.call hash driver call).Holds index pipeline := by
  obtain ⟨cache, hcache, hmem⟩ := h
  cases call with
  | openIn pid =>
      refine ⟨cache, ?_, hmem⟩
      obtain ⟨hindex, -⟩ := List.getElem?_eq_some_iff.mp hcache
      rw [SharedFile.call, List.getElem?_append_left hindex, hcache]
  | compile other more =>
      rw [Holds, SharedFile.call, List.getElem?_modify, hcache]
      refine ⟨if other = index then cache.compile more else cache, rfl, ?_⟩
      split
      · exact Finset.mem_insert_of_mem hmem
      · exact hmem
  | save other written =>
      cases written with
      | false => exact ⟨cache, hcache, hmem⟩
      | true =>
          cases s.save_cases hash driver other with
          | inl unchanged =>
              rw [SharedFile.call, unchanged.1]
              exact ⟨cache, hcache, hmem⟩
          | inr wrote =>
              obtain ⟨found, data, hfound, hsave⟩ := wrote
              rw [Holds, SharedFile.call, save_written hfound hsave, List.getElem?_set,
                List.length_map, List.getElem?_map, hcache]
              by_cases heq : other = index
              · subst heq
                obtain ⟨hindex, -⟩ := List.getElem?_eq_some_iff.mp hcache
                rw [hcache] at hfound
                cases hfound
                exact ⟨cache.wrote hash data, by rw [if_pos rfl, if_pos hindex], hmem⟩
              · exact ⟨cache.overtaken found.pipelines, by rw [if_neg heq]; rfl, hmem⟩

theorem holds_compile {index : Nat} (h : index < s.caches.length) (pipeline : Pipeline) :
    (s.call hash driver (.compile index pipeline)).Holds index pipeline := by
  refine ⟨(s.caches[index]).compile pipeline, ?_, Finset.mem_insert_self _ _⟩
  rw [call, List.getElem?_modify, List.getElem?_eq_getElem h]
  exact congrArg some (if_pos rfl)

theorem saved_subset (call : FileCall Pipeline) : s.saved ⊆ (s.call hash driver call).saved := by
  cases call with
  | openIn | compile => exact Finset.Subset.refl _
  | save index written =>
      cases written with
      | false => exact Finset.Subset.refl _
      | true =>
          cases s.save_cases hash driver index with
          | inl unchanged =>
              rw [SharedFile.call, unchanged.1]
          | inr wrote =>
              obtain ⟨cache, data, hcache, hsave⟩ := wrote
              rw [SharedFile.call, save_written hcache hsave]
              exact Finset.subset_union_left

/-- What a cache holds is saved if it writes. -/
theorem Holds.saved {index : Nat} {pipeline : Pipeline} (h : s.Holds index pipeline)
    (writes : (s.caches[index]?.bind fun found => found.save hash driver).isSome = true) :
    pipeline ∈ (s.call hash driver (.save index true)).saved := by
  obtain ⟨cache, hcache, hmem⟩ := h
  rw [hcache, Option.bind_some] at writes
  obtain ⟨data, hsave⟩ := Option.isSome_iff_exists.mp writes
  rw [SharedFile.call, save_written hcache hsave]
  exact Finset.mem_union_right _ hmem

omit [DecidableEq Pipeline] in
theorem Alone.informed (h : s.Alone) (call : FileCall Pipeline) :
    s.Informed hash driver call := by
  intro index cache data hcall hcache hsave
  rw [h cache (List.mem_of_getElem? hcache)]
  exact Finset.empty_subset _

/-- The only cache of a file misses nothing. -/
theorem Alone.call (h : s.Alone) (call : FileCall Pipeline)
    (one : (s.call hash driver call).caches.length ≤ 1) : (s.call hash driver call).Alone := by
  cases call with
  | openIn pid =>
      intro cache hcache
      cases List.mem_append.mp hcache with
      | inl old => exact h cache old
      | inr new => rw [List.mem_singleton.mp new]; rfl
  | compile index pipeline =>
      intro cache hcache
      obtain ⟨position, hposition⟩ := List.getElem?_of_mem hcache
      rw [SharedFile.call, List.getElem?_modify] at hposition
      obtain ⟨before, hbefore, heq⟩ := Option.map_eq_some_iff.mp hposition
      have unseen := h before (List.mem_of_getElem? hbefore)
      subst heq
      split
      · exact unseen
      · exact unseen
  | save index written =>
      rw [length_save] at one
      cases written with
      | false => exact h
      | true =>
          cases s.save_cases hash driver index with
          | inl unchanged =>
              rw [SharedFile.call, unchanged.1]
              exact h
          | inr wrote =>
              obtain ⟨cache, data, hcache, hsave⟩ := wrote
              obtain ⟨only, honly⟩ : ∃ only, s.caches = [only] := by
                obtain ⟨hindex, -⟩ := List.getElem?_eq_some_iff.mp hcache
                exact List.length_eq_one_iff.mp (by omega)
              obtain ⟨hindex, -⟩ := List.getElem?_eq_some_iff.mp hcache
              have first : index = 0 := by omega
              rw [SharedFile.call, save_written hcache hsave, honly, first]
              intro found hfound
              rw [List.mem_singleton.mp hfound]
              rfl

end SharedFile

/-! The registry -/

namespace PipelineProcess

/-- The caches that have been opened, of all devices. -/
def handles (p : PipelineProcess Device Key Pipeline) : List (CacheHandle Key) :=
  p.caches.filterMap Prod.snd

variable (cacheKey) in
/-- Each device is registered once, and the caches of a file are those of the devices, in the
order in which these have opened it. -/
structure Registered (p : PipelineProcess Device Key Pipeline) : Prop where
  devices : (p.caches.map Prod.fst).Nodup
  keyed : ∀ device cache, (device, some cache) ∈ p.caches →
    ∃ adapter, cacheKey device adapter = some cache.file
  opened : ∀ key, (p.handles.filter fun cache => cache.file = key).map CacheHandle.index =
    List.range (p.files key).caches.length

/-- A creation goes on with the cache of its device. -/
def Goes (p : PipelineProcess Device Key Pipeline) :
    Creation Device Adapter Key Pipeline → Prop
  | .looksUp _ _ _ => True
  | .compiles device cache _ => (device, cache) ∈ p.caches
  | .saves device cache pipeline =>
      (device, some cache) ∈ p.caches ∧ (p.files cache.file).Holds cache.index pipeline

variable {p : PipelineProcess Device Key Pipeline}

theorem call_files (p : PipelineProcess Device Key Pipeline) (key other : Key)
    (call : FileCall Pipeline) : (p.call hash driver key call).files other =
      if other = key then (p.files other).call hash driver call else p.files other := by
  refine (Function.update_apply p.files key _ other).trans ?_
  by_cases heq : other = key
  · rw [if_pos heq, if_pos heq, heq]
  · rw [if_neg heq, if_neg heq]

omit [DecidableEq Pipeline] in
theorem Registered.inside (h : p.Registered cacheKey) {device : Device} {cache : CacheHandle Key}
    (hmem : (device, some cache) ∈ p.caches) :
    cache.index < (p.files cache.file).caches.length := by
  have listed : cache ∈ p.handles := List.mem_filterMap.mpr ⟨_, hmem, rfl⟩
  have position : cache.index ∈
      (p.handles.filter fun other => other.file = cache.file).map CacheHandle.index :=
    List.mem_map.mpr ⟨cache, List.mem_filter.mpr ⟨listed, decide_eq_true rfl⟩, rfl⟩
  rw [h.opened] at position
  exact List.mem_range.mp position

omit [DecidableEq Pipeline] in
/-- A call that opens nothing leaves the registry as it is. -/
theorem Registered.of_length (h : p.Registered cacheKey)
    {q : PipelineProcess Device Key Pipeline} (caches : q.caches = p.caches)
    (length : ∀ key, (q.files key).caches.length = (p.files key).caches.length) :
    q.Registered cacheKey := by
  have handles : q.handles = p.handles := congrArg (List.filterMap Prod.snd) caches
  constructor
  · rw [caches]
    exact h.devices
  · rw [caches]
    exact h.keyed
  · intro key
    rw [length, handles]
    exact h.opened key

theorem Registered.openCache (h : p.Registered cacheKey) {device : Device}
    (fresh : device ∉ p.caches.map Prod.fst) (adapter : Adapter) :
    (p.openCache hash driver pid device (cacheKey device adapter)).2.Registered cacheKey := by
  have devices : ∀ cache : Option (CacheHandle Key),
      ((p.caches ++ [(device, cache)]).map Prod.fst).Nodup := by
    intro cache
    rw [List.map_append, List.map_singleton, ← List.concat_eq_append]
    exact h.devices.concat fresh
  cases hkey : cacheKey device adapter with
  | none =>
      have handles : (p.caches ++ [(device, none)]).filterMap Prod.snd = p.handles := by
        rw [List.filterMap_append]
        exact List.append_nil _
      refine ⟨devices none, fun other cache hmem => ?_, fun key => ?_⟩
      · cases List.mem_append.mp hmem with
        | inl old => exact h.keyed other cache old
        | inr new => cases List.mem_singleton.mp new
      · rw [PipelineProcess.openCache, PipelineProcess.handles, handles]
        exact h.opened key
  | some key =>
      let handle : CacheHandle Key := ⟨key, (p.files key).caches.length⟩
      have handles : (p.caches ++ [(device, some handle)]).filterMap Prod.snd =
          p.handles ++ [handle] := by
        rw [List.filterMap_append]
        rfl
      refine ⟨devices _, fun other cache hmem => ?_, fun other => ?_⟩
      · cases List.mem_append.mp hmem with
        | inl old => exact h.keyed other cache old
        | inr new =>
            cases List.mem_singleton.mp new
            exact ⟨adapter, hkey⟩
      · rw [PipelineProcess.openCache, PipelineProcess.handles, handles]
        show _ = List.range ((p.call hash driver key (.openIn pid)).files other).caches.length
        rw [call_files, List.filter_append, List.map_append, h.opened]
        by_cases heq : other = key
        · rw [if_pos heq, SharedFile.length_openIn, List.range_succ, heq]
          simp [handle]
        · rw [if_neg heq]
          simp [handle, Ne.symm heq]

omit [DecidableEq Key] in
/-- A creation goes on with its cache whatever another one does. -/
theorem goes_call {creation : Creation Device Adapter Key Pipeline} (h : p.Goes creation)
    {q : PipelineProcess Device Key Pipeline} (caches : p.caches ⊆ q.caches)
    (files : ∀ key, q.files key = p.files key ∨
      ∃ call, q.files key = (p.files key).call hash driver call) : q.Goes creation := by
  cases creation with
  | looksUp => trivial
  | compiles device cache pipeline => exact caches h
  | saves device cache pipeline =>
      obtain ⟨hmem, holds⟩ := h
      refine ⟨caches hmem, ?_⟩
      cases files cache.file with
      | inl same => exact same ▸ holds
      | inr called =>
          obtain ⟨call, heq⟩ := called
          rw [heq]
          exact holds.call call

/-- What registers a device: its cache, and at most one more cache of a file. -/
theorem openCache_grows (p : PipelineProcess Device Key Pipeline) (device : Device)
    (key : Option Key) :
    let answer := p.openCache hash driver pid device key
    (device, answer.1) ∈ answer.2.caches ∧ p.caches ⊆ answer.2.caches ∧
      answer.2.written = p.written ∧ ∀ other, answer.2.files other = p.files other ∨
        answer.2.files other = (p.files other).call hash driver (.openIn pid) := by
  cases key with
  | none =>
      exact ⟨List.mem_append_right _ (List.mem_singleton_self _), List.subset_append_left _ _,
        rfl, fun _ => .inl rfl⟩
  | some key =>
      refine ⟨List.mem_append_right _ (List.mem_singleton_self _), List.subset_append_left _ _,
        rfl, fun other => ?_⟩
      show (p.call hash driver key (.openIn pid)).files other = _ ∨
        (p.call hash driver key (.openIn pid)).files other = _
      rw [call_files]
      by_cases heq : other = key
      · exact .inr (if_pos heq)
      · exact .inl (if_neg heq)

theorem call_grows (p : PipelineProcess Device Key Pipeline) (key : Key)
    (call : FileCall Pipeline) (other : Key) :
    (p.call hash driver key call).files other = p.files other ∨
      ∃ done,
        (p.call hash driver key call).files other = (p.files other).call hash driver done := by
  rw [call_files]
  by_cases heq : other = key
  · exact .inr ⟨call, if_pos heq⟩
  · exact .inl (if_neg heq)

theorem call_length {p : PipelineProcess Device Key Pipeline} {key : Key}
    {call : FileCall Pipeline}
    (h : ∀ s : SharedFile Pipeline, (s.call hash driver call).caches.length = s.caches.length)
    (other : Key) :
    ((p.call hash driver key call).files other).caches.length =
      (p.files other).caches.length := by
  rw [call_files]
  by_cases heq : other = key
  · rw [if_pos heq, h]
  · rw [if_neg heq]

variable [DecidableEq Device]

variable (hash driver cacheKey pid) in
theorem pipelineCache_cases (p : PipelineProcess Device Key Pipeline) (device : Device)
    (adapter : Adapter) :
    (∃ cache, (device, cache) ∈ p.caches ∧
      p.pipelineCache hash driver cacheKey pid device adapter = (cache, p)) ∨
    (device ∉ p.caches.map Prod.fst ∧
      p.pipelineCache hash driver cacheKey pid device adapter =
        p.openCache hash driver pid device (cacheKey device adapter)) := by
  rw [pipelineCache]
  cases hfind : p.caches.find? fun entry => entry.1 = device with
  | some entry =>
      have same : entry.1 = device := by simpa using List.find?_some hfind
      refine .inl ⟨entry.2, ?_, rfl⟩
      rw [← same]
      exact List.mem_of_find?_eq_some hfind
  | none =>
      refine .inr ⟨fun hmem => ?_, rfl⟩
      obtain ⟨entry, hentry, hdevice⟩ := List.mem_map.mp hmem
      exact List.find?_eq_none.mp hfind entry hentry (decide_eq_true hdevice)

/-- What a creation does to the registry and to the creations beside it. -/
theorem creationRule_keeps (p : PipelineProcess Device Key Pipeline)
    (taken : Multiset (Creation Device Adapter Key Pipeline))
    (q : PipelineProcess Device Key Pipeline)
    (left : Multiset (Creation Device Adapter Key Pipeline))
    (rule : CreationRule hash driver cacheKey pid p taken q left)
    (h : p.Registered cacheKey) (goes : ∀ creation ∈ taken, p.Goes creation) :
    q.Registered cacheKey ∧ (∀ creation ∈ left, q.Goes creation) ∧
      ∀ creation : Creation Device Adapter Key Pipeline, p.Goes creation → q.Goes creation := by
  cases rule with
  | begins => exact ⟨h, leaves_one trivial, fun _ => id⟩
  | @looksUp _ device adapter pipeline =>
      obtain ⟨cache, hmem, heq⟩ | ⟨fresh, heq⟩ :=
        p.pipelineCache_cases hash driver cacheKey pid device adapter
      · rw [heq]
        exact ⟨h, leaves_one hmem, fun _ => id⟩
      · rw [heq]
        obtain ⟨mine, caches, -, files⟩ :=
          p.openCache_grows device (cacheKey device adapter)
        refine ⟨h.openCache fresh adapter, leaves_one mine, fun creation hgoes =>
          goes_call hgoes caches fun key => (files key).imp_right fun opened => ⟨_, opened⟩⟩
  | @compiles _ device cache pipeline =>
      have mine : (device, some cache) ∈ p.caches := goes _ (Multiset.mem_singleton_self _)
      refine ⟨h.of_length rfl (call_length fun s => s.length_compile cache.index pipeline),
        leaves_one ⟨mine, ?_⟩, fun creation hgoes =>
          goes_call hgoes (List.Subset.refl _) (call_grows p cache.file _)⟩
      rw [call_files, if_pos rfl]
      exact SharedFile.holds_compile (h.inside mine) pipeline
  | @saves _ device cache pipeline written =>
      exact ⟨h.of_length rfl (call_length fun s => s.length_save cache.index written), leaves_none,
        fun creation hgoes => goes_call hgoes (List.Subset.refl _) (call_grows p cache.file _)⟩
  | leaves => exact ⟨h, leaves_none, fun _ => id⟩

/-! Files of one device -/

/-- At most one of the registered devices has this file. -/
def OfOne (p : PipelineProcess Device Key Pipeline) (key : Key) : Prop :=
  ∀ device other cache cache', (device, some cache) ∈ p.caches →
    (other, some cache') ∈ p.caches → cache.file = key → cache'.file = key → device = other

omit [DecidableEq Key] [DecidableEq Pipeline] [DecidableEq Device] in
theorem OfOne.before {q : PipelineProcess Device Key Pipeline} {key : Key} (h : q.OfOne key)
    (caches : p.caches ⊆ q.caches) : p.OfOne key :=
  fun device other cache cache' hcache hcache' =>
    h device other cache cache' (caches hcache) (caches hcache')

omit [DecidableEq Pipeline] [DecidableEq Device] in
theorem Registered.one (h : p.Registered cacheKey) {key : Key} (apart : p.OfOne key) :
    (p.files key).caches.length ≤ 1 := by
  by_contra more
  have cache : ∀ index < 2, ∃ device cache, (device, some cache) ∈ p.caches ∧
      cache.file = key ∧ cache.index = index := by
    intro index hindex
    have listed : index ∈ List.range (p.files key).caches.length :=
      List.mem_range.mpr (by omega)
    rw [← h.opened] at listed
    obtain ⟨cache, hcache, rfl⟩ := List.mem_map.mp listed
    obtain ⟨hmem, hfile⟩ := List.mem_filter.mp hcache
    obtain ⟨⟨device, _⟩, hentry, rfl⟩ := List.mem_filterMap.mp hmem
    exact ⟨device, cache, hentry, of_decide_eq_true hfile, rfl⟩
  obtain ⟨device, first, hfirst, file, zero⟩ := cache 0 (by decide)
  obtain ⟨other, second, hsecond, file', one⟩ := cache 1 (by decide)
  have same : device = other := apart device other first second hfirst hsecond file file'
  have entries := List.inj_on_of_nodup_map h.devices hfirst hsecond same
  cases entries
  omega

variable (driver) in
/-- Nothing of a file that has been saved is lost, and what has been written was saved. -/
structure Complete (p : PipelineProcess Device Key Pipeline) (key : Key) : Prop where
  sound : (p.files key).Sound driver
  alone : (p.files key).Alone
  written : ∀ pipeline, (key, pipeline) ∈ p.written → pipeline ∈ (p.files key).saved

omit [DecidableEq Device] [DecidableEq Key] in
/-- Calls on a file of one cache lose nothing. -/
theorem Complete.of_files {key : Key} (h : p.Complete driver key)
    {q : PipelineProcess Device Key Pipeline}
    (file : q.files key = p.files key ∨
      ∃ call, q.files key = (p.files key).call hash driver call)
    (one : (q.files key).caches.length ≤ 1)
    (written : ∀ pipeline, (key, pipeline) ∈ q.written →
      (key, pipeline) ∈ p.written ∨ pipeline ∈ (q.files key).saved) : q.Complete driver key := by
  cases file with
  | inl same =>
      rw [same] at written
      exact ⟨same ▸ h.sound, same ▸ h.alone, fun pipeline hpipeline =>
        same ▸ (written pipeline hpipeline).elim (h.written pipeline) id⟩
  | inr called =>
      obtain ⟨call, heq⟩ := called
      rw [heq] at one written
      have informed : (p.files key).Informed hash driver call := h.alone.informed call
      constructor
      · rw [heq]
        exact h.sound.call call ((h.sound.kept_iff call).mpr informed)
      · rw [heq]
        exact h.alone.call call one
      · rw [heq]
        intro pipeline hpipeline
        cases written pipeline hpipeline with
        | inl before => exact SharedFile.saved_subset call (h.written pipeline before)
        | inr now => exact now

theorem creationRule_caches {q : PipelineProcess Device Key Pipeline}
    {taken left : Multiset (Creation Device Adapter Key Pipeline)}
    (rule : CreationRule hash driver cacheKey pid p taken q left) : p.caches ⊆ q.caches := by
  cases rule with
  | begins | compiles | saves | leaves => exact List.Subset.refl _
  | @looksUp _ device adapter pipeline =>
      obtain ⟨cache, hmem, heq⟩ | ⟨fresh, heq⟩ :=
        p.pipelineCache_cases hash driver cacheKey pid device adapter
      · rw [heq]
        exact List.Subset.refl _
      · rw [heq]
        exact (p.openCache_grows device (cacheKey device adapter)).2.1

theorem creationRule_complete {key : Key} {q : PipelineProcess Device Key Pipeline}
    {taken left : Multiset (Creation Device Adapter Key Pipeline)}
    (rule : CreationRule hash driver cacheKey pid p taken q left) (h : p.Complete driver key)
    (goes : ∀ creation ∈ taken, p.Goes creation)
    (one : (q.files key).caches.length ≤ 1) : q.Complete driver key := by
  cases rule with
  | begins | leaves => exact h
  | @looksUp _ device adapter pipeline =>
      obtain ⟨cache, hmem, heq⟩ | ⟨fresh, heq⟩ :=
        p.pipelineCache_cases hash driver cacheKey pid device adapter
      · rw [heq]
        exact h
      · rw [heq] at one ⊢
        obtain ⟨-, -, written, files⟩ := p.openCache_grows device (cacheKey device adapter)
        refine h.of_files ((files key).imp_right fun opened => ⟨_, opened⟩) one ?_
        rw [written]
        exact fun pipeline hpipeline => .inl hpipeline
  | compiles => exact h.of_files (call_grows p _ _ key) one fun pipeline hpipeline => .inl hpipeline
  | @saves _ device cache pipeline written =>
      refine h.of_files (call_grows p _ _ key) one fun saved hsaved => ?_
      obtain ⟨-, holds⟩ := goes _ (Multiset.mem_singleton_self _)
      rw [PipelineProcess.save] at hsaved ⊢
      dsimp only at hsaved ⊢
      split at hsaved
      · next wrote =>
          obtain ⟨rfl, writes⟩ := Bool.and_eq_true_iff.mp wrote
          cases hsaved with
          | head =>
              right
              rw [call_files, if_pos rfl]
              exact holds.saved writes
          | tail _ before => exact .inl before
      · exact .inl hsaved

/-! Every run -/

variable (hash driver cacheKey pid) in
abbrev Process : CreationConfig Device Adapter Key Pipeline →
    CreationConfig Device Adapter Key Pipeline → Prop :=
  Step (CreationRule hash driver cacheKey pid)

variable {c : CreationConfig Device Adapter Key Pipeline}

omit [DecidableEq Device] [DecidableEq Pipeline] in
theorem initial_registered (files : Key → Option Bytes) :
    (initial files : PipelineProcess Device Key Pipeline).Registered cacheKey :=
  ⟨List.nodup_nil, fun _ _ h => (List.not_mem_nil h).elim, fun _ => rfl⟩

omit [DecidableEq Device] [DecidableEq Key] in
theorem initial_complete (files : Key → Option Bytes) (key : Key) :
    (initial files : PipelineProcess Device Key Pipeline).Complete driver key :=
  ⟨SharedFile.initial_sound (files key), fun _ h => (List.not_mem_nil h).elim,
    fun _ h => (List.not_mem_nil h).elim⟩

/-- Each device is registered once, every creation goes on with the cache that is registered for
its device, and the caches of a file are those of the devices registered with it. -/
theorem caches_registered (hc : Reachable CreationStart (Process hash driver cacheKey pid) c) :
    c.shared.Registered cacheKey ∧ ∀ creation ∈ c.running, c.shared.Goes creation := by
  refine Reachable.keeps ?_ creationRule_keeps hc
  rintro c ⟨files, rfl⟩
  exact ⟨initial_registered files, leaves_none⟩

/-- One thread goes on alone. -/
theorem goesOn {p q : PipelineProcess Device Key Pipeline}
    {taken left : Multiset (Creation Device Adapter Key Pipeline)}
    (h : Reachable CreationStart (Process hash driver cacheKey pid) ⟨p, taken⟩)
    (rule : CreationRule hash driver cacheKey pid p taken q left) :
    Reachable CreationStart (Process hash driver cacheKey pid) ⟨q, left⟩ := by
  have fired := h.fire 0 rule (add_zero taken).symm
  rwa [add_zero] at fired

/-- The second creation for a device finds the cache of the first. -/
theorem caches_registered_second :
    ∃ c : CreationConfig Bool Unit Bool Bool,
      Reachable CreationStart (Process (fun _ => 0) twoShaders (fun device _ => some device) 1) c ∧
        c.shared.Registered (fun device (_ : Unit) => some device) ∧
        c.running = {.compiles true (some ⟨true, 0⟩) false} ∧ c.shared.caches.length = 1 := by
  have started : Reachable CreationStart
      (Process (fun _ => 0) twoShaders (fun (device : Bool) (_ : Unit) => some device) 1)
      ⟨.initial fun _ => none, 0⟩ := .start ⟨_, rfl⟩
  have first := goesOn (goesOn started (.begins true () true)) .looksUp
  have left := goesOn first .leaves
  have second := goesOn (goesOn left (.begins true () false)) .looksUp
  exact ⟨_, second, (caches_registered second).1, rfl, rfl⟩

/-- A file that one registered device has keeps every pipeline that any creation has written. -/
theorem written_pipelines_stay (hc : Reachable CreationStart (Process hash driver cacheKey pid) c)
    {key : Key} (apart : c.shared.OfOne key) :
    (c.shared.files key).caches.length ≤ 1 ∧
      ∀ pipeline, (key, pipeline) ∈ c.shared.written →
        pipeline ∈ (c.shared.files key).held driver := by
  have invariant : (c.shared.Registered cacheKey ∧
      (c.shared.OfOne key → c.shared.Complete driver key)) ∧
      ∀ creation ∈ c.running, c.shared.Goes creation := by
    refine hc.keeps (I := fun p => p.Registered cacheKey ∧ (p.OfOne key → p.Complete driver key))
      (J := fun p creation => p.Goes creation) ?_ ?_
    · rintro c ⟨files, rfl⟩
      exact ⟨⟨initial_registered files, fun _ => initial_complete files key⟩, leaves_none⟩
    · rintro p taken q left rule ⟨registered, complete⟩ goes
      obtain ⟨registered', left', others⟩ := creationRule_keeps p taken q left rule registered goes
      refine ⟨⟨registered', fun apart' => ?_⟩, left', others⟩
      have before := complete (apart'.before (creationRule_caches rule))
      exact creationRule_complete rule before goes (registered'.one apart')
  obtain ⟨⟨registered, complete⟩, -⟩ := invariant
  refine ⟨registered.one apart, fun pipeline hpipeline => ?_⟩
  exact (complete apart).sound.kept ((complete apart).written pipeline hpipeline)

/-- Two devices have one key, but only one of them is registered: its first shader stays. -/
theorem written_pipelines_stay_first :
    ∃ c : CreationConfig Bool Unit Unit Bool,
      Reachable CreationStart (Process (fun _ => 0) twoShaders (fun _ _ => some ()) 1) c ∧
        ((), true) ∈ c.shared.written ∧ true ∈ (c.shared.files ()).held twoShaders := by
  have started : Reachable CreationStart
      (Process (fun _ => 0) twoShaders (fun (_ : Bool) (_ : Unit) => some ()) 1)
      ⟨.initial fun _ => none, 0⟩ := .start ⟨_, rfl⟩
  have begun := goesOn started (.begins false () true)
  have found := goesOn begun .looksUp
  have compiled := goesOn found .compiles
  have saved := goesOn compiled (.saves true)
  refine ⟨_, saved, ?_, (written_pipelines_stay saved (fun device other cache cache' h h' _ _ =>
    ?_)).2 true ?_⟩
  · decide
  · rw [(Prod.mk.inj (List.mem_singleton.mp h)).1, (Prod.mk.inj (List.mem_singleton.mp h')).1]
  · decide

end PipelineProcess

end GpuInfo
