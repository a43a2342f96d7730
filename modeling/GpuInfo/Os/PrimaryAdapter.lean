import GpuInfo.Os.GpuMemory
import GpuInfo.Stats.Attribution
import GpuInfo.Stats.InstanceAttribution

/-!
The primary GPU of Windows: the largest of the adapters that DXGI describes, of the discrete ones
if there is one, and of equally large ones the first. It is also the first of all GPUs.
-/

namespace GpuInfo
open Binary64

/-- `os::query_all`, of what `stats::query_all` and `os::query` answer. -/
def osQueryAll {F32 : Type} (all : List (GpuStats F32)) (query : Option GpuMemInfo) :
    List GpuMemInfo :=
  let list := all.filterMap GpuStats.memInfo
  if list = [] then query.toList else list

/-- `dedicated_vram` -/
def dedicatedVram (query : Option GpuMemInfo) : Nat :=
  (query.map GpuMemInfo.dedicatedVram).getD 0

/-- The memory of an adapter, with so much in use. -/
def TaggedAdapter.memInfo (adapter : TaggedAdapter) (used : Nat) : GpuMemInfo :=
  ⟨adapter.name, adapter.totalBytes, adapter.totalBytes - used, adapter.sharedBytes,
    adapter.unified⟩

theorem openAll_sorted (enumerated : List (Option AdapterDesc)) :
    (openAll enumerated).Pairwise fun a b => b.totalBytes ≤ a.totalBytes := by
  have : Std.Total fun a b : TaggedAdapter => b.totalBytes ≤ a.totalBytes :=
    ⟨fun a b => Nat.le_total b.totalBytes a.totalBytes⟩
  have : IsTrans TaggedAdapter fun a b => b.totalBytes ≤ a.totalBytes :=
    ⟨fun _ _ _ h h' => h'.trans h⟩
  exact List.pairwise_insertionSort _ (candidates enumerated)

theorem adapter_positive {enumerated : List (Option AdapterDesc)} {adapter : TaggedAdapter}
    (h : adapter ∈ openAll enumerated) : 0 < adapter.totalBytes := by
  obtain ⟨desc, -, hdesc⟩ := mem_openAll h
  exact (adapter_of_desc hdesc).2.2.1

/-- The head of a stable sort is the first of the largest. -/
theorem head_insertionSort {α : Type} (key : α → Nat) {list : List α} {best : α}
    (h : (list.insertionSort fun a b => key b ≤ key a).head? = some best) :
    ∃ before after, list = before ++ best :: after ∧
      (∀ other ∈ before, key other < key best) ∧ ∀ other ∈ after, key other ≤ key best := by
  induction list generalizing best with
  | nil => cases h
  | cons first list ih =>
      rw [List.insertionSort_cons] at h
      cases hsorted : list.insertionSort fun a b => key b ≤ key a with
      | nil =>
          rw [hsorted, List.orderedInsert_nil] at h
          cases h
          have empty : list = [] := by
            rw [← List.length_eq_zero_iff, ← List.length_insertionSort fun a b => key b ≤ key a,
              hsorted, List.length_nil]
          exact ⟨[], list, rfl, by simp, by simp [empty]⟩
      | cons top rest =>
          obtain ⟨before, after, hlist, hbefore, hafter⟩ := ih (congrArg List.head? hsorted)
          rw [hsorted, List.orderedInsert_cons] at h
          by_cases hle : key top ≤ key first
          · rw [if_pos hle] at h
            cases h
            refine ⟨[], list, rfl, by simp, fun other hother => le_trans ?_ hle⟩
            rw [hlist, List.mem_append, List.mem_cons] at hother
            obtain hother | rfl | hother := hother
            · exact (hbefore other hother).le
            · exact le_rfl
            · exact hafter other hother
          · rw [if_neg hle] at h
            cases h
            refine ⟨first :: before, after, by rw [hlist, List.cons_append], ?_, hafter⟩
            exact List.forall_mem_cons.mpr ⟨Nat.lt_of_not_le hle, hbefore⟩

/-- The adapters of hardware with memory. -/
def described (enumerated : List (Option AdapterDesc)) : List TaggedAdapter :=
  enumerated.filterMap fun desc => desc.bind AdapterDesc.adapter

/-- A discrete adapter goes before a unified one, and then the larger one. -/
def TaggedAdapter.Before (a b : TaggedAdapter) : Prop :=
  a.unified < b.unified ∨ a.unified = b.unified ∧ b.totalBytes < a.totalBytes

/-- The first candidate of all is the first of the adapters that none goes before. -/
theorem first_of_candidates {enumerated : List (Option AdapterDesc)}
    {before after : List TaggedAdapter} {primary : TaggedAdapter}
    (h : candidates enumerated = before ++ primary :: after)
    (hbefore : ∀ other ∈ before, other.totalBytes < primary.totalBytes)
    (hafter : ∀ other ∈ after, other.totalBytes ≤ primary.totalBytes) :
    ∃ earlier later, described enumerated = earlier ++ primary :: later ∧
        (∀ other ∈ earlier, primary.Before other) ∧
        ∀ other ∈ later, ¬ other.Before primary := by
  simp only [candidates] at h
  split at h
  · obtain ⟨front, back, hlist, hfront, hback⟩ := List.filter_eq_append_iff.mp h
    obtain ⟨skipped, later, rfl, hskipped, hprimary, hlater⟩ := List.filter_eq_cons_iff.mp hback
    have discrete : primary.unified = false := by simpa using hprimary
    refine ⟨front ++ skipped, later, by rw [described, hlist, List.append_assoc], ?_, ?_⟩
    · intro other hother
      cases hunified : other.unified with
      | true => exact .inl (by rw [discrete, hunified]; decide)
      | false =>
          refine .inr ⟨discrete.trans hunified.symm, hbefore other ?_⟩
          rw [← hfront]
          cases List.mem_append.mp hother with
          | inl hmem => exact List.mem_filter.mpr ⟨hmem, by simp [hunified]⟩
          | inr hmem => exact absurd (by simp [hunified]) (hskipped other hmem)
    · rintro other hother (hlt | ⟨hsame, hlarger⟩)
      · rw [discrete] at hlt
        exact absurd hlt (not_lt_of_ge (Bool.false_le _))
      · have listed : other ∈ after := by
          rw [← hlater]
          exact List.mem_filter.mpr ⟨hother, by simp [hsame, discrete]⟩
        exact absurd (hafter other listed) (Nat.not_le_of_lt hlarger)
  · next none =>
      have unified : ∀ other ∈ before ++ primary :: after, other.unified = true := by
        intro other hother
        by_contra hunified
        exact none (List.any_eq_true.mpr ⟨other, h ▸ hother, by simpa using hunified⟩)
      have own := unified primary (by simp)
      refine ⟨before, after, h, fun other hother => .inr ⟨?_, hbefore other hother⟩, ?_⟩
      · rw [own, unified other (List.mem_append_left _ hother)]
      · rintro other hother (hlt | ⟨-, hlarger⟩)
        · rw [unified other (by simp [hother]), own] at hlt
          exact absurd hlt (lt_irrefl true)
        · exact absurd (hafter other hother) (Nat.not_le_of_lt hlarger)

theorem openAll_nil {enumerated : List (Option AdapterDesc)} :
    openAll enumerated = [] ↔ described enumerated = [] := by
  have listed : candidates enumerated = [] ↔ described enumerated = [] := by
    constructor
    · intro hnone
      simp only [candidates] at hnone
      split at hnone
      · next some =>
          obtain ⟨adapter, hadapter, discrete⟩ := List.any_eq_true.mp some
          exact absurd discrete (List.filter_eq_nil_iff.mp hnone adapter hadapter)
      · exact hnone
    · intro hnone
      exact List.sublist_nil.mp (hnone ▸ candidates_sublist enumerated)
  rw [← listed]
  exact ⟨fun h => List.nil_perm.mp (h ▸ openAll_perm enumerated),
    fun h => List.perm_nil.mp (h ▸ openAll_perm enumerated)⟩

theorem windowsQuery_head {enumerated : List (Option AdapterDesc)} (used : Option Nat) :
    windowsQuery (adapterMemory ((openAll enumerated).map TaggedAdapter.toAdapter) used) =
      (openAll enumerated).head?.map fun primary => primary.memInfo (used.getD 0) := by
  rw [adapterMemory, List.head?_map, Option.map_map]
  cases hhead : (openAll enumerated).head? with
  | none => rfl
  | some primary => exact if_pos (adapter_positive (List.mem_of_mem_head? hhead))

/-- The primary GPU is the first of the adapters that are enumerated before which none goes, and
there is none only if no hardware with memory is enumerated. -/
theorem primary_adapter (enumerated : List (Option AdapterDesc)) (used : Option Nat) :
    let query := windowsQuery
      (adapterMemory ((openAll enumerated).map TaggedAdapter.toAdapter) used)
    (query = none ↔ described enumerated = []) ∧
      ∀ info, query = some info → ∃ earlier desc later primary,
        enumerated = earlier ++ some desc :: later ∧ desc.adapter = some primary ∧
          info = primary.memInfo (used.getD 0) ∧
          (∀ other ∈ described earlier, primary.Before other) ∧
          ∀ other ∈ described later, ¬ other.Before primary := by
  intro query
  have head : query = (openAll enumerated).head?.map _ := windowsQuery_head used
  refine ⟨?_, fun info hinfo => ?_⟩
  · rw [head, Option.map_eq_none_iff, List.head?_eq_none_iff]
    exact openAll_nil
  · rw [head] at hinfo
    obtain ⟨primary, hprimary, rfl⟩ := Option.map_eq_some_iff.mp hinfo
    obtain ⟨before, after, hlist, hbefore, hafter⟩ :=
      head_insertionSort (fun adapter : TaggedAdapter => adapter.totalBytes) hprimary
    obtain ⟨first, last, hdescribed, hfirst, hlast⟩ := first_of_candidates hlist hbefore hafter
    obtain ⟨front, back, rfl, rfl, hback⟩ := List.filterMap_eq_append_iff.mp hdescribed
    obtain ⟨skipped, found, later, rfl, hskipped, hfound, rfl⟩ :=
      List.filterMap_eq_cons_iff.mp hback
    obtain ⟨desc, rfl, hdesc⟩ := Option.bind_eq_some_iff.mp hfound
    refine ⟨front ++ skipped, desc, later, primary, by rw [List.append_assoc], hdesc, rfl,
      fun other hother => hfirst other ?_, hlast⟩
    have none : described skipped = [] := List.filterMap_eq_nil_iff.mpr hskipped
    rwa [described, List.filterMap_append, ← described, ← described, none,
      List.append_nil] at hother

/-! All GPUs -/

variable {F32 : Type} (toF32 : Double → F32)

/-- What is counted for the adapters that are open. -/
def pollSamples (adapters : List TaggedAdapter) (poll : Option (Nat → Poll)) :
    List (Sample F32) :=
  match poll with
  | none => adapters.map fun _ => ⟨none, none, none⟩
  | some poll => adapters.zipIdx.map fun entry =>
      sampleCollected toF32 (poll entry.2) entry.1.luidTag entry.1.unified

/-- A GPU as it is, with what a sample has counted in place of what was counted before. -/
def GpuMemInfo.counted (info : GpuMemInfo) (sample : Sample F32) : GpuMemInfo :=
  { info with
    freeVram := info.dedicatedVram - sample.used.getD 0
    sharedMemory := sample.spilled.getD 0 }

/-- What `query_all` reports of an adapter, if there is a counter for it. -/
def listedInfo (entry : TaggedAdapter × Sample F32) : Option GpuMemInfo :=
  if entry.2.utilPct = none ∧ entry.2.used = none then none
  else some { entry.1.memInfo (entry.2.used.getD 0) with
    sharedMemory := entry.2.spilled.getD 0 }

theorem length_pollSamples (adapters : List TaggedAdapter) (poll : Option (Nat → Poll)) :
    (pollSamples toF32 adapters poll).length = adapters.length := by
  cases poll <;> simp [pollSamples]

theorem listedInfo_total {entry : TaggedAdapter × Sample F32} {info : GpuMemInfo}
    (h : listedInfo entry = some info) : info.dedicatedVram = entry.1.totalBytes := by
  obtain ⟨-, heq⟩ := Option.ite_none_left_eq_some.mp h
  rw [← Option.some.inj heq]
  rfl

theorem infos_sorted {adapters : List TaggedAdapter} {samples : List (Sample F32)}
    (sorted : adapters.Pairwise fun a b => b.totalBytes ≤ a.totalBytes)
    (h : adapters.length ≤ samples.length) :
    ((adapters.zip samples).filterMap listedInfo).Pairwise fun a b =>
      b.dedicatedVram ≤ a.dedicatedVram := by
  rw [← List.map_fst_zip h, List.pairwise_map] at sorted
  refine sorted.filterMap listedInfo fun entry other hle info hinfo info' hinfo' => ?_
  rwa [listedInfo_total hinfo, listedInfo_total hinfo']

theorem infos_le {primary : TaggedAdapter} {rest : List TaggedAdapter}
    (sorted : (primary :: rest).Pairwise fun a b => b.totalBytes ≤ a.totalBytes)
    {samples : List (Sample F32)} {info : GpuMemInfo}
    (h : info ∈ ((primary :: rest).zip samples).filterMap listedInfo) :
    info.dedicatedVram ≤ primary.totalBytes := by
  obtain ⟨entry, hentry, hinfo⟩ := List.mem_filterMap.mp h
  rw [listedInfo_total hinfo]
  cases (List.of_mem_zip hentry).1 with
  | head => exact le_rfl
  | tail _ hrest => exact List.rel_of_pairwise_cons sorted hrest

theorem listed_stats {adapter : TaggedAdapter} (positive : 0 < adapter.totalBytes)
    (sample : Sample F32) :
    (if (adapter.toAdapter.stats sample).isEmpty then none
      else (adapter.toAdapter.stats sample).memInfo) = listedInfo (adapter, sample) := by
  obtain ⟨util, used, spilled⟩ := sample
  cases util <;> cases used <;>
    simp [Adapter.stats, GpuStats.isEmpty, GpuStats.memInfo, listedInfo, TaggedAdapter.memInfo,
      positive, Option.filter]

theorem windowsQueryAll_infos {adapters : List TaggedAdapter}
    (positive : ∀ adapter ∈ adapters, 0 < adapter.totalBytes) (samples : List (Sample F32)) :
    (windowsQueryAll (adapters.map TaggedAdapter.toAdapter) samples).filterMap GpuStats.memInfo =
      (adapters.zip samples).filterMap listedInfo := by
  induction adapters generalizing samples with
  | nil => rfl
  | cons adapter adapters ih =>
      cases samples with
      | nil => rfl
      | cons sample samples =>
          have rest := ih (fun other h => positive other (List.mem_cons_of_mem adapter h)) samples
          have here := listed_stats (positive adapter List.mem_cons_self) sample
          rw [List.zip_cons_cons, List.filterMap_cons, ← rest, ← here, windowsQueryAll,
            List.map_cons, List.zipWith_cons_cons, List.filter_cons]
          cases hempty : (adapter.toAdapter.stats sample).isEmpty with
          | true => rfl
          | false => rfl

/-- What a vendor library adds is not the memory. -/
theorem enrichAll_memInfo (lib : Option (Nvml F32)) (list : List (GpuStats F32))
    (seenByName : List Char → Option Nat) :
    (GpuStats.enrichAll lib list seenByName).filterMap GpuStats.memInfo =
      list.filterMap GpuStats.memInfo := by
  induction list generalizing seenByName with
  | nil => rfl
  | cons stats list ih =>
      have same : ∀ ordinal, (stats.enrichNth lib ordinal).memInfo = stats.memInfo := by
        intro ordinal
        unfold GpuStats.enrichNth
        split
        · rfl
        · split <;> rfl
      rw [GpuStats.enrichAll, List.filterMap_cons, List.filterMap_cons, same, ih]

/-- The primary GPU is at least as large as any, and if there is a counter for it, it is the first
of all, with what was counted for the list; each of the three calls polls on its own. -/
theorem query_all_primary (enumerated : List (Option AdapterDesc)) (lib : Option (Nvml F32))
    (poll : Option (Nat → Poll)) (used fallback : Option Nat) :
    let opened := openAll enumerated
    let samples := pollSamples toF32 opened poll
    let query := fun used =>
      windowsQuery (adapterMemory (opened.map TaggedAdapter.toAdapter) used)
    let all := osQueryAll (queryAll lib (countersQueryAll toF32 opened poll)) (query fallback)
    (all = [] ↔ query used = none) ∧
      all.Pairwise (fun a b => b.dedicatedVram ≤ a.dedicatedVram) ∧
      (∀ info ∈ all, info.dedicatedVram ≤ dedicatedVram (query used)) ∧
      ∀ sample ∈ samples.head?, (sample.utilPct = none → sample.used ≠ none) →
        all.head? = (query used).map (·.counted sample) := by
  intro opened samples query all
  have head : ∀ used, query used = opened.head?.map _ := windowsQuery_head
  have infos : (queryAll lib (countersQueryAll toF32 opened poll)).filterMap GpuStats.memInfo =
      (opened.zip samples).filterMap listedInfo :=
    (enrichAll_memInfo lib _ _).trans
      (windowsQueryAll_infos (fun adapter => adapter_positive) samples)
  have listed : all = if (opened.zip samples).filterMap listedInfo = []
      then (query fallback).toList else (opened.zip samples).filterMap listedInfo := by
    rw [← infos]
    rfl
  have sorted : opened.Pairwise fun a b => b.totalBytes ≤ a.totalBytes :=
    openAll_sorted enumerated
  have length : samples.length = opened.length := length_pollSamples toF32 opened poll
  cases hopened : opened with
  | nil =>
      have none : ∀ used, query used = none := fun used => by rw [head used, hopened]; rfl
      rw [listed, hopened, List.zip_nil_left, none used, none fallback]
      simp
  | cons primary rest =>
      cases hsamples : samples with
      | nil => simp [hsamples, hopened] at length
      | cons sample more =>
          have answer : ∀ used, query used = some (primary.memInfo (used.getD 0)) := fun used => by
            rw [head used, hopened]
            rfl
          rw [hopened] at sorted listed
          rw [hsamples] at listed
          rw [answer used]
          rw [answer fallback] at listed
          refine ⟨?_, ?_, fun info hinfo => ?_, fun first hfirst answered => ?_⟩
          · rw [listed]
            split
            · exact iff_of_false nofun nofun
            · exact iff_of_false ‹_› nofun
          · rw [listed]
            split
            · exact List.pairwise_singleton _ _
            · exact infos_sorted sorted (by simpa [hsamples, hopened] using length.ge)
          · rw [listed] at hinfo
            split at hinfo
            · rw [List.mem_singleton.mp hinfo]
              exact le_rfl
            · exact infos_le sorted hinfo
          · cases hfirst
            have counted : ¬ (sample.utilPct = none ∧ sample.used = none) :=
              fun ⟨hutil, hused⟩ => answered hutil hused
            have first : listedInfo (primary, sample) =
                some { primary.memInfo (sample.used.getD 0) with
                  sharedMemory := sample.spilled.getD 0 } := if_neg counted
            rw [listed, List.zip_cons_cons, List.filterMap_cons, first]
            rfl

end GpuInfo
