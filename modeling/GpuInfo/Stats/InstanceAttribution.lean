import GpuInfo.Stats.WindowsCounters
import Mathlib.Algebra.BigOperators.Group.List.Basic

/-!
The instances of a counter are told apart by the LUID in their names, so what is counted for one
adapter is what its own instances have.
-/

namespace GpuInfo
open Binary64 GroupedValues TextFields

/-! Tags -/

theorem hexDigit_inj : ∀ a < 16, ∀ b < 16, hexDigit a = hexDigit b → a = b := by decide

theorem hexDigit_kinds : ∀ a < 16, hexDigit a ≠ 'l' ∧ hexDigit a ≠ 'e' := by decide

theorem length_hex (width value : Nat) : (hex width value).length = width := by
  induction width generalizing value with
  | zero => rfl
  | succ width ih => rw [hex, List.length_append, ih, List.length_singleton]

theorem hex_inj {width a b : Nat} (ha : a < 16 ^ width) (hb : b < 16 ^ width)
    (h : hex width a = hex width b) : a = b := by
  induction width generalizing a b with
  | zero => omega
  | succ width ih =>
      obtain ⟨front, last⟩ := List.append_inj' h rfl
      have digit := hexDigit_inj _ (Nat.mod_lt a (by decide)) _ (Nat.mod_lt b (by decide))
        (List.singleton_inj.mp last)
      rw [Nat.pow_succ] at ha hb
      have rest := ih (Nat.div_lt_of_lt_mul (by omega)) (Nat.div_lt_of_lt_mul (by omega)) front
      omega

theorem mem_hex {width value : Nat} {c : Char} (h : c ∈ hex width value) :
    c ≠ 'l' ∧ c ≠ 'e' := by
  induction width generalizing value with
  | zero => cases h
  | succ width ih =>
      cases List.mem_append.mp h with
      | inl hfront => exact ih hfront
      | inr hlast =>
          rw [List.mem_singleton.mp hlast]
          exact hexDigit_kinds _ (Nat.mod_lt value (by decide))

theorem mem_luidRest {luid : Luid} {c : Char} (h : c ∈ luidRest luid) : c ≠ 'l' ∧ c ≠ 'e' := by
  have start : ∀ c ∈ "uid_0x".toList, c ≠ 'l' ∧ c ≠ 'e' := by decide
  have middle : ∀ c ∈ "_0x".toList, c ≠ 'l' ∧ c ≠ 'e' := by decide
  cases List.mem_append.mp h with
  | inl hhigh =>
      cases List.mem_append.mp hhigh with
      | inl hstart => exact start c hstart
      | inr hhex => exact mem_hex hhex
  | inr hlow =>
      cases List.mem_append.mp hlow with
      | inl hmiddle => exact middle c hmiddle
      | inr hhex => exact mem_hex hhex

theorem length_luidRest (a b : Luid) : (luidRest a).length = (luidRest b).length := by
  unfold luidRest
  simp only [List.length_append, length_hex]

/-- Different adapters have different tags. -/
theorem luidRest_inj {a b : Luid} (h : luidRest a = luidRest b) : a = b := by
  have length : ("uid_0x".toList ++ hex 8 a.high.toUInt32.toNat).length =
      ("uid_0x".toList ++ hex 8 b.high.toUInt32.toNat).length := by
    rw [List.length_append, List.length_append, length_hex, length_hex]
  obtain ⟨front, back⟩ := List.append_inj h length
  have high := hex_inj a.high.toUInt32.toNat_lt b.high.toUInt32.toNat_lt
    (List.append_cancel_left front)
  have low := hex_inj a.low.toNat_lt b.low.toNat_lt (List.append_cancel_left back)
  obtain ⟨⟨ahigh⟩, alow⟩ := a
  obtain ⟨⟨bhigh⟩, blow⟩ := b
  have same : ahigh = bhigh := UInt32.toNat_inj.mp high
  have same' : alow = blow := UInt32.toNat_inj.mp low
  rw [same, same']

theorem digit_kinds {value : Nat} {c : Char} (h : c ∈ Nat.toDigits 10 value) :
    c ≠ 'l' ∧ c ≠ 'e' := by
  have digit := Nat.isDigit_of_mem_toDigits (by decide) (by decide) h
  constructor <;> (rintro rfl; exact absurd digit (by decide))

/-- Only instances that carry the tag are visited. -/
theorem visited_map {F : Type} {name : F → List Char} (value : F → Double) {tag : List Char}
    {own : F → Prop} [DecidablePred own] {entries : List F}
    (h : ∀ entry ∈ entries, contains tag (name entry) = true ↔ own entry) :
    visited tag (entries.map fun entry => ⟨some (name entry), value entry⟩) =
      (entries.filter fun entry => own entry ∧ (value entry).isFinite).map fun entry =>
        (name entry, value entry) := by
  induction entries with
  | nil => rfl
  | cons entry entries ih =>
      have rest := ih fun other hother => h other (List.mem_cons_of_mem entry hother)
      unfold visited at rest ⊢
      rw [List.map_cons, List.filterMap_cons, rest, List.filter_cons, Option.bind_some]
      have here := h entry List.mem_cons_self
      by_cases hown : own entry
      · cases (value entry).isFinite <;> simp [here.mpr hown, hown]
      · have absent : contains tag (name entry) = false := Bool.eq_false_iff.mpr (mt here.mp hown)
        simp [absent, hown]

/-! Memory -/

/-- An instance of the counters of the memory of adapters. -/
structure MemoryInstance where
  luid : Luid
  phys : Nat
  bytes : Nat

namespace MemoryInstance

def rest (entry : MemoryInstance) : List Char :=
  "_phys_".toList ++ Nat.toDigits 10 entry.phys

def item (entry : MemoryInstance) : CounterItem :=
  ⟨some (luidTag entry.luid ++ entry.rest), Double.whole entry.bytes⟩

end MemoryInstance

/-- What the instances of one adapter have. -/
def taggedBytes (tag : List Char) (instances : List MemoryInstance) : Nat :=
  ((instances.filter fun entry => luidTag entry.luid = tag).map MemoryInstance.bytes).sum

theorem contains_memory (luid : Luid) (entry : MemoryInstance) :
    contains (luidTag luid) (luidTag entry.luid ++ entry.rest) = true ↔
      luidTag entry.luid = luidTag luid := by
  have phys : 'l' ∉ entry.rest := by
    intro hmem
    cases List.mem_append.mp hmem with
    | inl hstart => exact absurd hstart (by decide)
    | inr hdigit => exact (digit_kinds hdigit).1 rfl
  have none : ¬ luidTag luid <:+: entry.rest := by
    rw [← List.append_nil entry.rest]
    exact not_infix_append phys (by simp)
  have word : contains (luidTag luid) ([] ++ luidTag entry.luid ++ entry.rest) = true ↔
      luidRest entry.luid = luidRest luid :=
    contains_word List.not_mem_nil (fun hmem => (mem_luidRest hmem).1 rfl)
      (length_luidRest luid entry.luid) none
  refine word.trans ?_
  rw [luidTag, luidTag, List.cons.injEq, eq_self, true_and]

theorem memoryUsed_exact {answers : PdhAnswer × PdhAnswer} {instances : List MemoryInstance}
    (h : format answers = some (instances.map MemoryInstance.item)) (luid : Luid)
    (fits : taggedBytes (luidTag luid) instances ≤ 2 ^ precision) :
    memoryUsed (luidTag luid) answers = some (taggedBytes (luidTag luid) instances) := by
  have small : taggedBytes (luidTag luid) instances ≤ MachineInteger.u64Max :=
    fits.trans (by decide)
  have values : (visited (luidTag luid) (instances.map MemoryInstance.item)).map Prod.snd =
      ((instances.filter fun entry => luidTag entry.luid = luidTag luid).map
        MemoryInstance.bytes).map Double.whole := by
    have own := visited_map (fun entry => Double.whole entry.bytes)
      fun entry (_ : entry ∈ instances) => contains_memory luid entry
    have finite : ∀ bytes, (Double.whole bytes).isFinite = true := fun _ => rfl
    simp only [finite, and_true] at own
    exact (congrArg (List.map Prod.snd) own).trans (by simp [Function.comp_def])
  have sum := Double.whole_sum
    ((instances.filter fun entry => luidTag entry.luid = luidTag luid).map MemoryInstance.bytes) 0
    (by rwa [Nat.zero_add])
  rw [Nat.zero_add, ← values] at sum
  rw [memoryUsed, h, Option.map_some, Double.zero_eq_whole, sum, ← Double.zero_eq_whole,
    Double.toU64_whole]
  exact congrArg some (Nat.min_eq_left small)

theorem taggedBytes_cons (tag : List Char) (entry : MemoryInstance)
    (instances : List MemoryInstance) :
    taggedBytes tag (entry :: instances) =
      (if luidTag entry.luid = tag then entry.bytes else 0) + taggedBytes tag instances := by
  unfold taggedBytes
  rw [List.filter_cons]
  by_cases heq : luidTag entry.luid = tag <;> simp [heq]

/-- A value is added to no more than one of distinct tags. -/
theorem sum_once_le {tags : List (List Char)} (distinct : tags.Nodup) (own : List Char)
    (bytes : Nat) : (tags.map fun tag => if own = tag then bytes else 0).sum ≤ bytes := by
  induction tags with
  | nil => exact Nat.zero_le bytes
  | cons tag tags ih =>
      rw [List.nodup_cons] at distinct
      rw [List.map_cons, List.sum_cons]
      by_cases heq : own = tag
      · have others : (tags.map fun tag => if own = tag then bytes else 0).sum = 0 := by
          refine List.sum_eq_zero fun value hvalue => ?_
          obtain ⟨other, hother, rfl⟩ := List.mem_map.mp hvalue
          refine if_neg fun hown => distinct.1 ?_
          rwa [← heq, hown]
        rw [if_pos heq, others, Nat.add_zero]
      · rw [if_neg heq, Nat.zero_add]
        exact ih distinct.2

/-- No byte is counted twice. -/
theorem taggedBytes_sum_le {tags : List (List Char)} (distinct : tags.Nodup)
    (instances : List MemoryInstance) :
    (tags.map fun tag => taggedBytes tag instances).sum ≤
      (instances.map MemoryInstance.bytes).sum := by
  induction instances with
  | nil => simp [taggedBytes]
  | cons entry instances ih =>
      simp only [taggedBytes_cons, List.sum_map_add, List.map_cons, List.sum_cons]
      exact Nat.add_le_add (sum_once_le distinct _ _) ih

theorem taggedBytes_le (tag : List Char) (instances : List MemoryInstance) :
    taggedBytes tag instances ≤ (instances.map MemoryInstance.bytes).sum := by
  have one := taggedBytes_sum_le (List.nodup_singleton tag) instances
  rwa [List.map_singleton, List.sum_singleton] at one

/-! The adapters that are opened -/

/-- Of the adapters there are, the discrete ones if there is one. -/
def candidates (enumerated : List (Option AdapterDesc)) : List TaggedAdapter :=
  let list := enumerated.filterMap fun desc => desc.bind AdapterDesc.adapter
  if list.any (!·.unified) then list.filter (!·.unified) else list

theorem adapter_of_desc {desc : AdapterDesc} {adapter : TaggedAdapter}
    (h : desc.adapter = some adapter) :
    adapter.luidTag = luidTag desc.luid ∧ adapter.name = describe desc.description ∧
      0 < adapter.totalBytes ∧ adapter.unified = (desc.dedicatedVideoMemory == 0) := by
  simp only [AdapterDesc.adapter, Option.ite_none_left_eq_some, not_or, Option.some.injEq] at h
  obtain ⟨⟨-, positive⟩, rfl⟩ := h
  exact ⟨rfl, rfl, Nat.pos_of_ne_zero positive, rfl⟩

theorem candidates_sublist (enumerated : List (Option AdapterDesc)) :
    (candidates enumerated).Sublist
      (enumerated.filterMap fun desc => desc.bind AdapterDesc.adapter) := by
  simp only [candidates]
  split
  · exact List.filter_sublist
  · exact List.Sublist.refl _

theorem openAll_perm (enumerated : List (Option AdapterDesc)) :
    (openAll enumerated).Perm (candidates enumerated) :=
  List.perm_insertionSort _ _

theorem mem_openAll {enumerated : List (Option AdapterDesc)} {adapter : TaggedAdapter}
    (h : adapter ∈ openAll enumerated) :
    ∃ desc, some desc ∈ enumerated ∧ desc.adapter = some adapter := by
  have listed := (candidates_sublist enumerated).subset ((openAll_perm enumerated).subset h)
  obtain ⟨found, hfound, hbind⟩ := List.mem_filterMap.mp listed
  obtain ⟨desc, rfl, hdesc⟩ := Option.bind_eq_some_iff.mp hbind
  exact ⟨desc, hfound, hdesc⟩

/-- Discrete adapters and unified ones do not come together. -/
theorem openAll_unified (enumerated : List (Option AdapterDesc)) :
    (∀ adapter ∈ openAll enumerated, adapter.unified = true) ∨
      ∀ adapter ∈ openAll enumerated, adapter.unified = false := by
  have listed : (∀ adapter ∈ candidates enumerated, adapter.unified = true) ∨
      ∀ adapter ∈ candidates enumerated, adapter.unified = false := by
    simp only [candidates]
    split
    · refine .inr fun adapter hadapter => ?_
      simpa using (List.mem_filter.mp hadapter).2
    · next none =>
        refine .inl fun adapter hadapter => ?_
        by_contra hunified
        exact none (List.any_eq_true.mpr ⟨adapter, hadapter, by simpa using hunified⟩)
  cases listed with
  | inl all => exact .inl fun adapter h => all adapter ((openAll_perm enumerated).subset h)
  | inr all => exact .inr fun adapter h => all adapter ((openAll_perm enumerated).subset h)

theorem luidTag_injective : Function.Injective luidTag :=
  fun _ _ h => luidRest_inj (List.cons.inj h).2

theorem openAll_tags {enumerated : List (Option AdapterDesc)}
    (distinct : (enumerated.filterMap fun desc => desc.map AdapterDesc.luid).Nodup) :
    ((openAll enumerated).map TaggedAdapter.luidTag).Nodup := by
  have described : ((enumerated.filterMap fun desc => desc.bind AdapterDesc.adapter).map
      TaggedAdapter.luidTag).Sublist
        ((enumerated.filterMap fun desc => desc.map AdapterDesc.luid).map luidTag) := by
    clear distinct
    induction enumerated with
    | nil => exact List.Sublist.refl _
    | cons desc enumerated ih =>
        cases desc with
        | none => exact ih
        | some desc =>
            cases hadapter : desc.adapter with
            | none => simpa [List.filterMap_cons, hadapter] using ih.cons _
            | some adapter =>
                simpa [List.filterMap_cons, hadapter, (adapter_of_desc hadapter).1] using ih
  have all := (distinct.map luidTag_injective).sublist described
  refine ((openAll_perm enumerated).map _).nodup_iff.mpr ?_
  exact all.sublist ((candidates_sublist enumerated).map _)

/-! All adapters -/

variable {F32 : Type} (toF32 : Double → F32)

/-- What is reported of an adapter, with the memory that its instances have. -/
def exactStats (util : PdhAnswer × PdhAnswer) (dedicated shared : List MemoryInstance)
    (adapter : TaggedAdapter) : GpuStats F32 :=
  adapter.toAdapter.stats
    { utilPct := busiestEngine toF32 adapter.luidTag util
      used := some (taggedBytes adapter.luidTag (if adapter.unified then shared else dedicated))
      spilled := if adapter.unified then none else some (taggedBytes adapter.luidTag shared) }

section Exact
variable {polls : Nat → Poll} {dedicated shared : List MemoryInstance}
  (hdedicated : ∀ index,
    format (polls index).dedicated = some (dedicated.map MemoryInstance.item))
  (hshared : ∀ index, format (polls index).shared = some (shared.map MemoryInstance.item))
  (fits : (dedicated.map MemoryInstance.bytes).sum ≤ 2 ^ precision)
  (fits' : (shared.map MemoryInstance.bytes).sum ≤ 2 ^ precision)
include hdedicated hshared fits fits'

theorem sample_exact (index : Nat) (luid : Luid) (unified : Bool) :
    sampleCollected toF32 (polls index) (luidTag luid) unified =
      { utilPct := busiestEngine toF32 (luidTag luid) (polls index).util
        used := some (taggedBytes (luidTag luid) (if unified then shared else dedicated))
        spilled := if unified then none else some (taggedBytes (luidTag luid) shared) } := by
  have own := memoryUsed_exact (hdedicated index) luid ((taggedBytes_le _ _).trans fits)
  have other := memoryUsed_exact (hshared index) luid ((taggedBytes_le _ _).trans fits')
  cases unified with
  | true => simp [sampleCollected, other]
  | false => simp [sampleCollected, own, other]

theorem queryAll_exact (enumerated : List (Option AdapterDesc)) :
    countersQueryAll toF32 (openAll enumerated) (some polls) =
      (openAll enumerated).zipIdx.map fun entry =>
        exactStats toF32 (polls entry.2).util dedicated shared entry.1 := by
  have stats : ∀ entry ∈ (openAll enumerated).zipIdx,
      entry.1.toAdapter.stats (sampleCollected toF32 (polls entry.2) entry.1.luidTag
        entry.1.unified) = exactStats toF32 (polls entry.2).util dedicated shared entry.1 := by
    intro entry hentry
    obtain ⟨desc, -, hdesc⟩ := mem_openAll (List.fst_mem_of_mem_zipIdx hentry)
    rw [exactStats, (adapter_of_desc hdesc).1,
      sample_exact toF32 hdedicated hshared fits fits' entry.2 desc.luid entry.1.unified]
  have adapters : (openAll enumerated).map TaggedAdapter.toAdapter =
      (openAll enumerated).zipIdx.map fun entry => entry.1.toAdapter := by
    conv_lhs => rw [← List.zipIdx_map_fst 0 (openAll enumerated)]
    rw [List.map_map]
    rfl
  rw [countersQueryAll, windowsQueryAll, adapters]
  simp only [List.zipWith_map, List.zipWith_self]
  rw [List.map_congr_left stats, List.filter_eq_self]
  intro found hfound
  obtain ⟨entry, -, rfl⟩ := List.mem_map.mp hfound
  simp [exactStats, Adapter.stats, GpuStats.isEmpty]

/-- The memory that Windows reports of an adapter is what the instances with its LUID have, to the
byte, and no byte is reported for two adapters. -/
theorem windows_memory_exact {enumerated : List (Option AdapterDesc)}
    (distinct : (enumerated.filterMap fun desc => desc.map AdapterDesc.luid).Nodup) :
    let opened := openAll enumerated
    let answer := countersQueryAll toF32 opened (some polls)
    let used := (answer.map fun stats => stats.memUsedBytes.getD 0).sum
    answer = (opened.zipIdx.map fun entry =>
        exactStats toF32 (polls entry.2).util dedicated shared entry.1) ∧
      ((∀ adapter ∈ opened, adapter.unified = true) ∧
          used ≤ (shared.map MemoryInstance.bytes).sum ∨
        (∀ adapter ∈ opened, adapter.unified = false) ∧
          used ≤ (dedicated.map MemoryInstance.bytes).sum) := by
  intro opened answer used
  have exact : answer = opened.zipIdx.map fun entry =>
      exactStats toF32 (polls entry.2).util dedicated shared entry.1 :=
    queryAll_exact toF32 hdedicated hshared fits fits' enumerated
  refine ⟨exact, ?_⟩
  have sums : ∀ (unified : Bool), (∀ adapter ∈ opened, adapter.unified = unified) →
      used = ((opened.map TaggedAdapter.luidTag).map fun tag =>
        taggedBytes tag (if unified then shared else dedicated)).sum := by
    intro unified all
    show (answer.map fun stats => stats.memUsedBytes.getD 0).sum = _
    rw [exact, List.map_map]
    conv_rhs => rw [← List.zipIdx_map_fst 0 opened]
    rw [List.map_map, List.map_map]
    refine congrArg List.sum (List.map_congr_left fun entry hentry => ?_)
    have same := all entry.1 (List.fst_mem_of_mem_zipIdx hentry)
    simp only [Function.comp_apply, exactStats, Adapter.stats, Option.getD_some, same]
  cases openAll_unified enumerated with
  | inl all =>
      refine .inl ⟨all, ?_⟩
      rw [sums true all]
      exact taggedBytes_sum_le (openAll_tags distinct) shared
  | inr all =>
      refine .inr ⟨all, ?_⟩
      rw [sums false all]
      exact taggedBytes_sum_le (openAll_tags distinct) dedicated

end Exact

/-- Two cards, and the memory that two processes have on them. -/
theorem windows_memory_exact_two :
    let desc (low : UInt32) : AdapterDesc := ⟨[71, 0], false, 8589934592, 0, ⟨0, low⟩⟩
    let instances : List MemoryInstance := [⟨⟨0, 42423⟩, 0, 1048576⟩, ⟨⟨0, 42424⟩, 0, 4096⟩]
    let polls : Nat → Poll := fun index =>
      let items := PdhAnswer.items (instances.map MemoryInstance.item)
      ⟨(.failed, .failed), if index = 0 then (.moreData, items) else (items, .failed),
        (items, .failed)⟩
    let opened := openAll [some (desc 42423), none, some (desc 42424)]
    let answer := countersQueryAll (fun _ => ()) opened (some polls)
    let used := (answer.map fun stats => stats.memUsedBytes.getD 0).sum
    answer = (opened.zipIdx.map fun entry =>
        exactStats (fun _ => ()) (polls entry.2).util instances instances entry.1) ∧
      ((∀ adapter ∈ opened, adapter.unified = true) ∧ used ≤ 1052672 ∨
        (∀ adapter ∈ opened, adapter.unified = false) ∧ used ≤ 1052672) := by
  intro desc instances polls opened answer used
  refine windows_memory_exact (fun _ => ()) (fun index => ?_) (fun index => rfl) (by decide)
    (by decide) (by decide)
  by_cases hzero : index = 0 <;> simp [polls, hzero, format, instances]

end GpuInfo
