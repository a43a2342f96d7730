import GpuInfo.Stats.InstanceAttribution

/-!
The utilisation of an adapter: its instances are added up within a type of engine, and the busiest
type counts.
-/

namespace GpuInfo
open Binary64 GroupedValues TextFields

/-- An instance of the counter of the utilisation of engines. -/
structure EngineInstance where
  pid : Nat
  luid : Luid
  phys : Nat
  index : Nat
  kind : List Char
  value : Double

namespace EngineInstance

def start (entry : EngineInstance) : List Char :=
  "pid_".toList ++ Nat.toDigits 10 entry.pid ++ ['_']

def phase (entry : EngineInstance) : List Char :=
  "_phys_".toList ++ Nat.toDigits 10 entry.phys ++ ['_']

def number (entry : EngineInstance) : List Char :=
  "ng_".toList ++ Nat.toDigits 10 entry.index ++ ['_']

def name (entry : EngineInstance) : List Char :=
  entry.start ++ luidTag entry.luid ++
    (entry.phase ++ 'e' :: entry.number ++ "engtype_".toList ++ entry.kind)

def item (entry : EngineInstance) : CounterItem := ⟨some entry.name, entry.value⟩

/-- The type of an engine is no name of its own. -/
structure WellFormed (entry : EngineInstance) : Prop where
  luid : ¬ "luid_".toList <:+: entry.kind
  engine : ¬ "engtype_".toList <:+: entry.kind

end EngineInstance

theorem mem_framed {before after : List Char} {value : Nat} {c : Char}
    (h : c ∈ before ++ Nat.toDigits 10 value ++ after) (hc : c = 'l' ∨ c = 'e') :
    c ∈ before ∨ c ∈ after := by
  cases List.mem_append.mp h with
  | inr hafter => exact .inr hafter
  | inl hfront =>
      cases List.mem_append.mp hfront with
      | inl hbefore => exact .inl hbefore
      | inr hdigit =>
          obtain ⟨hl, he⟩ := digit_kinds hdigit
          exact absurd hc (not_or.mpr ⟨hl, he⟩)

/-- Neither a tag nor a mark begins in text around a number that has no `l` and no `e` itself. -/
theorem framed_plain {before after : List Char} (hbefore : 'l' ∉ before ∧ 'e' ∉ before)
    (hafter : 'l' ∉ after ∧ 'e' ∉ after) (value : Nat) :
    'l' ∉ before ++ Nat.toDigits 10 value ++ after ∧
      'e' ∉ before ++ Nat.toDigits 10 value ++ after := by
  constructor
  · exact fun h => (mem_framed h (.inl rfl)).elim hbefore.1 hafter.1
  · exact fun h => (mem_framed h (.inr rfl)).elim hbefore.2 hafter.2

theorem start_plain (entry : EngineInstance) : 'l' ∉ entry.start ∧ 'e' ∉ entry.start :=
  framed_plain (by decide) (by decide) entry.pid

theorem phase_plain (entry : EngineInstance) : 'l' ∉ entry.phase ∧ 'e' ∉ entry.phase :=
  framed_plain (by decide) (by decide) entry.phys

theorem number_plain (entry : EngineInstance) : 'l' ∉ entry.number ∧ 'e' ∉ entry.number :=
  framed_plain (by decide) (by decide) entry.index

section Names
variable {entry : EngineInstance} (h : entry.WellFormed)
include h

theorem contains_engine (luid : Luid) :
    contains (luidTag luid) entry.name = true ↔ luidTag entry.luid = luidTag luid := by
  have middle : 'l' ∉ entry.phase ++ 'e' :: entry.number ++ "engtype_".toList := by
    simp only [List.mem_append, List.mem_cons, not_or]
    exact ⟨⟨(phase_plain entry).1, by decide, (number_plain entry).1⟩, by decide⟩
  have tag : "luid_".toList <+: luidTag luid :=
    ⟨"0x".toList ++ hex 8 luid.high.toUInt32.toNat ++ ("_0x".toList ++ hex 8 luid.low.toNat), rfl⟩
  have none : ¬ luidTag luid <:+: entry.phase ++ 'e' :: entry.number ++ "engtype_".toList ++
      entry.kind :=
    not_infix_append middle fun hinfix => h.luid (tag.isInfix.trans hinfix)
  have word := contains_word (start_plain entry).1
    (fun hmem => (mem_luidRest hmem).1 rfl : 'l' ∉ luidRest entry.luid)
    (length_luidRest luid entry.luid) none
  refine word.trans ?_
  rw [luidTag, luidTag, List.cons.injEq, eq_self, true_and]

/-- The type is read from behind the only mark. -/
theorem engineName_name : engineName entry.name = some entry.kind := by
  have before : 'e' ∉ entry.start ++ luidTag entry.luid ++ entry.phase := by
    simp only [List.mem_append, luidTag, List.mem_cons, not_or]
    exact ⟨⟨(start_plain entry).2, by decide, fun hmem => (mem_luidRest hmem).2 rfl⟩,
      (phase_plain entry).2⟩
  have regroup : entry.name = (entry.start ++ luidTag entry.luid ++ entry.phase) ++
      'e' :: (entry.number ++ ("engtype_".toList ++ entry.kind)) := by
    simp only [EngineInstance.name, List.append_assoc, List.cons_append]
  have mark : "engtype_".toList = 'e' :: "ngtype_".toList := rfl
  have here : stripPrefix "engtype_".toList
      ('e' :: (entry.number ++ ("engtype_".toList ++ entry.kind))) = none := by
    refine if_neg fun hpre => ?_
    have number : entry.number = 'n' :: 'g' :: '_' :: (Nat.toDigits 10 entry.index ++ ['_']) := rfl
    have third : "engtype_".toList = 'e' :: 'n' :: 'g' :: 't' :: "ype_".toList := rfl
    rw [third, number] at hpre
    simp [List.cons_prefix_cons] at hpre
  have found : afterFirst "engtype_".toList entry.name = some entry.kind := by
    rw [regroup, mark, afterFirst_skip before, ← mark, afterFirst, here, mark,
      afterFirst_skip (number_plain entry).2, ← mark]
    exact afterFirst_mark (by decide) entry.kind
  rw [engineName, found, Option.map_some, beforeFirst_of_not_infix h.engine]

end Names

/-- The instances of an adapter, as far as they have a value. -/
def ownInstances (luid : Luid) (entries : List EngineInstance) : List EngineInstance :=
  entries.filter fun entry => luidTag entry.luid = luidTag luid ∧ entry.value.isFinite

/-- What the instances of one type of engine add up to, in the order in which they are listed. -/
def typeSum (luid : Luid) (entries : List EngineInstance) (type : List Char) : Option Double :=
  combined Double.add (((ownInstances luid entries).filter fun entry =>
    engineType entry.kind = type).map EngineInstance.value)

theorem engines_items {entries : List EngineInstance} (h : ∀ entry ∈ entries, entry.WellFormed)
    (luid : Luid) : engines (luidTag luid) (entries.map EngineInstance.item) =
      (ownInstances luid entries).map fun entry => (engineType entry.kind, entry.value) := by
  have own := visited_map EngineInstance.value fun entry hentry =>
    contains_engine (h entry hentry) luid
  have listed : ∀ entry ∈ ownInstances luid entries, entry.WellFormed :=
    fun entry hentry => h entry (List.mem_filter.mp hentry).1
  have named : ∀ entry ∈ ownInstances luid entries,
      ((engineName entry.name).map fun engine => (engineType engine, entry.value)) =
        some (engineType entry.kind, entry.value) := by
    intro entry hentry
    rw [engineName_name (listed entry hentry), Option.map_some]
  unfold engines
  refine (congrArg _ own).trans ?_
  rw [List.filterMap_map]
  refine (List.filterMap_congr named).trans ?_
  rw [List.filterMap_eq_map']

theorem rows_typeSum {entries : List EngineInstance} (h : ∀ entry ∈ entries, entry.WellFormed)
    (luid : Luid) (type : List Char) (sum : Double) :
    (type, sum) ∈ groups Double.add (engines (luidTag luid) (entries.map EngineInstance.item)) ↔
      typeSum luid entries type = some sum := by
  rw [mem_groups, engines_items h, valuesOf, List.filter_map, List.map_map]
  rfl

theorem typeSum_ne_nan {luid : Luid} {entries : List EngineInstance} {type : List Char}
    {sum : Double} (h : typeSum luid entries type = some sum) : sum ≠ .nan := by
  have finite : ∀ value ∈ ((ownInstances luid entries).filter fun entry =>
      engineType entry.kind = type).map EngineInstance.value, value.isFinite = true := by
    intro value hvalue
    obtain ⟨entry, hentry, rfl⟩ := List.mem_map.mp hvalue
    have own := (List.mem_filter.mp (List.mem_filter.mp hentry).1).2
    exact (of_decide_eq_true own).2
  rw [typeSum] at h
  generalize ((ownInstances luid entries).filter fun entry =>
    engineType entry.kind = type).map EngineInstance.value = values at h finite
  cases values with
  | nil => cases h
  | cons value values =>
      cases h
      refine Double.foldl_add_ne_nan ?_ fun x hx => finite x (List.mem_cons_of_mem value hx)
      have first := finite value List.mem_cons_self
      rintro rfl
      cases first

variable {F32 : Type} (toF32 : Double → F32)

/-- The utilisation of an adapter is the largest of the sums of its types of engine, and between 0
and 100. -/
theorem busiest_engine_largest {entries : List EngineInstance}
    (h : ∀ entry ∈ entries, entry.WellFormed) {answers : PdhAnswer × PdhAnswer}
    (hanswers : format answers = some (entries.map EngineInstance.item)) (luid : Luid) :
    ∃ busiest : Double,
      busiestEngine toF32 (luidTag luid) answers =
          some (toF32 (busiest.clamp Double.zero hundred)) ∧
        (busiest = Double.zero ∨ ∃ type, typeSum luid entries type = some busiest) ∧
        (∀ type sum, typeSum luid entries type = some sum → sum.le busiest = true) ∧
        Double.zero.le (busiest.clamp Double.zero hundred) = true ∧
        (busiest.clamp Double.zero hundred).le hundred = true := by
  let totals := groups Double.add (engines (luidTag luid) (entries.map EngineInstance.item))
  have rows : ∀ row ∈ totals, typeSum luid entries row.1 = some row.2 := fun row hrow =>
    (rows_typeSum h luid row.1 row.2).mp hrow
  have numbers : ∀ sum ∈ totals.map Prod.snd, sum ≠ .nan := by
    intro sum hsum
    obtain ⟨row, hrow, rfl⟩ := List.mem_map.mp hsum
    exact typeSum_ne_nan (rows row hrow)
  have zero : Double.zero ≠ .nan := by simp [Double.zero]
  obtain ⟨one, start, all⟩ := Double.foldl_max zero numbers
  refine ⟨(totals.map Prod.snd).foldl Double.max Double.zero, ?_, ?_, ?_, ?_⟩
  · rw [busiestEngine, hanswers, Option.map_some]
  · refine one.imp_right fun hmem => ?_
    obtain ⟨row, hrow, heq⟩ := List.mem_map.mp hmem
    exact ⟨row.1, heq ▸ rows row hrow⟩
  · intro type sum hsum
    exact all sum (List.mem_map.mpr ⟨(type, sum), (rows_typeSum h luid type sum).mpr hsum, rfl⟩)
  · refine Double.clamp_within ?_ (by simp [Double.zero]) (by simp [hundred, Double.whole]) ?_
    · intro hnan
      rw [hnan] at start
      cases start
    · rw [Double.zero_eq_whole]
      exact Double.whole_le (Nat.zero_le 100)

/-- Two processes draw, and one of them decodes a video. -/
theorem busiest_engine_largest_video :
    let engine (pid : Nat) (kind : String) (value : Nat) : EngineInstance :=
      ⟨pid, ⟨0, 42423⟩, 0, 0, kind.toList, Double.whole value⟩
    let entries := [engine 9024 "3D" 30, engine 9024 "VideoDecode" 45, engine 77 "3D" 20]
    ∃ busiest : Double,
      busiestEngine id (luidTag ⟨0, 42423⟩) (.items (entries.map EngineInstance.item), .failed) =
          some (busiest.clamp Double.zero hundred) ∧
        (busiest = Double.zero ∨ ∃ type, typeSum ⟨0, 42423⟩ entries type = some busiest) ∧
        (∀ type sum, typeSum ⟨0, 42423⟩ entries type = some sum → sum.le busiest = true) ∧
        Double.zero.le (busiest.clamp Double.zero hundred) = true ∧
        (busiest.clamp Double.zero hundred).le hundred = true := by
  intro engine entries
  refine busiest_engine_largest id (fun entry hentry => ?_) rfl ⟨0, 42423⟩
  simp only [entries, List.mem_cons, List.not_mem_nil, or_false] at hentry
  obtain rfl | rfl | rfl := hentry
  all_goals exact ⟨by decide, by decide⟩

end GpuInfo
