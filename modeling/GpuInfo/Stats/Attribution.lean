import GpuInfo.Stats.GpuStats
import Mathlib.Data.List.Basic

/-!
Which NVML device gives an adapter the counters that Windows does not publish
(`src/stats.rs`, `src/stats/nvml.rs`). Adapters are told apart by their lowercased names, devices
by names without the vendor: adapters that only the vendor tells apart are given one device.
-/

namespace GpuInfo

/-! Names, as their characters -/

def asciiLowercase (name : String) : List Char := name.toList.map Char.toLower

/-- `str::trim_start_matches("nvidia")` -/
def trimVendor : List Char → List Char
  | 'n' :: 'v' :: 'i' :: 'd' :: 'i' :: 'a' :: name => trimVendor name
  | name => name

/-- `char::is_whitespace` -/
def isWhitespace (c : Char) : Bool :=
  let code := c.toNat
  (0x9 ≤ code && code ≤ 0xD) || code == 0x20 || code == 0x85 || code == 0xA0 || code == 0x1680 ||
    (0x2000 ≤ code && code ≤ 0x200A) || code == 0x2028 || code == 0x2029 || code == 0x202F ||
    code == 0x205F || code == 0x3000

/-- `str::trim` -/
def trim (name : List Char) : List Char :=
  ((name.dropWhile isWhitespace).reverse.dropWhile isWhitespace).reverse

/-- Lowercased and stripped of the vendor prefix. -/
def normalise (name : String) : List Char := trim (trimVendor (asciiLowercase name))

example : normalise "NVIDIA GeForce RTX 3080 Ti" = normalise "GeForce RTX 3080 Ti" := by decide

variable {F32 : Type}

/-- One enrichment reading. -/
structure NvmlStats (F32 : Type) where
  utilPct : Option F32
  memUsedBytes : Option Nat
  memTotalBytes : Option Nat
  tempC : Option F32
  powerW : Option F32
  powerLimitW : Option F32
  fanPct : Option F32
  clockCoreMhz : Option Nat
  clockMemMhz : Option Nat
  memBusPct : Option F32
  driver : Option String

/-- NVML answered nothing at all. -/
def NvmlStats.isEmpty (stats : NvmlStats F32) : Bool :=
  stats.utilPct.isNone && stats.memUsedBytes.isNone && stats.memTotalBytes.isNone &&
    stats.tempC.isNone && stats.powerW.isNone && stats.powerLimitW.isNone &&
    stats.fanPct.isNone && stats.clockCoreMhz.isNone && stats.clockMemMhz.isNone &&
    stats.memBusPct.isNone && stats.driver.isNone

/-- A device that NVML counts: whether it gives a handle to it, and what it then says of it. -/
structure NvmlDevice (F32 : Type) where
  handle : Bool
  name : Option String
  reading : NvmlStats F32

/-- The library as it answers one query: whether it counts its devices, and the devices. -/
structure Nvml (F32 : Type) where
  counts : Bool
  devices : List (NvmlDevice F32)

/-- The loop over the devices ends at one, or has passed them all. -/
inductive Scan
  | found (device : Nat)
  | passed (first : Option Nat)
  deriving DecidableEq, Repr

namespace Nvml

/-- The loop of `device_matching` over the devices from `index` on. -/
def scan (wanted : List Char) (ordinal : Nat) :
    List (NvmlDevice F32) → (index : Nat) → (first : Option Nat) → (seen : Nat) → Scan
  | [], _, first, _ => .passed first
  | device :: devices, index, first, seen =>
      if !device.handle then scan wanted ordinal devices (index + 1) first seen
      else
        let first := some (first.getD index)
        if device.name.map normalise == some wanted then
          if seen == ordinal then .found index
          else scan wanted ordinal devices (index + 1) first (seen + 1)
        else scan wanted ordinal devices (index + 1) first seen

/-- The index of the `ordinal`-th device of that name. -/
def deviceMatching (lib : Nvml F32) (adapter : String) (ordinal : Nat) : Option Nat :=
  if !lib.counts then none
  else match scan (normalise adapter) ordinal lib.devices 0 none 0 with
    | .found device => some device
    | .passed first => if lib.devices.length == 1 && ordinal == 0 then first else none

def sampleDevice (lib : Nvml F32) (device : Nat) : Option (NvmlStats F32) :=
  (lib.devices[device]?).bind fun device =>
    if device.reading.isEmpty then none else some device.reading

def queryNth (lib : Option (Nvml F32)) (adapter : String) (ordinal : Nat) :
    Option (NvmlStats F32) := do
  let lib ← lib
  let device ← lib.deviceMatching adapter ordinal
  lib.sampleDevice device

end Nvml

namespace GpuStats

/-- The fields that Windows does not publish, from a reading of a device. -/
def enriched (stats : GpuStats F32) (reading : NvmlStats F32) : GpuStats F32 :=
  { stats with
    tempC := reading.tempC
    powerW := reading.powerW
    powerLimitW := reading.powerLimitW
    fanPct := reading.fanPct
    clockCoreMhz := reading.clockCoreMhz
    clockMemMhz := reading.clockMemMhz
    memBusPct := reading.memBusPct
    driver := reading.driver }

def enrichNth (lib : Option (Nvml F32)) (stats : GpuStats F32) (ordinal : Nat) : GpuStats F32 :=
  match stats.name with
  | none => stats
  | some name => match Nvml.queryNth lib name ordinal with
    | none => stats
    | some reading => stats.enriched reading

/-- What the adapters of a name are counted by. -/
def key (stats : GpuStats F32) : List Char := asciiLowercase (stats.name.getD "")

/-- The loop of `query_all` over the adapters it has not passed yet, with the last ordinal of
each name. -/
def enrichAll (lib : Option (Nvml F32)) :
    List (GpuStats F32) → (seenByName : List Char → Option Nat) → List (GpuStats F32)
  | [], _ => []
  | stats :: list, seenByName =>
      let ordinal := ((seenByName stats.key).map (· + 1)).getD 0
      stats.enrichNth lib ordinal ::
        enrichAll lib list (Function.update seenByName stats.key (some ordinal))

end GpuStats

/-- `stats::query_all` on Windows, over the base reading. -/
def queryAll (lib : Option (Nvml F32)) (list : List (GpuStats F32)) : List (GpuStats F32) :=
  GpuStats.enrichAll lib list fun _ => none

/-! The device of an adapter -/

/-- It answers, and its name is the one wanted. -/
def NvmlDevice.isNamed (wanted : List Char) (device : NvmlDevice F32) : Bool :=
  device.handle && device.name.map normalise == some wanted

namespace Nvml

/-- The indices of the devices of a name, in order. -/
def named (lib : Nvml F32) (wanted : List Char) : List Nat :=
  lib.devices.findIdxs (NvmlDevice.isNamed wanted)

/-- There is one device, and it answers. -/
def Sole (lib : Nvml F32) : Prop := ∃ device, lib.devices = [device] ∧ device.handle = true

/-- The loop counts the devices of the name it has passed. -/
theorem scan_found {wanted : List Char} {ordinal : Nat} {devices : List (NvmlDevice F32)}
    {index seen device : Nat} {first : Option Nat} (h : seen ≤ ordinal) :
    scan wanted ordinal devices index first seen = .found device ↔
      (devices.findIdxs (NvmlDevice.isNamed wanted) index)[ordinal - seen]? = some device := by
  induction devices generalizing index first seen with
  | nil => simp [scan]
  | cons head devices ih =>
      rw [scan, List.findIdxs_cons, NvmlDevice.isNamed]
      cases hhandle : head.handle with
      | false => exact ih h
      | true =>
          cases hname : head.name.map normalise == some wanted with
          | false => exact ih h
          | true =>
              simp only [Bool.not_true, Bool.false_eq_true, if_false, if_true, Bool.and_self,
                beq_iff_eq]
              by_cases hlast : seen = ordinal
              · rw [if_pos hlast, hlast, Nat.sub_self, List.getElem?_cons_zero, Scan.found.injEq,
                  Option.some_inj]
              · have later : ordinal - seen = ordinal - (seen + 1) + 1 := by omega
                rw [if_neg hlast, ih (by omega), later, List.getElem?_cons_succ]

/-- The first device is the only one, if it answers. -/
theorem scan_single_passed {wanted : List Char} {ordinal : Nat} {device : NvmlDevice F32}
    {first : Option Nat} (h : scan wanted ordinal [device] 0 none 0 = .passed first) :
    first = if device.handle then some 0 else none := by
  rw [scan] at h
  cases hhandle : device.handle with
  | false =>
      rw [hhandle] at h
      exact (Scan.passed.inj h).symm
  | true =>
      rw [hhandle] at h
      simp only [Bool.not_true, Bool.false_eq_true, if_false, Option.getD_none] at h
      split at h
      · split at h
        · cases h
        · exact (Scan.passed.inj h).symm
      · exact (Scan.passed.inj h).symm

theorem named_of_sole {lib : Nvml F32} (sole : lib.Sole) {wanted : List Char} {device : Nat}
    (h : device ∈ lib.named wanted) : device = 0 := by
  obtain ⟨only, honly, -⟩ := sole
  have hlt := List.lt_add_of_mem_findIdxs device h
  rw [honly] at hlt
  exact Nat.lt_one_iff.mp hlt

/-- What is answered if no device has the name as often. -/
theorem passed_answer {lib : Nvml F32} {wanted : List Char} {ordinal device : Nat}
    {first : Option Nat} (h : scan wanted ordinal lib.devices 0 none 0 = .passed first) :
    (if lib.devices.length == 1 && ordinal == 0 then first else none) = some device ↔
      lib.Sole ∧ ordinal = 0 ∧ device = 0 := by
  by_cases honly : lib.devices.length = 1 ∧ ordinal = 0
  · obtain ⟨only, hdevices⟩ := List.length_eq_one_iff.mp honly.1
    rw [hdevices] at h
    have sole : lib.Sole ↔ only.handle = true := by
      rw [Sole, hdevices]
      constructor
      · rintro ⟨device, hdevice, hhandle⟩
        cases hdevice
        exact hhandle
      · exact fun hhandle => ⟨only, rfl, hhandle⟩
    rw [if_pos (by simp [honly]), scan_single_passed h, sole]
    cases only.handle with
    | false => simp
    | true => simp [honly.2, eq_comm]
  · rw [if_neg (by simpa using honly)]
    constructor
    · intro h
      cases h
    · rintro ⟨⟨only, hdevices, -⟩, hfirst, -⟩
      exact absurd ⟨congrArg List.length hdevices, hfirst⟩ honly

/-- The device of that ordinal among those of the name, or the only one there is. -/
theorem deviceMatching_eq_some {lib : Nvml F32} {adapter : String} {ordinal device : Nat} :
    lib.deviceMatching adapter ordinal = some device ↔ lib.counts = true ∧
      ((lib.named (normalise adapter))[ordinal]? = some device ∨
        lib.Sole ∧ ordinal = 0 ∧ device = 0) := by
  have hfound := fun found => (scan_found (Nat.zero_le ordinal) :
    scan (normalise adapter) ordinal lib.devices 0 none 0 = .found found ↔ _)
  rw [deviceMatching]
  cases hcounts : lib.counts with
  | false => simp
  | true =>
      simp only [Bool.not_true, Bool.false_eq_true, if_false, true_and]
      cases hscan : scan (normalise adapter) ordinal lib.devices 0 none 0 with
      | found found =>
          have hnamed : (lib.named (normalise adapter))[ordinal]? = some found :=
            (hfound found).mp hscan
          rw [hnamed]
          refine ⟨.inl, ?_⟩
          rintro (h | ⟨sole, -, rfl⟩)
          · exact h
          · exact congrArg some (named_of_sole sole (List.mem_of_getElem? hnamed))
      | passed first =>
          have hnamed : (lib.named (normalise adapter))[ordinal]? ≠ some device := fun h => by
            rw [(hfound device).mpr h] at hscan
            cases hscan
          rw [or_iff_right hnamed]
          exact passed_answer hscan

end Nvml

/-! The ordinal of an adapter -/

namespace GpuStats
variable {lib : Option (Nvml F32)}

/-- How many of these adapters have a name. -/
def countNamed (key : List Char) (list : List (GpuStats F32)) : Nat :=
  list.countP fun stats => stats.key == key

theorem countNamed_concat (key : List Char) (earlier : List (GpuStats F32))
    (stats : GpuStats F32) : countNamed key (earlier ++ [stats]) =
      countNamed key earlier + if stats.key == key then 1 else 0 := by
  rw [countNamed, List.countP_append, List.countP_singleton, countNamed]

/-- What the loop knows of a name is how many adapters of it there were. -/
theorem enrichAll_getElem? {list earlier : List (GpuStats F32)}
    {seenByName : List Char → Option Nat}
    (known : ∀ key, ((seenByName key).map (· + 1)).getD 0 = countNamed key earlier)
    (position : Nat) :
    (enrichAll lib list seenByName)[position]? = list[position]?.map fun stats =>
      stats.enrichNth lib (countNamed stats.key (earlier ++ list.take position)) := by
  induction list generalizing earlier seenByName position with
  | nil => rfl
  | cons head list ih =>
      rw [enrichAll, known]
      cases position with
      | zero => simp
      | succ position =>
          have next : ∀ key, ((Function.update seenByName head.key
              (some (countNamed head.key earlier)) key).map (· + 1)).getD 0 =
                countNamed key (earlier ++ [head]) := by
            intro key
            rw [countNamed_concat]
            by_cases hkey : key = head.key
            · rw [hkey, Function.update_self, beq_self_eq_true, if_pos rfl]
              rfl
            · have other : (head.key == key) = false := beq_eq_false_iff_ne.mpr (Ne.symm hkey)
              rw [Function.update_of_ne hkey, known, other]
              rfl
          rw [List.getElem?_cons_succ, List.getElem?_cons_succ, ih next, List.take_succ_cons,
            List.append_assoc, List.singleton_append]

end GpuStats

/-- The ordinal of an adapter among those of its name. -/
def ordinal (list : List (GpuStats F32)) (position : Nat) (stats : GpuStats F32) : Nat :=
  GpuStats.countNamed stats.key (list.take position)

theorem queryAll_getElem? (lib : Option (Nvml F32)) (list : List (GpuStats F32)) (position : Nat) :
    (queryAll lib list)[position]? = list[position]?.map fun stats =>
      stats.enrichNth lib (ordinal list position stats) := by
  have known : ∀ key, (((fun _ => none : List Char → Option Nat) key).map (· + 1)).getD 0 =
      GpuStats.countNamed key ([] : List (GpuStats F32)) := fun _ => rfl
  exact GpuStats.enrichAll_getElem? known position

/-- The later of two adapters of a name has the greater ordinal. -/
theorem ordinal_lt {list : List (GpuStats F32)} {position position' : Nat}
    {stats stats' : GpuStats F32} (hlt : position < position')
    (hstats : list[position]? = some stats) (hkey : stats.key = stats'.key) :
    ordinal list position stats < ordinal list position' stats' := by
  have hprefix : list.take position ++ [stats] <+: list.take position' := by
    have hnext : list.take (position + 1) = list.take position ++ [stats] := by
      rw [List.take_add_one, hstats, Option.toList_some]
    rw [← hnext]
    exact List.take_prefix_take_left hlt
  have hle := hprefix.sublist.countP_le (p := fun earlier => earlier.key == stats'.key)
  have hcount := GpuStats.countNamed_concat stats'.key (list.take position) stats
  rw [hkey, beq_self_eq_true, if_pos rfl] at hcount
  rw [ordinal, hkey]
  exact Nat.lt_of_lt_of_le (Nat.lt_succ_self _) (Nat.le_trans (Nat.le_of_eq hcount.symm) hle)

/-- The adapter at that position has that name and that ordinal among those of its name. -/
def IsNth (list : List (GpuStats F32)) (position : Nat) (name : String) (n : Nat) : Prop :=
  ∃ stats, list[position]? = some stats ∧ stats.name = some name ∧
    ordinal list position stats = n

theorem IsNth.unique {list : List (GpuStats F32)} {position position' n : Nat}
    {name name' : String} (h : IsNth list position name n) (h' : IsNth list position' name' n)
    (hname : asciiLowercase name = asciiLowercase name') : position = position' := by
  obtain ⟨stats, hstats, hstatsName, hordinal⟩ := h
  obtain ⟨stats', hstats', hstatsName', hordinal'⟩ := h'
  have hkey : stats.key = stats'.key := by
    rw [GpuStats.key, GpuStats.key, hstatsName, hstatsName', Option.getD_some, Option.getD_some,
      hname]
  rcases Nat.lt_trichotomy position position' with hlt | heq | hlt
  · have hless := ordinal_lt hlt hstats hkey
    omega
  · exact heq
  · have hless := ordinal_lt hlt hstats' hkey.symm
    omega

theorem IsNth.name_eq {list : List (GpuStats F32)} {position n n' : Nat} {name name' : String}
    (h : IsNth list position name n) (h' : IsNth list position name' n') : name = name' := by
  obtain ⟨stats, hstats, hname, -⟩ := h
  obtain ⟨stats', hstats', hname', -⟩ := h'
  rw [hstats] at hstats'
  cases hstats'
  exact Option.some_inj.mp (hname.symm.trans hname')

/-! Which device's readings an adapter receives -/

/-- The adapter at that position is returned with the reading of that device. -/
def Receives (lib : Option (Nvml F32)) (list : List (GpuStats F32)) (position device : Nat) :
    Prop :=
  ∃ nvml stats name reading, lib = some nvml ∧ list[position]? = some stats ∧
    stats.name = some name ∧
    nvml.deviceMatching name (ordinal list position stats) = some device ∧
    nvml.sampleDevice device = some reading ∧
    (queryAll lib list)[position]? = some (stats.enriched reading)

/-- What is not as the base reading has it comes of a device. -/
theorem receives_of_changed {lib : Option (Nvml F32)} {list : List (GpuStats F32)}
    {position : Nat} {stats stats' : GpuStats F32} (hstats : list[position]? = some stats)
    (hqueried : (queryAll lib list)[position]? = some stats') (changed : stats' ≠ stats) :
    ∃ device, Receives lib list position device := by
  have henriched := hqueried
  rw [queryAll_getElem?, hstats, Option.map_some, Option.some_inj, GpuStats.enrichNth] at henriched
  cases hname : stats.name with
  | none =>
      rw [hname] at henriched
      exact absurd henriched.symm changed
  | some name =>
      rw [hname] at henriched
      cases hreading : Nvml.queryNth lib name (ordinal list position stats) with
      | none =>
          simp only [hreading] at henriched
          exact absurd henriched.symm changed
      | some reading =>
          simp only [hreading] at henriched
          obtain ⟨nvml, hlib, hreading⟩ := Option.bind_eq_some_iff.mp hreading
          obtain ⟨device, hdevice, hreading⟩ := Option.bind_eq_some_iff.mp hreading
          exact ⟨device, nvml, stats, name, reading, hlib, hstats, hname, hdevice, hreading,
            henriched ▸ hqueried⟩

theorem receives_iff {nvml : Nvml F32} {list : List (GpuStats F32)} {position device : Nat} :
    Receives (some nvml) list position device ↔ ∃ name n, IsNth list position name n ∧
      nvml.deviceMatching name n = some device ∧ (nvml.sampleDevice device).isSome = true := by
  constructor
  · rintro ⟨_, stats, name, reading, hlib, hstats, hname, hdevice, hreading, -⟩
    cases hlib
    exact ⟨name, _, ⟨stats, hstats, hname, rfl⟩, hdevice, by rw [hreading]; rfl⟩
  · rintro ⟨name, _, ⟨stats, hstats, hname, rfl⟩, hdevice, hsampled⟩
    obtain ⟨reading, hreading⟩ := Option.isSome_iff_exists.mp hsampled
    refine ⟨nvml, stats, name, reading, rfl, hstats, hname, hdevice, hreading, ?_⟩
    have hquery : Nvml.queryNth (some nvml) name (ordinal list position stats) = some reading :=
      (congrArg (Option.bind · nvml.sampleDevice) hdevice).trans hreading
    rw [queryAll_getElem?, hstats, Option.map_some, GpuStats.enrichNth, hname]
    simp only [hquery]

namespace Nvml
variable {nvml : Nvml F32} {wanted wanted' : List Char} {n n' device : Nat}

/-- One device is meant for adapters of two names: the only one there is, or the one of that
ordinal of the name that both have without the vendor. -/
def Shared (nvml : Nvml F32) (name name' : String) (n device : Nat) : Prop :=
  (nvml.Sole ∧ n = 0 ∧ device = 0) ∨
    normalise name = normalise name' ∧ (nvml.named (normalise name))[n]? = some device

/-- A device has one name. -/
theorem named_wanted_eq (h : device ∈ nvml.named wanted) (h' : device ∈ nvml.named wanted') :
    wanted = wanted' := by
  obtain ⟨_, hnamed⟩ := List.mem_findIdxs_iff_exists_getElem_pos.mp h
  obtain ⟨_, hnamed'⟩ := List.mem_findIdxs_iff_exists_getElem_pos.mp h'
  simp only [NvmlDevice.isNamed, Bool.and_eq_true, beq_iff_eq] at hnamed hnamed'
  exact Option.some_inj.mp (hnamed.2.symm.trans hnamed'.2)

/-- The devices of a name are different ones. -/
theorem named_ordinal_eq (h : (nvml.named wanted)[n]? = some device)
    (h' : (nvml.named wanted)[n']? = some device) : n = n' := by
  have hlt : n < (nvml.named wanted).length := (List.getElem?_eq_some_iff.mp h).1
  exact (List.getElem?_inj hlt List.nodup_findIdxs).mp (h.trans h'.symm)

theorem named_sole (sole : nvml.Sole) (h : (nvml.named wanted)[n]? = some device) : n = 0 := by
  obtain ⟨only, honly, -⟩ := sole
  have hlt : n < (nvml.named wanted).length := (List.getElem?_eq_some_iff.mp h).1
  have hle : (nvml.named wanted).length ≤ nvml.devices.length := by
    rw [named, List.length_findIdxs]
    exact List.countP_le_length
  rw [honly] at hle
  exact Nat.lt_one_iff.mp (Nat.lt_of_lt_of_le hlt hle)

/-- What two adapters are both given, they share, at the same ordinal. -/
theorem shared_of_matching {name name' : String}
    (h : nvml.deviceMatching name n = some device)
    (h' : nvml.deviceMatching name' n' = some device) :
    nvml.counts = true ∧ n = n' ∧ nvml.Shared name name' n device := by
  obtain ⟨hcounts, hmatch⟩ := deviceMatching_eq_some.mp h
  obtain ⟨-, hmatch'⟩ := deviceMatching_eq_some.mp h'
  refine ⟨hcounts, ?_⟩
  rcases hmatch with hnamed | ⟨sole, rfl, rfl⟩
  · rcases hmatch' with hnamed' | ⟨sole, rfl, rfl⟩
    · have hwanted : normalise name = normalise name' :=
        named_wanted_eq (List.mem_of_getElem? hnamed) (List.mem_of_getElem? hnamed')
      rw [← hwanted] at hnamed'
      exact ⟨named_ordinal_eq hnamed hnamed', .inr ⟨hwanted, hnamed⟩⟩
    · exact ⟨named_sole sole hnamed, .inl ⟨sole, named_sole sole hnamed, rfl⟩⟩
  · rcases hmatch' with hnamed' | ⟨-, rfl, -⟩
    · exact ⟨(named_sole sole hnamed').symm, .inl ⟨sole, rfl, rfl⟩⟩
    · exact ⟨rfl, .inl ⟨sole, rfl, rfl⟩⟩

theorem Shared.matching {name name' : String} (shared : nvml.Shared name name' n device)
    (hcounts : nvml.counts = true) : nvml.deviceMatching name n = some device ∧
      nvml.deviceMatching name' n = some device := by
  rcases shared with sole | ⟨hname, hnamed⟩
  · exact ⟨deviceMatching_eq_some.mpr ⟨hcounts, .inr sole⟩,
      deviceMatching_eq_some.mpr ⟨hcounts, .inr sole⟩⟩
  · exact ⟨deviceMatching_eq_some.mpr ⟨hcounts, .inl hnamed⟩,
      deviceMatching_eq_some.mpr ⟨hcounts, .inl (hname ▸ hnamed)⟩⟩

end Nvml

/-- There are two adapters of different lowercased names, at the same ordinal among those of
their names, that one device is meant for, and it has a reading to give. -/
def Confused (lib : Option (Nvml F32)) (list : List (GpuStats F32)) : Prop :=
  ∃ nvml name name' position position' n device, lib = some nvml ∧ nvml.counts = true ∧
    IsNth list position name n ∧ IsNth list position' name' n ∧
    asciiLowercase name ≠ asciiLowercase name' ∧ nvml.Shared name name' n device ∧
    (nvml.sampleDevice device).isSome = true

theorem attribution_injective_iff (lib : Option (Nvml F32)) (list : List (GpuStats F32)) :
    (∀ position position' device, Receives lib list position device →
      Receives lib list position' device → position = position') ↔ ¬ Confused lib list := by
  constructor
  · rintro injective ⟨nvml, name, name', position, position', n, device, rfl, hcounts, hnth, hnth',
      hdifferent, hshared, hsampled⟩
    obtain ⟨hmatching, hmatching'⟩ := hshared.matching hcounts
    have hsame := injective position position' device
      (receives_iff.mpr ⟨name, n, hnth, hmatching, hsampled⟩)
      (receives_iff.mpr ⟨name', n, hnth', hmatching', hsampled⟩)
    rw [← hsame] at hnth'
    exact hdifferent (congrArg asciiLowercase (hnth.name_eq hnth'))
  · intro hclear position position' device hreceives hreceives'
    cases lib with
    | none =>
        obtain ⟨_, _, _, _, hlib, -⟩ := hreceives
        cases hlib
    | some nvml =>
        obtain ⟨name, n, hnth, hmatching, hsampled⟩ := receives_iff.mp hreceives
        obtain ⟨name', n', hnth', hmatching', -⟩ := receives_iff.mp hreceives'
        obtain ⟨hcounts, rfl, hshared⟩ := Nvml.shared_of_matching hmatching hmatching'
        by_contra hne
        have hdifferent : asciiLowercase name ≠ asciiLowercase name' := fun hname =>
          hne (hnth.unique hnth' hname)
        exact hclear ⟨nvml, name, name', position, position', n, device, rfl, hcounts, hnth, hnth',
          hdifferent, hshared, hsampled⟩

/-! Two cards of different vendors, and NVML sees one -/

def noReading : NvmlStats Nat :=
  ⟨none, none, none, none, none, none, none, none, none, none, none⟩

/-- A machine with a card of NVIDIA, at 61 °C. -/
def oneCard : Nvml Nat :=
  ⟨true, [⟨true, some "NVIDIA GeForce RTX 3080 Ti", { noReading with tempC := some 61 }⟩]⟩

def twoVendors : List Adapter :=
  [⟨"NVIDIA GeForce RTX 3080 Ti", 12, 16, false⟩, ⟨"AMD Radeon RX 6400", 4, 16, false⟩]

/-- Both are idle. -/
def idleSamples : List (Sample Nat) := [⟨some 0, some 1, none⟩, ⟨some 0, some 0, none⟩]

theorem attribution_can_repeat : ∃ (lib : Option (Nvml Nat)) (adapters : List Adapter)
    (samples : List (Sample Nat)),
    Receives lib (windowsQueryAll adapters samples) 0 0 ∧
      Receives lib (windowsQueryAll adapters samples) 1 0 := by
  refine ⟨some oneCard, twoVendors, idleSamples, ?_, ?_⟩
  · exact receives_iff.mpr ⟨_, 0, ⟨_, rfl, rfl, by decide⟩, by decide, rfl⟩
  · exact receives_iff.mpr ⟨_, 0, ⟨_, rfl, rfl, by decide⟩, by decide, rfl⟩

end GpuInfo
