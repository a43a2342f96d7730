import Mathlib.Algebra.Order.Group.Nat
import Mathlib.Data.List.Induction

/-!
The live budget of a GPU as Vulkan reports it on Linux (`src/vram.rs`): that of the largest
device-local heap, if the budget is there to be asked for. What the driver answers is a parameter.
-/

namespace GpuInfo

structure VramInfo where
  used : Nat
  budget : Nat
  deriving DecidableEq, Repr

/-- What the driver reports of a heap: its flags and size, and the usage and the budget at its
index. -/
structure MemoryHeap where
  deviceLocal : Bool
  size : Nat
  usage : Nat
  budget : Nat
  deriving DecidableEq, Repr

/-- `vk::PhysicalDeviceMemoryProperties2` with its budget; of the heaps so many are in use. -/
structure MemoryProperties where
  heaps : List MemoryHeap
  heapCount : Nat

/-- The best heap so far and its size, and one more heap. -/
def largerHeap (best : Option MemoryHeap × Nat) (heap : MemoryHeap) : Option MemoryHeap × Nat :=
  if heap.deviceLocal ∧ best.2 < heap.size then (some heap, heap.size) else best

/-- `VramQuerier::query` -/
def MemoryProperties.query (properties : MemoryProperties) : Option VramInfo :=
  match ((properties.heaps.take properties.heapCount).foldl largerHeap (none, 0)).1 with
  | none => none
  | some heap => if heap.budget = 0 then none else some ⟨heap.usage, heap.budget⟩

/-- `VK_MAKE_API_VERSION` -/
def makeApiVersion (variant major minor patch : Nat) : Nat :=
  variant * 2 ^ 29 + major * 2 ^ 22 + minor * 2 ^ 12 + patch

def apiVersionMajor (version : Nat) : Nat := version / 2 ^ 22 % 2 ^ 7

def apiVersionMinor (version : Nat) : Nat := version / 2 ^ 12 % 2 ^ 10

def budgetChainable (apiVersion : Nat) (extensions : List String) : Bool :=
  let (major, minor) := (apiVersionMajor apiVersion, apiVersionMinor apiVersion)
  (1 < major || major == 1 && 1 ≤ minor) && extensions.any (· == "VK_EXT_memory_budget")

/-- What the driver reports of a physical device; the extensions may not be enumerated. -/
structure PhysicalDevice where
  apiVersion : Nat
  extensions : Option (List String)
  memory : MemoryProperties

/-- `vram_budget_adapter`: `VramQuerier::of`, and one query. -/
def vramBudgetAdapter (device : PhysicalDevice) : Option Nat :=
  device.extensions.bind fun extensions =>
    if budgetChainable device.apiVersion extensions then
      device.memory.query.map VramInfo.budget
    else none

/-! The heap -/

/-- The first of the largest device-local heaps. -/
def LargestLocal (heaps : List MemoryHeap) (heap : MemoryHeap) : Prop :=
  ∃ before after, heaps = before ++ heap :: after ∧ heap.deviceLocal = true ∧ 0 < heap.size ∧
    (∀ other ∈ before, other.deviceLocal = true → other.size < heap.size) ∧
    ∀ other ∈ after, other.deviceLocal = true → other.size ≤ heap.size

/-- What the loop has found in what it has gone through. -/
def Found (heaps : List MemoryHeap) (best : Option MemoryHeap × Nat) : Prop :=
  (∀ heap ∈ heaps, heap.deviceLocal = true → heap.size ≤ best.2) ∧
    match best.1 with
    | none => best.2 = 0
    | some heap => best.2 = heap.size ∧ LargestLocal heaps heap

theorem found_step {heaps : List MemoryHeap} {best : Option MemoryHeap × Nat}
    (h : Found heaps best) (heap : MemoryHeap) :
    Found (heaps ++ [heap]) (largerHeap best heap) := by
  obtain ⟨most, kept⟩ := h
  rw [largerHeap]
  split
  · next larger =>
      refine ⟨fun other hother hlocal => ?_, rfl, heaps, [], rfl, larger.1,
        Nat.zero_lt_of_lt larger.2, ?_, fun other hother => by cases hother⟩
      · cases List.mem_append.mp hother with
        | inl old => exact Nat.le_trans (most other old hlocal) (Nat.le_of_lt larger.2)
        | inr new => exact Nat.le_of_eq (congrArg MemoryHeap.size (List.mem_singleton.mp new))
      · exact fun other hother hlocal => Nat.lt_of_le_of_lt (most other hother hlocal) larger.2
  · next smaller =>
      have least : heap.deviceLocal = true → heap.size ≤ best.2 :=
        fun hlocal => Nat.le_of_not_lt fun hlt => smaller ⟨hlocal, hlt⟩
      refine ⟨fun other hother hlocal => ?_, ?_⟩
      · cases List.mem_append.mp hother with
        | inl old => exact most other old hlocal
        | inr new =>
            rw [List.mem_singleton.mp new] at hlocal ⊢
            exact least hlocal
      · obtain ⟨_ | found, size⟩ := best
        · exact kept
        · obtain ⟨rfl, before, after, rfl, hlocal, positive, hbefore, hafter⟩ := kept
          refine ⟨rfl, before, after ++ [heap], by simp, hlocal, positive, hbefore, ?_⟩
          intro other hother
          cases List.mem_append.mp hother with
          | inl old => exact hafter other old
          | inr new =>
              rw [List.mem_singleton.mp new]
              exact least

theorem found_all (heaps : List MemoryHeap) : Found heaps (heaps.foldl largerHeap (none, 0)) := by
  induction heaps using List.reverseRecOn with
  | nil => exact ⟨fun _ h => absurd h List.not_mem_nil, rfl⟩
  | append_singleton heaps heap ih =>
      rw [List.foldl_append]
      exact found_step ih heap

/-- Of two places, the one further on is not the first of the largest. -/
theorem LargestLocal.not_later {heap other : MemoryHeap} {between before after : List MemoryHeap}
    (hbefore : ∀ found ∈ before ++ heap :: between, found.deviceLocal = true →
      found.size < other.size) (hlocal : heap.deviceLocal = true)
    (hafter : ∀ found ∈ between ++ other :: after, found.deviceLocal = true →
      found.size ≤ heap.size) (hlocal' : other.deviceLocal = true) : False := by
  have less := hbefore heap (by simp) hlocal
  have most := hafter other (by simp) hlocal'
  omega

theorem LargestLocal.unique {heaps : List MemoryHeap} {heap other : MemoryHeap}
    (h : LargestLocal heaps heap) (h' : LargestLocal heaps other) : heap = other := by
  obtain ⟨before, after, rfl, hlocal, -, hbefore, hafter⟩ := h
  obtain ⟨before', after', same, hlocal', -, hbefore', hafter'⟩ := h'
  obtain ⟨between, rfl, rest⟩ | ⟨between, rfl, rest⟩ := List.append_eq_append_iff.mp same
  · cases between with
    | nil => exact (List.cons.inj rest).1
    | cons first between =>
        obtain ⟨rfl, rfl⟩ := List.cons.inj rest
        exact (not_later hbefore' hlocal hafter hlocal').elim
  · cases between with
    | nil => exact (List.cons.inj rest).1.symm
    | cons first between =>
        obtain ⟨rfl, rfl⟩ := List.cons.inj rest
        exact (not_later hbefore hlocal' hafter' hlocal).elim

theorem query_iff {properties : MemoryProperties} {info : VramInfo} :
    properties.query = some info ↔ ∃ heap,
      LargestLocal (properties.heaps.take properties.heapCount) heap ∧ heap.budget ≠ 0 ∧
        info = ⟨heap.usage, heap.budget⟩ := by
  rw [MemoryProperties.query]
  have found := found_all (properties.heaps.take properties.heapCount)
  obtain ⟨most, kept⟩ := found
  cases hbest : ((properties.heaps.take properties.heapCount).foldl largerHeap (none, 0)).1 with
  | none =>
      rw [hbest] at kept
      refine ⟨fun h => (by cases h), ?_⟩
      rintro ⟨heap, ⟨before, after, hheaps, hlocal, positive, -⟩, -⟩
      have least := most heap (by rw [hheaps]; simp) hlocal
      omega
  | some heap =>
      rw [hbest] at kept
      obtain ⟨-, largest⟩ := kept
      simp only [Option.ite_none_left_eq_some, Option.some.injEq]
      constructor
      · rintro ⟨hbudget, rfl⟩
        exact ⟨heap, largest, hbudget, rfl⟩
      · rintro ⟨other, hother, hbudget, rfl⟩
        cases largest.unique hother
        exact ⟨hbudget, rfl⟩

/-! The budget -/

/-- The version is read as it is made. -/
theorem apiVersion_make {variant major minor patch : Nat} (hmajor : major < 2 ^ 7)
    (hminor : minor < 2 ^ 10) (hpatch : patch < 2 ^ 12) :
    apiVersionMajor (makeApiVersion variant major minor patch) = major ∧
      apiVersionMinor (makeApiVersion variant major minor patch) = minor := by
  unfold apiVersionMajor apiVersionMinor makeApiVersion
  omega

theorem budgetChainable_make {variant major minor patch : Nat} (hmajor : major < 2 ^ 7)
    (hminor : minor < 2 ^ 10) (hpatch : patch < 2 ^ 12) (extensions : List String) :
    budgetChainable (makeApiVersion variant major minor patch) extensions = true ↔
      (1 < major ∨ major = 1 ∧ 1 ≤ minor) ∧ "VK_EXT_memory_budget" ∈ extensions := by
  obtain ⟨readMajor, readMinor⟩ := @apiVersion_make variant major minor patch hmajor hminor hpatch
  simp [budgetChainable, readMajor, readMinor]

/-- Vulkan's budget of a GPU is that of the first of its largest device-local heaps, where its
version and its extensions have one, and never 0. -/
theorem vulkan_budget_iff {device : PhysicalDevice} {variant major minor patch budget : Nat}
    (hmajor : major < 2 ^ 7) (hminor : minor < 2 ^ 10) (hpatch : patch < 2 ^ 12)
    (version : device.apiVersion = makeApiVersion variant major minor patch) :
    vramBudgetAdapter device = some budget ↔
      (1 < major ∨ major = 1 ∧ 1 ≤ minor) ∧
        (∃ extensions, device.extensions = some extensions ∧
          "VK_EXT_memory_budget" ∈ extensions) ∧
        ∃ heap, LargestLocal (device.memory.heaps.take device.memory.heapCount) heap ∧
          heap.budget = budget ∧ budget ≠ 0 := by
  have chainable : ∀ extensions, budgetChainable device.apiVersion extensions = true ↔
      (1 < major ∨ major = 1 ∧ 1 ≤ minor) ∧ "VK_EXT_memory_budget" ∈ extensions := by
    rw [version]
    exact budgetChainable_make hmajor hminor hpatch
  rw [vramBudgetAdapter, Option.bind_eq_some_iff]
  constructor
  · rintro ⟨extensions, hextensions, hbudget⟩
    obtain ⟨chained, hquery⟩ := Option.ite_none_right_eq_some.mp hbudget
    obtain ⟨newer, listed⟩ := (chainable extensions).mp chained
    obtain ⟨info, hinfo, rfl⟩ := Option.map_eq_some_iff.mp hquery
    obtain ⟨heap, largest, given, rfl⟩ := query_iff.mp hinfo
    exact ⟨newer, ⟨extensions, hextensions, listed⟩, heap, largest, rfl, given⟩
  · rintro ⟨newer, ⟨extensions, hextensions, listed⟩, heap, largest, rfl, hbudget⟩
    refine ⟨extensions, hextensions, ?_⟩
    rw [if_pos ((chainable extensions).mpr ⟨newer, listed⟩),
      query_iff.mpr ⟨heap, largest, hbudget, rfl⟩, Option.map_some]

/-- Of two cards' worth of heaps, the second is the larger one. -/
theorem vulkan_budget_iff_larger :
    let heaps : List MemoryHeap := [⟨true, 268435456, 0, 1⟩, ⟨false, 34359738368, 0, 2⟩,
      ⟨true, 8589934592, 4096, 7516192768⟩]
    let device : PhysicalDevice :=
      ⟨makeApiVersion 0 1 3 280, some ["VK_EXT_memory_budget"], ⟨heaps, 3⟩⟩
    vramBudgetAdapter device = some 7516192768 ↔
      (1 < 1 ∨ 1 = 1 ∧ 1 ≤ 3) ∧
        (∃ extensions, device.extensions = some extensions ∧
          "VK_EXT_memory_budget" ∈ extensions) ∧
        ∃ heap, LargestLocal (device.memory.heaps.take device.memory.heapCount) heap ∧
          heap.budget = 7516192768 ∧ 7516192768 ≠ 0 :=
  vulkan_budget_iff (by decide) (by decide) (by decide) rfl

end GpuInfo
