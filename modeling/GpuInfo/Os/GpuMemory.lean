import GpuInfo.Stats.GpuStats

/-!
The memory of the primary GPU as the operating system reports it (`src/os.rs`), and the budget
that is derived from it (`vram_budget` in `src/budget.rs`). A free figure of 0 stands for an
unknown one, and then the whole dedicated memory is the headroom: so does a full card's.
-/

namespace GpuInfo

structure GpuMemInfo where
  name : String
  dedicatedVram : Nat
  freeVram : Nat
  sharedMemory : Nat
  unified : Bool
  deriving DecidableEq, Repr

/-- `windows_query`, of what `windows_adapter_memory` answers. -/
def windowsQuery (memory : Option (String × Nat × Nat × Nat × Bool)) : Option GpuMemInfo :=
  memory.bind fun answer =>
    let (name, total, shared, used, unified) := answer
    if 0 < total then some ⟨name, total, total - used, shared, unified⟩ else none

variable {F32 : Type}

/-- The memory of one adapter that the counters know. -/
def GpuStats.memInfo (stats : GpuStats F32) : Option GpuMemInfo :=
  stats.memTotalBytes.bind fun total =>
    if 0 < total then
      some ⟨stats.name.getD "GPU", total, total - stats.memUsedBytes.getD 0,
        stats.memSharedBytes.getD 0, stats.unified⟩
    else none

/-- `Iterator::max_by_key`: the last of the largest. -/
def maxByKey {α : Type} (key : α → Nat) : List α → Option α
  | [] => none
  | first :: rest =>
      match maxByKey key rest with
      | none => some first
      | some best => if key first ≤ key best then some best else some first

/-- `linux_query`, of what `stats::query_all` answers. -/
def linuxQuery (all : List (GpuStats F32)) : Option GpuMemInfo :=
  maxByKey GpuMemInfo.dedicatedVram (all.filterMap GpuStats.memInfo)

inductive BudgetError
  | unknownRam
  | unknownVram
  deriving DecidableEq, Repr

def GpuMemInfo.headroom (info : GpuMemInfo) : Nat :=
  if 0 < info.freeVram then info.freeVram else info.dedicatedVram

/-- The headroom that a budget is a share of; 0 where there is none. -/
def headroomOf (query : Option GpuMemInfo) : Nat := (query.map GpuMemInfo.headroom).getD 0

/-- The free memory of a card in use; all of it if the card is full. -/
def leftOver (total used : Nat) : Nat := if used < total then total - used else total

theorem headroom_of_free {info : GpuMemInfo} {total used : Nat}
    (dedicated : info.dedicatedVram = total) (free : info.freeVram = total - used) :
    info.headroom = leftOver total used := by
  rw [GpuMemInfo.headroom, leftOver, dedicated, free]
  by_cases hused : used < total
  · rw [if_pos (Nat.sub_pos_of_lt hused), if_pos hused]
  · rw [if_neg (by omega), if_neg hused]

theorem windows_headroom {total : Nat} (positive : 0 < total) (name : String)
    (shared used : Nat) (unified : Bool) :
    headroomOf (windowsQuery (some (name, total, shared, used, unified))) =
      leftOver total used := by
  simp only [windowsQuery, Option.bind_some, if_pos positive, headroomOf, Option.map_some,
    Option.getD_some]
  exact headroom_of_free rfl rfl

/-- A reading of the counters, with that much in use of that much memory. -/
def GpuStats.using (stats : GpuStats F32) (total used : Nat) : GpuStats F32 :=
  { stats with memTotalBytes := some total, memUsedBytes := some used }

theorem linux_headroom {total : Nat} (positive : 0 < total) (stats : GpuStats F32) (used : Nat) :
    headroomOf (linuxQuery [stats.using total used]) = leftOver total used := by
  simp only [linuxQuery, GpuStats.using, GpuStats.memInfo, List.filterMap_cons, List.filterMap_nil,
    Option.bind_some, if_pos positive, maxByKey, headroomOf, Option.map_some, Option.getD_some]
  exact headroom_of_free rfl rfl

/-- More in use leaves less, unless it is more than a used card has. -/
theorem leftOver_antitone_iff {total used used' : Nat} (h : used ≤ used') :
    leftOver total used' ≤ leftOver total used ↔ ¬ (0 < used ∧ used < total ∧ total ≤ used') := by
  unfold leftOver
  split <;> split <;> omega

/-- With more memory in use, the operating system's figure never leads to a larger headroom, on
Windows or for the one adapter of a Linux machine, if and only if the card does not go from
partly used to full. -/
theorem headroom_shrinks_with_use {total used used' : Nat} (positive : 0 < total)
    (more : used ≤ used') (name : String) (shared : Nat) (unified : Bool) (stats : GpuStats F32) :
    (headroomOf (windowsQuery (some (name, total, shared, used', unified))) ≤
        headroomOf (windowsQuery (some (name, total, shared, used, unified))) ∧
      headroomOf (linuxQuery [stats.using total used']) ≤
        headroomOf (linuxQuery [stats.using total used])) ↔
      ¬ (0 < used ∧ used < total ∧ total ≤ used') := by
  rw [windows_headroom positive, windows_headroom positive, linux_headroom positive,
    linux_headroom positive, and_self, leftOver_antitone_iff more]

/-- An adapter of which nothing is known. -/
def unknownStats : GpuStats Unit where
  name := none
  utilPct := none
  memUsedBytes := none
  memTotalBytes := none
  memSharedBytes := none
  unified := false
  tempC := none
  powerW := none
  powerLimitW := none
  fanPct := none
  clockCoreMhz := none
  clockMemMhz := none
  memBusPct := none
  driver := none

theorem headroom_shrinks_with_use_half_used :
    (headroomOf (windowsQuery (some ("GPU", 8, 0, 4, false))) ≤
        headroomOf (windowsQuery (some ("GPU", 8, 0, 2, false))) ∧
      headroomOf (linuxQuery [unknownStats.using 8 4]) ≤
        headroomOf (linuxQuery [unknownStats.using 8 2])) ↔ ¬ (0 < 2 ∧ 2 < 8 ∧ 8 ≤ 4) :=
  headroom_shrinks_with_use (by decide) (by decide) "GPU" 0 false unknownStats

/-- The last byte of a card of 8 bytes is free, and then it is not: the headroom is 1, and
then 8. -/
theorem headroom_can_grow_with_use :
    headroomOf (windowsQuery (some ("GPU", 8, 0, 7, false))) = 1 ∧
      headroomOf (windowsQuery (some ("GPU", 8, 0, 8, false))) = 8 ∧
      headroomOf (linuxQuery [unknownStats.using 8 7]) = 1 ∧
      headroomOf (linuxQuery [unknownStats.using 8 8]) = 8 := by
  decide

end GpuInfo
