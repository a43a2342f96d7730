import GpuInfo.Interleaving
import GpuInfo.MachineInteger
import Mathlib.Algebra.GroupWithZero.Nat

/-!
The bounded pool of idle GPU resources (`src/pool.rs`), one atomic section at a
time. The pool lock is held only inside a section, so a call is what a thread
still has to do at a moment when it does not hold the lock: before a section, or
while the destructors of resources it has removed are running. `advance` runs a
call up to the next such moment. Whether the metadata vector can grow is a
decision of the host allocator and comes in as `grow`.
-/

namespace GpuInfo
open MachineInteger

/-- A resource a pool keeps, found again by its key and counted by its bytes. -/
class Pooled (R : Type) (Key : outParam Type) where
  key : R → Key
  bytes : R → Nat
  bytes_le : ∀ resource, bytes resource ≤ u64Max

/-- A resource with a key and a size, no GPU. -/
structure Fake where
  key : Nat
  bytes : Fin (2 ^ 64)

instance : Pooled Fake Nat where
  key := Fake.key
  bytes resource := resource.bytes
  bytes_le resource := Nat.le_pred_of_lt resource.bytes.isLt

variable {R : Type} {Key : Type} [Pooled R Key]

structure Idle (R : Type) where
  slots : List R
  bytes : Nat

structure ResourcePool (R : Type) where
  idle : Idle R
  budget : Nat
  maxEntries : Nat

def totalBytes (slots : List R) : Nat := (slots.map Pooled.bytes).sum

namespace ResourcePool

def withLimits (budget maxEntries : Nat) : ResourcePool R := ⟨⟨[], 0⟩, budget, maxEntries⟩

/-- The byte-only pool: `usize::MAX` entries. -/
def new (budget : Nat) : ResourcePool R := withLimits budget u64Max

def setIdle (pool : ResourcePool R) (idle : Idle R) : ResourcePool R := { pool with idle }

/-- `idle.slots.remove(at)` with the byte count kept in step. -/
def removeAt (idle : Idle R) (position : Nat) : Except Fault (R × Idle R) :=
  match idle.slots[position]? with
  | none => .error .emptyRemove
  | some slot => do
      let bytes ← sub64 idle.bytes (Pooled.bytes slot)
      .ok (slot, ⟨idle.slots.eraseIdx position, bytes⟩)

/-- `Iterator::rposition`: the last position whose element satisfies `found`. -/
def rposition (found : R → Bool) : List R → Option Nat
  | [] => none
  | slot :: slots =>
      match rposition found slots with
      | some position => some (position + 1)
      | none => if found slot then some 0 else none

def take [BEq Key] (pool : ResourcePool R) (key : Key) :
    Except Fault (ResourcePool R × Option R) :=
  match rposition (fun slot => Pooled.key slot == key) pool.idle.slots with
  | none => .ok (pool, none)
  | some position => do
      let (slot, idle) ← removeAt pool.idle position
      .ok (pool.setIdle idle, some slot)

/-- The loop of `set_budget` over the slots it has not passed yet: how many are
over the budget and the bytes of those that are kept. -/
def overBudget (bytes : Nat) : List R → Nat → Nat → Except Fault (Nat × Nat)
  | [], excess, kept => .ok (excess, kept)
  | slot :: slots, excess, kept =>
      if bytes < kept then do
        let kept ← sub64 kept (Pooled.bytes slot)
        overBudget bytes slots (excess + 1) kept
      else .ok (excess, kept)

/-- `set_budget` under the lock; the resources it returns are destroyed after it. -/
def setBudget (pool : ResourcePool R) (bytes : Nat) : Except Fault (ResourcePool R × List R) := do
  let (excess, kept) ← overBudget bytes pool.idle.slots 0 pool.idle.bytes
  .ok (⟨⟨pool.idle.slots.drop excess, kept⟩, bytes, pool.maxEntries⟩, pool.idle.slots.take excess)

/-- Whether a return of `size` bytes fits beside the idle resources. -/
def fits (pool : ResourcePool R) (size : Nat) : Except Fault Bool := do
  let room ← sub64 pool.budget size
  .ok (decide (pool.idle.bytes ≤ room) && decide (pool.idle.slots.length < pool.maxEntries))

/-- The end of `put` under the lock: keep the resource, or refuse it. -/
def insertIdle (pool : ResourcePool R) (resource : R) (grow : Bool) :
    Except Fault (Option (ResourcePool R)) :=
  let size := Pooled.bytes resource
  if pool.budget < size then .ok none
  else do
    if !(← fits pool size) || !grow then .ok none
    else do
      let bytes ← add64 pool.idle.bytes size
      .ok (some (pool.setIdle ⟨pool.idle.slots ++ [resource], bytes⟩))

end ResourcePool

/-- What a thread does once the destructors it runs have finished. -/
inductive Resume (R : Type)
  | done
  | putRetry (resource : R) (attempts : Nat)
  | evictNext (bytes freed attempts : Nat)

/-- A call of the pool between two of its sections. -/
inductive PoolCall (R : Type) (Key : Type)
  | take (key : Key)
  | setBudget (bytes : Nat)
  /-- `put` before its unlocked look at the budget. -/
  | put (resource : R)
  /-- `put` before it takes the lock for the first time. -/
  | putEnter (resource : R)
  | evict (bytes : Nat)
  /-- Destructors run outside the lock, the first of the list next. -/
  | destroying (doomed : List R) (resume : Resume R)
  | resuming (resume : Resume R)

/-- What the rest of the system sees of a section. -/
inductive Effect (R : Type)
  | silent
  /-- `take` answers its caller. -/
  | taken (answer : Option R)
  /-- A destructor ran. -/
  | destroyed (resource : R)
  /-- `evict` answers its caller. -/
  | freed (bytes : Nat)

/-- The state after a section: the pool, what is left of the call, what was seen. -/
structure Progress (R : Type) (Key : Type) where
  pool : ResourcePool R
  call : Option (PoolCall R Key)
  effect : Effect R

namespace PoolCall
open ResourcePool

/-- A refused resource is dropped after the guard, hence outside the lock. -/
def refuse (pool : ResourcePool R) (resource : R) : Progress R Key :=
  ⟨pool, some (.destroying [resource] .done), .silent⟩

def finishPut (pool : ResourcePool R) (resource : R) (grow : Bool) :
    Except Fault (Progress R Key) := do
  match ← insertIdle pool resource grow with
  | some pool => .ok ⟨pool, none, .silent⟩
  | none => .ok (refuse pool resource)

/-- The loop of `put` from one acquisition of the lock to the next. -/
def putLoop (pool : ResourcePool R) (resource : R) (attempts : Nat) (grow : Bool) :
    Except Fault (Progress R Key) :=
  let size := Pooled.bytes resource
  match attempts with
  | 0 => finishPut pool resource grow
  | attempts + 1 =>
      -- A resource over a (just lowered) budget evicts nothing.
      if pool.budget < size then finishPut pool resource grow
      else do
        if ← fits pool size then finishPut pool resource grow
        else do
          let (old, idle) ← removeAt pool.idle 0
          .ok ⟨pool.setIdle idle, some (.destroying [old] (.putRetry resource attempts)), .silent⟩

/-- The loop of `evict` from the end of one eviction to the end of the next. -/
def evictLoop (pool : ResourcePool R) (bytes freed attempts : Nat) :
    Except Fault (Progress R Key) :=
  match attempts with
  | 0 => .ok ⟨pool, none, .freed freed⟩
  | attempts + 1 =>
      if bytes ≤ freed then .ok ⟨pool, none, .freed freed⟩
      else if pool.idle.slots.isEmpty then .ok ⟨pool, none, .freed freed⟩
      else do
        let (old, idle) ← removeAt pool.idle 0
        let freed := saturatingAdd freed (Pooled.bytes old)
        .ok ⟨pool.setIdle idle, some (.destroying [old] (.evictNext bytes freed attempts)), .silent⟩

/-- Run a call up to the next moment at which its thread does not hold the lock. -/
def advance [BEq Key] (pool : ResourcePool R) (grow : Bool) :
    PoolCall R Key → Except Fault (Progress R Key)
  | .take key => do
      let (pool, answer) ← pool.take key
      .ok ⟨pool, none, .taken answer⟩
  | .setBudget bytes => do
      let (pool, evicted) ← pool.setBudget bytes
      .ok ⟨pool, some (.destroying evicted .done), .silent⟩
  | .put resource =>
      if pool.budget < Pooled.bytes resource || pool.maxEntries == 0 then
        .ok (refuse pool resource)
      else .ok ⟨pool, some (.putEnter resource), .silent⟩
  | .putEnter resource =>
      if grow then putLoop pool resource pool.idle.slots.length grow
      else .ok (refuse pool resource)
  | .evict bytes =>
      .ok ⟨pool, some (.resuming (.evictNext bytes 0 pool.idle.slots.length)), .silent⟩
  | .destroying (old :: doomed) resume =>
      .ok ⟨pool, some (.destroying doomed resume), .destroyed old⟩
  | .destroying [] resume => .ok ⟨pool, some (.resuming resume), .silent⟩
  | .resuming .done => .ok ⟨pool, none, .silent⟩
  | .resuming (.putRetry resource attempts) => putLoop pool resource attempts grow
  | .resuming (.evictNext bytes freed attempts) => evictLoop pool bytes freed attempts

/-- The calls a thread, or a destructor that runs between two sections, begins. -/
inductive Entry : PoolCall R Key → Prop
  | take (key : Key) : Entry (.take key)
  | setBudget {bytes : Nat} (h : bytes ≤ u64Max) : Entry (.setBudget bytes)
  | put (resource : R) : Entry (.put resource)
  | evict {bytes : Nat} (h : bytes ≤ u64Max) : Entry (.evict bytes)

end PoolCall

/-- One pool shared by any number of threads: a call begins, or a running call
goes through its next section. -/
inductive PoolRule [BEq Key] : Interleaving.Rule (ResourcePool R) (PoolCall R Key)
  | enter {pool : ResourcePool R} {call : PoolCall R Key} (h : call.Entry) :
      PoolRule pool 0 pool {call}
  | advance {pool : ResourcePool R} {call : PoolCall R Key} {after : Progress R Key}
      (grow : Bool) (h : call.advance pool grow = .ok after) :
      PoolRule pool {call} after.pool (after.call.elim 0 ({·}))

abbrev PoolConfig (R Key : Type) := Interleaving.Config (ResourcePool R) (PoolCall R Key)

abbrev PoolStep [BEq Key] : PoolConfig R Key → PoolConfig R Key → Prop :=
  Interleaving.Step PoolRule

/-- A new pool, no call in progress. -/
inductive PoolStart : PoolConfig R Key → Prop
  | new {budget : Nat} (maxEntries : Nat) (h : budget ≤ u64Max) :
      PoolStart ⟨ResourcePool.withLimits budget maxEntries, 0⟩

/-- The section of a `set_budget` to `bytes`. -/
def SetsBudget [BEq Key] (bytes : Nat) (c c' : PoolConfig R Key) : Prop :=
  ∃ (grow : Bool) (after : Progress R Key) (rest : Multiset (PoolCall R Key)),
    (PoolCall.setBudget bytes).advance c.shared grow = .ok after ∧
    c.running = {.setBudget bytes} + rest ∧
    c' = ⟨after.pool, after.call.elim 0 ({·}) + rest⟩

end GpuInfo
