import GpuInfo.Interleaving
import GpuInfo.Pool.Workspace
import Mathlib.Data.Multiset.Range

/-!
A buffer that a workspace holds is its own until it gives it up: no other workspace and not
the pool has it at the same time. What a workspace was handed it returns once, when it is
recycled, and not at all when it is dropped; a call that fails has changed nothing.
-/

namespace GpuInfo
open MachineInteger Interleaving
open WorkspaceActivity (handOut)

/-! What a section can do -/

/-- The buffers an activity has a handle of. -/
def WorkspaceActivity.holds : WorkspaceActivity → Multiset Buffer
  | .ready ws | .calling ws _ | .taking ws _ | .creating ws _ | .dropping ws => ws.held
  | .recycling _ left put => left + put.elim 0 PoolCall.resources
  | .maintaining call => call.resources

def WorkspaceActivity.ids (activity : WorkspaceActivity) : Multiset Nat :=
  activity.holds.map Buffer.id

/-- The numbers of the buffers that no activity holds. -/
def WorkspaceWorld.apart (s : WorkspaceWorld) : Multiset Nat :=
  (s.pool.idle.slots : Multiset Buffer).map Buffer.id + s.record.gone

def WorkspaceActivity.names : WorkspaceActivity → Multiset Nat
  | .ready ws | .calling ws _ | .taking ws _ | .creating ws _ | .dropping ws => {ws.name}
  | .recycling name _ _ => {name}
  | .maintaining _ => 0

/-- A workspace in use: what it holds is what it was handed, and it has offered nothing. -/
def BufferWorkspace.InUse (ws : BufferWorkspace) (record : WorkspaceRecord) : Prop :=
  record.lives ws.name = ⟨ws.held, [], none⟩

/-- A workspace given up without its pool, which has offered nothing. -/
def BufferWorkspace.GivenUp (ws : BufferWorkspace) (record : WorkspaceRecord) : Prop :=
  record.lives ws.name = ⟨ws.held, [], some .dropped⟩

/-- While it is recycled, what it has offered and what it has left is what it was handed. -/
structure Recycling (left : List Buffer) (life : WorkspaceLife) : Prop where
  all : life.offered ++ left = life.checkedOut
  once : (life.checkedOut.map Buffer.id).Nodup
  chosen : life.fate = some .recycled

/-- Once it has ended, it has offered all it was handed, each buffer once, if its owner recycled
it, and otherwise nothing, and all of it is gone. -/
structure WorkspaceLife.Settled (gone : Multiset Nat) (life : WorkspaceLife) : Prop where
  once : (life.checkedOut.map Buffer.id).Nodup
  fate : life.fate = some .recycled ∧ life.offered = life.checkedOut ∨
    life.fate = some .dropped ∧ life.offered = [] ∧ ∀ buffer ∈ life.checkedOut, buffer.id ∈ gone

theorem WorkspaceLife.Settled.mono {gone gone' : Multiset Nat} {life : WorkspaceLife}
    (h : life.Settled gone) (more : gone ≤ gone') : life.Settled gone' :=
  ⟨h.once, h.fate.imp id fun dropped => ⟨dropped.1, dropped.2.1, fun buffer hbuffer =>
    Multiset.mem_of_le more (dropped.2.2 buffer hbuffer)⟩⟩

def WorkspaceActivity.Recorded (record : WorkspaceRecord) : WorkspaceActivity → Prop
  | .ready ws | .calling ws _ | .taking ws _ | .creating ws _ => ws.InUse record
  | .dropping ws => ws.GivenUp record
  | .recycling name left _ => Recycling left (record.lives name)
  | .maintaining _ => True

/-- The record of all names: those not given away yet, and those that have ended. -/
structure WorkspaceRecord.Complete (record : WorkspaceRecord) : Prop where
  fresh : ∀ name, record.nextName ≤ name → record.lives name = ⟨[], [], none⟩
  ended : ∀ name ∈ record.ended, (record.lives name).Settled record.gone

theorem WorkspaceActivity.Recorded.congr {activity : WorkspaceActivity}
    {record record' : WorkspaceRecord} (h : activity.Recorded record)
    (same : ∀ name ∈ activity.names, record'.lives name = record.lives name) :
    activity.Recorded record' := by
  cases activity with
  | ready ws | calling ws _ | taking ws _ | creating ws _ | dropping ws =>
      exact (same ws.name (Multiset.mem_singleton_self _)).trans h
  | recycling name left put =>
      have hlife := same name (Multiset.mem_singleton_self _)
      show Recycling left (record'.lives name)
      rw [hlife]
      exact h
  | maintaining call => trivial

/-- The buffer that is being returned to the pool for a workspace, before the pool has it. -/
def WorkspaceActivity.putting (name : Nat) : WorkspaceActivity → Multiset Buffer
  | .recycling own _ (some (.put buffer)) => if own = name then {buffer} else 0
  | _ => 0

end GpuInfo
