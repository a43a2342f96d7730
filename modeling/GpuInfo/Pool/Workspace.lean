import GpuInfo.Pool.ResourcePoolConservation
import GpuInfo.Usages
import Mathlib.Logic.Function.Basic

/-!
Short-lived workspaces over one buffer pool (`BufferWorkspace` in `src/pool.rs`). The owner
of a workspace makes one call after another; the calls of different workspaces, and calls
that bound the pool, take turns section by section. Beside the pool runs a record of what
each workspace was handed and what it has offered for return, which no section reads.
-/

namespace GpuInfo
open MachineInteger Interleaving

structure BufferKey where
  size : Fin (2 ^ 64)
  usage : Usages
  deriving DecidableEq, Repr

/-- A buffer of the device; the device gives every buffer it creates another number. -/
structure Buffer where
  id : Nat
  key : BufferKey
  deriving DecidableEq, Repr

instance : Pooled Buffer BufferKey where
  key := Buffer.key
  bytes buffer := buffer.key.size
  bytes_le buffer := Nat.le_pred_of_lt buffer.key.size.isLt

structure BufferDescriptor where
  label : Option String
  size : Fin (2 ^ 64)
  usage : Usages
  mappedAtCreation : Bool

inductive BufferWorkspaceError
  | allocation
  | invalidDescriptor
  deriving DecidableEq, Repr

structure BufferWorkspace where
  /-- Only the record knows a workspace by name. -/
  name : Nat
  /-- Whether the device is the one whose pool this is. -/
  pool : Bool
  held : List Buffer

/-- A call that checks a buffer out. -/
inductive WorkspaceCall
  | zeroedBuffer (descriptor : BufferDescriptor)
  | outputBuffer (descriptor : BufferDescriptor)
  | upload (label : String) (contents : List UInt8) (usage : Usages)

namespace BufferWorkspace
open Usages

/-- `held.try_reserve(1)`: the host allocator decides. -/
def reserve (grow : Bool) : Except BufferWorkspaceError Unit :=
  if grow then .ok () else .error .allocation

def descriptorRefused (descriptor : BufferDescriptor) : Bool :=
  descriptor.mappedAtCreation || descriptor.usage.contains mapWrite || descriptor.size.val == 0 ||
    descriptor.size.val % copyBufferAlignment != 0

def contentsRefused (contents : List UInt8) (usage : Usages) : Bool :=
  contents.isEmpty || contents.length % copyBufferAlignment != 0 ||
    usage &&& (mapRead ||| mapWrite) != 0

/-- `checkout` up to its look at the pool: what it will create if the pool has none. -/
def checkout (ws : BufferWorkspace) (descriptor : BufferDescriptor) (grow : Bool) :
    Except BufferWorkspaceError BufferDescriptor :=
  if descriptorRefused descriptor then .error .invalidDescriptor
  else do
    reserve grow
    let label := if ws.pool then some (descriptor.label.getD "compute buffer") else descriptor.label
    .ok ⟨label, descriptor.size, descriptor.usage ||| copyDst, false⟩

/-- `upload` up to its look at the pool. -/
def upload (label : String) (contents : List UInt8) (usage : Usages) (grow : Bool) :
    Except BufferWorkspaceError BufferDescriptor :=
  if contentsRefused contents usage then .error .invalidDescriptor
  else do
    reserve grow
    .ok ⟨some label, ⟨contents.length % 2 ^ 64, Nat.mod_lt _ (Nat.two_pow_pos 64)⟩,
      usage ||| copyDst, false⟩

def request (ws : BufferWorkspace) (grow : Bool) :
    WorkspaceCall → Except BufferWorkspaceError BufferDescriptor
  | .zeroedBuffer descriptor | .outputBuffer descriptor => ws.checkout descriptor grow
  | .upload label contents usage => upload label contents usage grow

/-- Record a second handle of a buffer that is handed out. -/
def retain (ws : BufferWorkspace) (buffer : Buffer) : BufferWorkspace :=
  { ws with held := ws.held ++ [buffer] }

end BufferWorkspace

def BufferDescriptor.key (descriptor : BufferDescriptor) : BufferKey :=
  ⟨descriptor.size, descriptor.usage⟩

/-- What the thread of a workspace, or of another call of the pool, has before it. -/
inductive WorkspaceActivity
  /-- The owner has not made its next call. -/
  | ready (ws : BufferWorkspace)
  | calling (ws : BufferWorkspace) (call : WorkspaceCall)
  /-- `take_buffer` before it looks for an idle buffer, and before it creates one. -/
  | taking (ws : BufferWorkspace) (wanted : BufferDescriptor)
  | creating (ws : BufferWorkspace) (wanted : BufferDescriptor)
  /-- `recycle`: the buffers still to return, and the return in progress. -/
  | recycling (name : Nat) (left : List Buffer) (put : Option (PoolCall Buffer BufferKey))
  | dropping (ws : BufferWorkspace)
  | maintaining (call : PoolCall Buffer BufferKey)

/-- How its owner has given a workspace up. -/
inductive Fate
  | recycled
  | dropped
  deriving DecidableEq, Repr

/-- What became of one workspace. -/
structure WorkspaceLife where
  checkedOut : List Buffer
  offered : List Buffer
  fate : Option Fate

structure WorkspaceRecord where
  lives : Nat → WorkspaceLife
  nextName : Nat
  ended : Multiset Nat
  /-- The numbers of the buffers whose last tracked handle is gone. -/
  gone : Multiset Nat

structure WorkspaceWorld where
  pool : ResourcePool Buffer
  nextBuffer : Nat
  record : WorkspaceRecord

namespace WorkspaceRecord

def update (record : WorkspaceRecord) (name : Nat) (change : WorkspaceLife → WorkspaceLife) :
    WorkspaceRecord :=
  { record with lives := Function.update record.lives name (change (record.lives name)) }

def checksOut (record : WorkspaceRecord) (name : Nat) (buffer : Buffer) : WorkspaceRecord :=
  record.update name fun life => { life with checkedOut := life.checkedOut ++ [buffer] }

def offers (record : WorkspaceRecord) (name : Nat) (buffer : Buffer) : WorkspaceRecord :=
  record.update name fun life => { life with offered := life.offered ++ [buffer] }

def ends (record : WorkspaceRecord) (name : Nat) : WorkspaceRecord :=
  { record with ended := record.ended + {name} }

def loses (record : WorkspaceRecord) (buffers : Multiset Buffer) : WorkspaceRecord :=
  { record with gone := record.gone + buffers.map Buffer.id }

end WorkspaceRecord

/-- The state after a section, what is left of the activity, and a call's answer. -/
structure WorkspaceProgress where
  world : WorkspaceWorld
  activity : Option WorkspaceActivity
  answer : Option (Except BufferWorkspaceError Buffer)

namespace WorkspaceActivity
open ResourcePool

/-- The end of a checkout: the buffer is retained and handed out. -/
def handOut (s : WorkspaceWorld) (ws : BufferWorkspace) (buffer : Buffer) : WorkspaceProgress :=
  ⟨{ s with record := s.record.checksOut ws.name buffer }, some (.ready (ws.retain buffer)),
    some (.ok buffer)⟩

/-- One section of a call of the pool. -/
def poolSection (s : WorkspaceWorld) (grow : Bool) (call : PoolCall Buffer BufferKey) :
    Except Fault (WorkspaceWorld × Option (PoolCall Buffer BufferKey)) := do
  let after ← call.advance s.pool grow
  .ok (⟨after.pool, s.nextBuffer, s.record.loses after.effect.resources⟩, after.call)

def advance (s : WorkspaceWorld) (grow : Bool) :
    WorkspaceActivity → Except Fault WorkspaceProgress
  | .ready ws => .ok ⟨s, some (.ready ws), none⟩
  | .calling ws call =>
      match ws.request grow call with
      | .error error => .ok ⟨s, some (.ready ws), some (.error error)⟩
      | .ok wanted =>
          .ok ⟨s, some (if ws.pool then .taking ws wanted else .creating ws wanted), none⟩
  | .taking ws wanted => do
      let (pool, answer) ← s.pool.take wanted.key
      match answer with
      | some buffer => .ok (handOut { s with pool } ws buffer)
      | none => .ok ⟨{ s with pool }, some (.creating ws wanted), none⟩
  | .creating ws wanted =>
      .ok (handOut { s with nextBuffer := s.nextBuffer + 1 } ws ⟨s.nextBuffer, wanted.key⟩)
  | .recycling name left (some put) => do
      let (s, put) ← poolSection s grow put
      .ok ⟨s, some (.recycling name left put), none⟩
  | .recycling name (buffer :: left) none =>
      .ok ⟨{ s with record := s.record.offers name buffer },
        some (.recycling name left (some (.put buffer))), none⟩
  | .recycling name [] none =>
      .ok ⟨{ s with record := s.record.ends name }, none, none⟩
  | .dropping ws =>
      .ok ⟨{ s with record := (s.record.ends ws.name).loses ws.held }, none, none⟩
  | .maintaining call => do
      let (s, call) ← poolSection s grow call
      .ok ⟨s, call.map .maintaining, none⟩

end WorkspaceActivity

end GpuInfo
