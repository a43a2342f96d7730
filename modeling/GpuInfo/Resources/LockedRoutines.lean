import GpuInfo.OwnedScopes
import GpuInfo.Resources.Resources

/-!
The functions that move resources between their owners, the pool and the list of remaps, with
the locks they take and the values they drop (`src/pool.rs`, `src/budget/admission.rs`,
`src/resources.rs`), in the order in which Rust drops what a scope holds. A host may keep a
pool of its own beside that of the context. An atomic load answers any value, an allocation
that reports its failure may fail, and one that aborts the process ends the run. The two fields
of a guard's data change one at a time, as a panic between them would leave them.
-/

namespace GpuInfo
open MachineInteger OwnedScopes

/-- A pool of the host, or the pool of the context. -/
inductive Shelf
  | host
  | context
  deriving DecidableEq

inductive Lock
  | pool (shelf : Shelf)
  | budget
  | remaps
  | loss
  | signal (signal : SignalId)
  deriving DecidableEq

/-- The locals that hold a guard or a value to drop, under the names the source gives them;
a guard that no local holds is `temporary`. -/
inductive Local
  | resource | idle | old | evicted | slot | usage
  | batch | reservation | allocation | completed | remaining | remap
  | pool | remaps | buffer | outcome | temporary
  deriving DecidableEq

/-- What has a destructor of its own: a resource, or a handle of a native buffer. -/
inductive Destructible (R Format : Type)
  | host (resource : R)
  | allocation (allocation : Allocation Format)
  | buffer (native : NativeId)

/-- What a function asks of the world beside the locks. -/
inductive Question
  | budget (shelf : Shelf)
  | storeBudget (shelf : Shelf) (bytes : UInt64)
  /-- `try_reserve` -/
  | grow
  /-- `Weak::upgrade` of a tracked owner's context. -/
  | upgrade
  /-- A handle of the context is dropped: was it the last, and what did the context hold? -/
  | lastHandle
  | newSignal
  /-- `map_async`: what becomes of its callback before it returns. -/
  | mapAsync (native : NativeId) (signal : SignalId)

section
variable (R Format : Type)

abbrev Shelf.Value : Shelf → Type
  | .host => R
  | .context => ChargedAllocation Format

abbrev Shelf.Key (Key Format : Type) : Shelf → Type
  | .host => Key
  | .context => Spec Format

abbrev Lock.Data : Lock → Type
  | .pool shelf => Idle (shelf.Value R Format)
  | .budget => MemoryUsage
  | .remaps => List (Remap Format)
  | .loss => Option String
  | .signal _ => Option Outcome

/-- The signal of a remap is looked at under the lock of the remaps. -/
def Lock.rank : Lock → Nat
  | .remaps => 0
  | .pool _ | .budget | .loss | .signal _ => 1

abbrev Question.Reply : Question → Type
  | .budget _ => UInt64
  | .storeBudget _ _ => Unit
  | .grow | .upgrade => Bool
  | .lastHandle => Option (List (ChargedAllocation Format) × List (Remap Format))
  | .newSignal => SignalId
  | .mapAsync _ _ => Option (Option Outcome)

abbrev lockedResources : Signature where
  Lock := Lock
  Data := Lock.Data R Format
  rank := Lock.rank
  Resource := Destructible R Format
  Question := Question
  Reply := Question.Reply Format

end

variable {R Key Format : Type} [Pooled R Key]

instance : (shelf : Shelf) → Pooled (shelf.Value R Format) (shelf.Key Key Format)
  | .host => inferInstanceAs (Pooled R Key)
  | .context => inferInstanceAs (Pooled (ChargedAllocation Format) (Spec Format))

instance [BEq Key] [DecidableEq Format] : (shelf : Shelf) → BEq (shelf.Key Key Format)
  | .host => inferInstanceAs (BEq Key)
  | .context => inferInstanceAs (BEq (Spec Format))

namespace Locked

abbrev Function (R Format α : Type) := Routine (lockedResources R Format) α
abbrev Body (R Format : Type) := Code (lockedResources R Format) Local
abbrev Locals (R Format : Type) := Stack (lockedResources R Format) Local

variable {α : Type}

abbrev function (body : Body R Format α) : Function R Format α := Code.body body

abbrev scope (body : Body R Format α) : Body R Format α := Code.scope body

abbrev lock (x : Local) (l : Lock) : Body R Format (l.Data R Format) :=
  Code.lock (S := lockedResources R Format) x l

abbrev relock (x : Local) (l : Lock) : Body R Format (l.Data R Format) :=
  Code.relock (S := lockedResources R Format) x l

abbrev write (x : Local) (l : Lock) (data : l.Data R Format) : Body R Format Unit :=
  Code.write x l data

abbrev guard (l : Lock) (data : l.Data R Format) : Item (lockedResources R Format) :=
  .guard (S := lockedResources R Format) l data

abbrev ask (question : Question) : Body R Format (question.Reply Format) :=
  Code.ask (S := lockedResources R Format) question

/-! The budget -/

section Admission
variable (build : Build)

/-- `Drop for Reservation` -/
def dropReservation (remaining : Nat) : Function R Format Unit := function <| scope do
  let usage ← lock .temporary .budget
  let reserved ← .checked (build.sub usage.reserved remaining)
  write .temporary .budget { usage with reserved }

/-- `Drop for Charge` -/
def dropCharge (bytes : Nat) : Function R Format Unit := function <| scope do
  let usage ← lock .temporary .budget
  let allocated ← .checked (build.sub usage.allocated bytes)
  write .temporary .budget { usage with allocated }

variable {V VKey : Type} [Pooled V VKey]

/-- The fields of a `Charged` in their order: the resource, and then its charge. -/
def dropCharged (destructible : V → Destructible R Format) (charged : Charged V) :
    Function R Format Unit :=
  .both (.destroy (destructible charged.resource)) (dropCharge build charged.bytes)

/-- `MemoryBudget::reserve` -/
def reserve (bytes : Nat) : Function R Format (Except AdmissionError Nat) := function do
  let usage ← lock .usage .budget
  let used ← .checked (build.add usage.reserved usage.allocated)
  match checkedAdd used bytes with
  | none => pure (.error .overflow)
  | some total =>
      match usage.admission bytes used total with
      | .error error => pure (.error error)
      | .ok () => do
          let reserved ← .checked (build.add usage.reserved bytes)
          write .usage .budget { usage with reserved }
          write .usage .budget { usage with reserved, peak := max usage.peak total }
          .dropLocal .usage
          pure (.ok bytes)

/-- `Reservation::charge`: its answer, and what remains of the reservation. -/
def charge (destructible : V → Destructible R Format) (remaining : Nat) (resource : V) :
    Function R Format (Except AdmissionError (Charged V) × Nat) := function do
  .own .resource (.destroy (destructible resource))
  let bytes := Pooled.bytes resource
  match chargeCheck remaining resource with
  | .error error => pure (.error error, remaining)
  | .ok () => do
      let usage ← lock .usage .budget
      let reserved ← .checked (build.sub usage.reserved bytes)
      write .usage .budget { usage with reserved }
      let allocated ← .checked (build.add usage.allocated bytes)
      write .usage .budget { usage with reserved, allocated }
      let remaining ← .checked (build.sub remaining bytes)
      .dropLocal .usage
      .moveOut .resource
      pure (.ok ⟨resource, bytes, rfl⟩, remaining)

end Admission

/-! The pools -/

section Pool
variable (build : Build)

/-- A value of a pool is dropped. -/
def dropValue : (shelf : Shelf) → shelf.Value R Format → Function R Format Unit
  | .host, resource => .destroy (.host resource)
  | .context, allocation => dropCharged build .allocation allocation

variable (shelf : Shelf)

/-- `idle.slots.remove(at)` into a local, and then the byte count. -/
def removeAt (x : Local) (idle : Idle (shelf.Value R Format)) (position : Nat) :
    Body R Format (shelf.Value R Format × Idle (shelf.Value R Format)) :=
  match idle.slots[position]? with
  | none => .unwind
  | some slot => do
      .own x (dropValue build shelf slot)
      write .idle (.pool shelf) { idle with slots := idle.slots.eraseIdx position }
      let bytes ← .checked (sub64 idle.bytes (Pooled.bytes slot))
      write .idle (.pool shelf) ⟨idle.slots.eraseIdx position, bytes⟩
      pure (slot, ⟨idle.slots.eraseIdx position, bytes⟩)

/-- `ResourcePool::take` -/
def take [BEq (shelf.Key Key Format)] (key : shelf.Key Key Format) :
    Function R Format (Option (shelf.Value R Format)) := function do
  let idle ← lock .idle (.pool shelf)
  match ResourcePool.rposition (fun slot => Pooled.key slot == key) idle.slots with
  | none => pure none
  | some position => do
      let removed ← removeAt build shelf .slot idle position
      .moveOut .slot
      pure (some removed.1)

/-- `ResourcePool::set_budget` -/
def setBudget (bytes : UInt64) : Function R Format Unit := function do
  let evicted ← scope do
    let idle ← lock .idle (.pool shelf)
    ask (.storeBudget shelf bytes)
    let passed ← .checked (ResourcePool.overBudget bytes.toNat idle.slots 0 idle.bytes)
    write .idle (.pool shelf) { idle with bytes := passed.2 }
    write .idle (.pool shelf) ⟨idle.slots.drop passed.1, passed.2⟩
    pure (idle.slots.take passed.1)
  .own .evicted (.dropAll (evicted.map (dropValue build shelf)))
  .dropLocal .evicted

/-- The loop of `evict`; a pass answers nothing where it breaks. -/
def evictLoop (bytes : Nat) : Nat → Nat → Body R Format Nat
  | 0, freed => pure freed
  | attempts + 1, freed =>
      if bytes ≤ freed then pure freed
      else do
        let pass ← scope do
          let old ← scope do
            let idle ← lock .idle (.pool shelf)
            if idle.slots.isEmpty then pure none
            else do
              let removed ← removeAt build shelf .old idle 0
              .moveOut .old
              pure (some removed.1)
          match old with
          | none => pure none
          | some old => do
              .own .old (dropValue build shelf old)
              .dropLocal .old
              pure (some (saturatingAdd freed (Pooled.bytes old)))
        match pass with
        | none => pure freed
        | some freed => evictLoop bytes attempts freed

/-- `ResourcePool::evict` -/
def evict (bytes : Nat) : Function R Format Nat := function do
  let attempts ← scope do
    let idle ← lock .temporary (.pool shelf)
    pure idle.slots.length
  evictLoop build shelf bytes attempts 0

variable (maxEntries : Nat) (resource : shelf.Value R Format)

/-- The end of `put`: keep the resource, or refuse it. -/
def insertIdle (idle : Idle (shelf.Value R Format)) : Body R Format Unit := do
  let budget ← ask (.budget shelf)
  if budget.toNat < Pooled.bytes resource then pure ()
  else do
    let fits ← .checked
      (ResourcePool.fits ⟨idle, budget.toNat, maxEntries⟩ (Pooled.bytes resource))
    if !fits then pure ()
    else do
      let grown ← ask .grow
      if !grown then pure ()
      else do
        let bytes ← .checked (add64 idle.bytes (Pooled.bytes resource))
        write .idle (.pool shelf) { idle with bytes }
        .moveOut .resource
        write .idle (.pool shelf) ⟨idle.slots ++ [resource], bytes⟩

/-- The loop of `put`; the lock is released while an evicted resource is dropped. -/
def putLoop : Nat → Idle (shelf.Value R Format) → Body R Format Unit
  | 0, idle => insertIdle shelf maxEntries resource idle
  | attempts + 1, idle => do
      let budget ← ask (.budget shelf)
      if budget.toNat < Pooled.bytes resource then insertIdle shelf maxEntries resource idle
      else do
        let fits ← .checked
          (ResourcePool.fits ⟨idle, budget.toNat, maxEntries⟩ (Pooled.bytes resource))
        if fits then insertIdle shelf maxEntries resource idle
        else do
          let idle ← scope do
            let _ ← removeAt build shelf .old idle 0
            .dropLocal .idle
            .dropLocal .old
            relock .idle (.pool shelf)
          putLoop attempts idle

/-- `ResourcePool::put` -/
def put : Function R Format Unit := function do
  .own .resource (dropValue build shelf resource)
  let budget ← ask (.budget shelf)
  if budget.toNat < Pooled.bytes resource || maxEntries == 0 then pure ()
  else do
    let idle ← lock .idle (.pool shelf)
    let grown ← ask .grow
    if !grown then pure ()
    else putLoop build shelf maxEntries resource idle.slots.length idle

end Pool

/-! The context -/

section Context
variable (build : Build) (maxEntries : Nat)

/-- `MapNotify::finish` -/
def finish (signal : SignalId) (result : Outcome) : Function R Format Unit := function do
  let outcome ← lock .outcome (.signal signal)
  if outcome.isNone then write .outcome (.signal signal) (some result)
  else pure ()

/-- A callback that is kept, dropped, or called and then dropped. -/
def notify (signal : SignalId) : Option (Option Outcome) → Function R Format Unit
  | none => .done (some ())
  | some none => finish signal (.error .dropped)
  | some (some result) => .both (finish signal result) (finish signal (.error .dropped))

/-- The fields of a `Remap` in their order; its signal is shared and has no destructor. -/
def dropRemap (remap : Remap Format) : Function R Format Unit :=
  dropValue build .context remap.allocation

/-- `Drop for Arc<Inner>`: the pool and then the remaps go with the last handle. -/
def dropHandle : Function R Format Unit := function do
  let content ← ask .lastHandle
  match content with
  | none => pure ()
  | some content =>
      .call (.both (.dropAll (content.1.map (dropValue build .context)))
        (.dropAll (content.2.map (dropRemap build))))

/-- `Drop for Owned` -/
def dropOwned (owned : Owned Format) : Function R Format Unit := function do
  .own .allocation (dropValue build .context owned.allocation)
  if !owned.healthy || !owned.allocation.resource.spec.reusable then pure ()
  else do
    let alive ← ask .upgrade
    if !alive then pure ()
    else do
      .own .pool (dropHandle build)
      let budget ← ask (.budget .context)
      if budget.toNat < owned.allocation.bytes then pure ()
      else do
        let budget ← ask (.budget .context)
        if budget.toNat == 0 then pure ()
        else do
          let loss ← scope (lock .temporary .loss)
          if loss.isSome then pure ()
          else if owned.allocation.needsRemap then scope do
            let signal ← ask .newSignal
            let remaps ← lock .remaps .remaps
            let grown ← ask .grow
            if !grown then pure ()
            else do
              .moveOut .allocation
              write .remaps .remaps (remaps ++ [⟨owned.allocation, signal⟩])
              .own .buffer (.destroy (.buffer owned.allocation.native))
              .dropLocal .remaps
              let called ← ask (.mapAsync owned.allocation.native signal)
              let _ ← .catchUnwind (notify signal called)
              pure ()
          else do
            .moveOut .allocation
            .call (put build .context maxEntries owned.allocation)

theorem swapRemove_length {slots : List α} {position : Nat} (h : position < slots.length) :
    (swapRemove slots position).length + 1 = slots.length := by
  unfold swapRemove
  split
  · rename_i hlast
    rw [List.getLast?_eq_none_iff.mp hlast] at h
    exact absurd h (Nat.not_lt_zero position)
  · rw [List.length_dropLast, List.length_set]
    exact Nat.sub_add_cancel (Nat.zero_lt_of_lt h)

/-- The loop of `collect` under the lock of the remaps. -/
def harvest (completed remaps : List (Remap Format)) (position : Nat) :
    Body R Format (List (Remap Format)) :=
  if h : position < remaps.length then do
    let remap := remaps[position]
    let outcome ← scope (lock .temporary (.signal remap.signal))
    if outcome.isNone then harvest completed remaps (position + 1)
    else do
      write .remaps .remaps (swapRemove remaps position)
      .reown .completed (.dropAll ((completed ++ [remap]).map (dropRemap build)))
      harvest (completed ++ [remap]) (swapRemove remaps position) position
  else pure completed
termination_by remaps.length - position
decreasing_by
  · omega
  · have hlength := swapRemove_length h
    omega

/-- The loop of `collect` over what it has taken out of the list. -/
def settle (lost : Bool) : List (Remap Format) → Option WaitError → Body R Format (Option WaitError)
  | [], failure => pure failure
  | remap :: rest, failure => do
      .reown .remaining (.dropAll (rest.map (dropRemap build)))
      let failure ← scope do
        .own .remap (dropRemap build remap)
        let outcome ← scope do
          let outcome ← lock .temporary (.signal remap.signal)
          write .temporary (.signal remap.signal) none
          pure outcome
        match outcome with
        | some (.ok ()) =>
            if lost then pure failure
            else do
              .moveOut .remap
              .call (put build .context maxEntries (remap.allocation.setMapped true))
              pure failure
        | some (.error error) => pure (some error)
        | none => .unwind
      settle lost rest failure

/-- `Resources::collect` -/
def collect : Function R Format (Except (ResourceError Format) Nat) := function do
  .own .completed (.dropAll [])
  let completed ← scope do
    let remaps ← lock .remaps .remaps
    let grown ← ask .grow
    if !grown then pure none
    else do
      let completed ← harvest build [] remaps 0
      pure (some completed)
  match completed with
  | none => pure (.error .hostAllocation)
  | some completed => do
      let loss ← scope (lock .temporary .loss)
      .moveOut .completed
      .own .remaining (.dropAll (completed.map (dropRemap build)))
      let failure ← settle build maxEntries loss.isSome completed none
      match failure with
      | none => pure (.ok completed.length)
      | some error => pure (.error (.gpu error))

/-- The slots of a `Batch`, whose clone of the context is not its last. -/
def dropBatch (slots : Slots Format) : Function R Format Unit :=
  .dropAll (slots.owners.map (dropOwned build maxEntries))

variable [DecidableEq Format] [Wgpu Format] (limits : Limits)

/-- An idle match, if the descriptor allows a reuse. -/
def takeMatch (spec : Spec Format) : Body R Format (Option (ChargedAllocation Format)) :=
  if spec.normalized.reusable then .call (take build .context spec.normalized) else pure none

/-- The loop of `prepare` over the descriptors: the slots, and the bytes that are missing. -/
def takeSlots : List (Spec Format) → Slots Format → Nat →
    Body R Format (Except (ResourceError Format) (Slots Format × Nat))
  | [], slots, missing => pure (.ok (slots, missing))
  | spec :: specs, slots, missing => do
      let taken : Except (ResourceError Format) (Slots Format × Nat) ← scope do
        let allocation ← takeMatch build spec
        match allocation with
        | some allocation => do
            .own .allocation (dropValue build .context allocation)
            .moveOut .allocation
            .reown .batch (dropBatch build maxEntries (slots ++ [some ⟨allocation, true⟩]))
            pure (.ok (slots ++ [some ⟨allocation, true⟩], missing))
        | none =>
            match addMissing limits missing spec with
            | .error error => pure (.error error)
            | .ok missing => pure (.ok (slots ++ [none], missing))
      match taken with
      | .error error => pure (.error error)
      | .ok taken => takeSlots specs taken.1 taken.2

omit [DecidableEq Format] [Wgpu Format] in
/-- `reserve`, and once more after an eviction. -/
def reserveMissing (missing : Nat) : Body R Format (Except AdmissionError Nat) := do
  let answer ← .call (reserve build missing)
  match answer with
  | .error (.capacity requested used limit) => do
      let _ ← .call (evict build .context (saturatingAdd used requested - limit))
      .call (reserve build missing)
  | answer => pure answer

/-- `Resources::prepare` up to its creation step, to which it gives the batch and the
reservation. -/
def prepare (specs : List (Spec Format)) :
    Function R Format (Except (ResourceError Format) (Slots Format × Nat)) := function do
  let loss ← scope (lock .temporary .loss)
  match prepareCheck limits loss specs with
  | .error error => pure (.error error)
  | .ok () => do
      .own .batch (dropBatch build maxEntries [])
      let grown ← ask .grow
      if !grown then pure (.error .hostAllocation)
      else do
        let planned ← takeSlots build maxEntries limits specs [] 0
        match planned with
        | .error error => pure (.error error)
        | .ok planned => do
            let reserved ← reserveMissing build planned.2
            match reserved with
            | .error error => pure (.error (.admission error))
            | .ok remaining => do
                .own .reservation (dropReservation build remaining)
                .moveOut .reservation
                .moveOut .batch
                pure (.ok (planned.1, remaining))

end Context

end Locked

end GpuInfo
