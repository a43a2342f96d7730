import GpuInfo.FuelProgram
import GpuInfo.Resources.Resources

/-!
`Resources::prepare` on one thread that nothing interrupts (`src/resources.rs`): the checks,
the matches taken out of the pool, the admission with its eviction, and the creation of what
is missing, or the drop of the matches. Host memory is there, its context outlives the call,
and neither the error scopes nor the creation unwind.
-/

namespace GpuInfo
open MachineInteger FuelProgram
variable {Format : Type} [DecidableEq Format]

namespace Inner

/-- The sections of a call of the pool, one after another, with the destructors they run. -/
def callFor : Nat → Inner Format → PoolCall (ChargedAllocation Format) (Spec Format) →
    Except Fault (Option (Inner Format))
  | 0, _, _ => .ok none
  | fuel + 1, s, call => do
      let after ← call.advance s.pool true
      let s ← (s.setPool after.pool).observe after.effect
      match after.call with
      | none => .ok (some s)
      | some call => callFor fuel s call

variable (s : Inner Format)

def call (call : PoolCall (ChargedAllocation Format) (Spec Format)) :
    Fuelled Fault (Inner Format) :=
  fun fuel => s.callFor fuel call

omit [DecidableEq Format] in
/-- `drop` of a charged allocation -/
def destroy (allocation : ChargedAllocation Format) : Except Fault (Inner Format) :=
  s.observe (.destroyed allocation)

/-- `Owned::drop` -/
def dropOwned (owned : Owned Format) : Fuelled Fault (Inner Format) :=
  let allocation := owned.allocation
  if !owned.healthy || !allocation.resource.spec.reusable then liftM (s.destroy allocation)
  else if s.pool.budget < allocation.bytes || s.pool.budget = 0 then liftM (s.destroy allocation)
  else if s.loss.isSome then liftM (s.destroy allocation)
  else if allocation.needsRemap then pure (s.push allocation)
  else do
    let s ← { s with returning := s.returning + 1 }.call (.put allocation)
    pure { s with returning := s.returning - 1 }

/-- Owners are dropped one after another. -/
def dropOwners (s : Inner Format) : List (Owned Format) → Fuelled Fault (Inner Format)
  | [] => pure s
  | owned :: owners => do
      let s ← s.dropOwned owned
      s.dropOwners owners

/-- `reserve`, and once more after an eviction. -/
def reserveMissing (missing : Nat) : Fuelled Fault (Inner Format × Except AdmissionError Nat) := do
  match ← s.memory.reserve missing with
  | (memory, .error (.capacity requested used limit)) => do
      let s ← { s with memory }.call (.evict (saturatingAdd used requested - limit))
      let (memory, answer) ← s.memory.reserve missing
      pure ({ s with memory }, answer)
  | (memory, answer) => pure ({ s with memory }, answer)

end Inner

variable [Wgpu Format] (limits : Limits)

/-- The loop of `prepare` over the descriptors: the pool it leaves, the slots filled so far,
and the bytes that are missing. -/
def takeMatches (pool : ResourcePool (ChargedAllocation Format)) :
    List (Spec Format) → Slots Format → Nat →
      Except Fault (ResourcePool (ChargedAllocation Format) × Slots Format ×
        Except (ResourceError Format) Nat)
  | [], slots, missing => .ok (pool, slots, .ok missing)
  | spec :: specs, slots, missing => do
      let (pool, allocation) ←
        if spec.normalized.reusable then pool.take spec.normalized else .ok (pool, none)
      match allocation with
      | some allocation =>
          takeMatches pool specs (slots ++ [some ⟨allocation, true⟩]) missing
      | none =>
          match addMissing limits missing spec with
          | .error error => .ok (pool, slots, .error error)
          | .ok missing => takeMatches pool specs (slots ++ [none]) missing

section
variable {limits} {pool pool' : ResourcePool (ChargedAllocation Format)} {spec : Spec Format}
variable {specs : List (Spec Format)} {slots : Slots Format} {missing : Nat}

theorem takeMatches_hit {allocation : ChargedAllocation Format}
    (hreusable : spec.normalized.reusable = true)
    (htake : pool.take spec.normalized = .ok (pool', some allocation)) :
    takeMatches limits pool (spec :: specs) slots missing =
      takeMatches limits pool' specs (slots ++ [some ⟨allocation, true⟩]) missing := by
  rw [takeMatches, if_pos hreusable, htake, ok_bind]

theorem takeMatches_miss {more : Nat}
    (absent : spec.normalized.reusable = true → pool.take spec.normalized = .ok (pool, none))
    (hadd : addMissing limits missing spec = .ok more) :
    takeMatches limits pool (spec :: specs) slots missing =
      takeMatches limits pool specs (slots ++ [none]) more := by
  rw [takeMatches]
  split
  · rw [absent ‹_›, ok_bind, hadd]
  · rw [ok_bind, hadd]

theorem takeMatches_missFails {error : ResourceError Format}
    (absent : spec.normalized.reusable = true → pool.take spec.normalized = .ok (pool, none))
    (hadd : addMissing limits missing spec = .error error) :
    takeMatches limits pool (spec :: specs) slots missing = .ok (pool, slots, .error error) := by
  rw [takeMatches]
  split
  · rw [absent ‹_›, ok_bind, hadd]
  · rw [ok_bind, hadd]

end

/-- The closure that `prepare` runs under the error scopes: the slots, what is left of the
reservation, and whether it failed. -/
def createMissing (creation : CreationId) (s : Inner Format) :
    List (Option (Owned Format) × Spec Format) → Slots Format → Nat →
      Except Fault (Inner Format × Slots Format × Nat × Except (ResourceError Format) Unit)
  | [], slots, remaining => .ok (s, slots, remaining, .ok ())
  | (some owned, _) :: todo, slots, remaining =>
      createMissing creation s todo (slots ++ [some owned]) remaining
  | (none, spec) :: todo, slots, remaining =>
      match hbytes : spec.normalized.bytes limits with
      | .error error => .ok (s, slots ++ none :: todo.map (·.1), remaining, .error error)
      | .ok _ => do
          let (memory, remaining, charged) ←
            charge s.memory remaining (newAllocation s.nextNative hbytes)
          match charged with
          | .error error =>
              .ok ({ s with memory }, slots ++ none :: todo.map (·.1), remaining,
                .error (.admission error))
          | .ok allocation =>
              createMissing creation (s.create memory allocation creation) todo
                (slots ++ [some ⟨allocation, false⟩]) remaining

namespace Inner
variable (s : Inner Format)

/-- `prepare` up to its reservation: the slots hold the matches. -/
def plan (specs : List (Spec Format)) :
    Fuelled Fault (Inner Format × Slots Format × Except (ResourceError Format) Nat) :=
  match prepareCheck limits s.loss specs with
  | .error error => pure (s, [], .error error)
  | .ok () => do
      let (pool, slots, missing) ← takeMatches limits s.pool specs [] 0
      match missing with
      | .error error => pure ({ s with pool }, slots, .error error)
      | .ok missing => do
          let (s, answer) ← { s with pool }.reserveMissing missing
          pure (s, slots, answer.mapError .admission)

/-- The answer is an error, or a `Prepared` and what its creation came to. -/
def prepare (specs : List (Spec Format)) :
    Fuelled Fault (Inner Format × Except (ResourceError Format)
      (CreationId × Except (ResourceError Format) (Slots Format))) := do
  let (s, slots, planned) ← s.plan limits specs
  match planned with
  | .error error => do
      let s ← s.dropOwners slots.owners
      pure (s, .error error)
  | .ok remaining => do
      let creation := s.nextCreation
      let (s, slots, remaining, created) ← createMissing limits creation
        { s with nextCreation := creation + 1 } (slots.zip specs) [] remaining
      match created with
      | .error error => do
          let s ← s.dropOwners slots.owners
          let memory ← s.memory.cancel remaining
          pure ({ s with memory }, .ok (creation, .error error))
      | .ok () => do
          let memory ← s.memory.cancel remaining
          pure ({ s with memory }, .ok (creation, .ok slots))

end Inner

end GpuInfo
