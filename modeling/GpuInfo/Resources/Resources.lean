import GpuInfo.Resources.Spec
import Mathlib.Data.List.Basic

/-!
Context-local, charged resource reuse (`src/resources.rs`), one atomic section at a
time: what one thread or value still has to do is an activity, and a rule takes one
activity through its next section. A `Prepared`, a batch or a set of aliases of one
allocation is an activity too, as it waits for its owner's next call. The context
outlives nothing: where an owner asks for it, it may be gone. A look at the loss flag
and the return to the pool that it permits count as one section as far as the flag is
concerned, so a loss is not recorded while such a return is under way. Failures to
allocate host memory, where they change nothing, are left out.
-/

namespace GpuInfo
open MachineInteger

/-- A native buffer or texture. -/
abbrev NativeId := Nat

/-- The error scopes of one `prepare`. -/
abbrev CreationId := Nat

structure Allocation (Format : Type) where
  native : NativeId
  spec : Spec Format
  bytes : Nat
  bytes_le : bytes ≤ u64Max
  mapped : Bool

instance {Format : Type} : Pooled (Allocation Format) (Spec Format) where
  key := Allocation.spec
  bytes := Allocation.bytes
  bytes_le := Allocation.bytes_le

abbrev ChargedAllocation (Format : Type) := Charged (Allocation Format)

namespace ChargedAllocation
variable {Format : Type} (allocation : ChargedAllocation Format)

abbrev native : NativeId := allocation.resource.native

def setMapped (mapped : Bool) : ChargedAllocation Format :=
  ⟨{ allocation.resource with mapped }, allocation.bytes, allocation.exact⟩

/-- A staging buffer that is not mapped returns to the pool through a remap. -/
def needsRemap : Bool := allocation.resource.spec.staging && !allocation.resource.mapped

end ChargedAllocation

structure Owned (Format : Type) where
  allocation : ChargedAllocation Format
  healthy : Bool

abbrev Slots (Format : Type) := List (Option (Owned Format))

/-- The owners in some slots, in the order in which they are dropped. -/
def Slots.owners {Format : Type} (slots : Slots Format) : List (Owned Format) := slots.reduceOption

/-- `Batch::accepted` -/
def Slots.accepted {Format : Type} (slots : Slots Format) : Slots Format :=
  slots.map (·.map fun owned => { owned with healthy := true })

inductive Kind
  | buffer
  | texture
  deriving DecidableEq, Repr

def Spec.kind {Format : Type} : Spec Format → Kind
  | .buffer _ => .buffer
  | .texture _ => .texture

/-- `Batch::buffer` and `Batch::texture` -/
def Slots.transfer {Format : Type} (slots : Slots Format) (kind : Kind) (index : Nat) :
    Except (ResourceError Format) (Owned Format × Slots Format) :=
  match slots[index]? with
  | some (some owned) =>
      if owned.allocation.resource.spec.kind = kind then .ok (owned, slots.set index none)
      else .error .slot
  | some none | none => .error .slot

structure Remap (Format : Type) where
  allocation : ChargedAllocation Format
  signal : SignalId

/-- The callback of a `map_async`: to be run or dropped, run, or dropped. -/
inductive CallbackState
  | pending
  | ran
  | gone
  deriving DecidableEq, Repr

/-- The signal of a remap and its `MapNotify`; nothing reads whose it is or how often a
collect has harvested it. -/
structure MapRequest where
  native : NativeId
  outcome : Option Outcome
  callback : CallbackState
  harvests : Nat

/-- `MapNotify::finish`: the first outcome stays. -/
def MapRequest.finish (request : MapRequest) (result : Outcome) : MapRequest :=
  { request with outcome := request.outcome <|> some result }

/-- What is true of a native object, and whether it has come back to the pool after the
loss: no code reads this. -/
structure Native (Format : Type) where
  descriptor : Spec Format
  creation : CreationId
  hostMapped : Bool
  tainted : Bool
  lateReturn : Bool

/-- `Inner`, with the map requests, error scopes and native objects of its device. The
allocations made and destroyed so far, with their bytes, are for the record. -/
structure Inner (Format : Type) where
  memory : MemoryUsage
  loss : Option String
  pool : ResourcePool (ChargedAllocation Format)
  remaps : List (Remap Format)
  remapsLocked : Bool
  /-- Returns to the pool under way that have seen no loss. -/
  returning : Nat
  requests : SignalId → Option MapRequest
  creations : CreationId → Option Outcome
  natives : NativeId → Option (Native Format)
  nextSignal : SignalId
  nextCreation : CreationId
  nextNative : NativeId
  created : Multiset (NativeId × Nat)
  destroyed : Multiset (NativeId × Nat)

variable {Format : Type}

/-- `Vec::swap_remove`, without the element it removes. -/
def swapRemove {α : Type} (slots : List α) (position : Nat) : List α :=
  match slots.getLast? with
  | none => []
  | some last => (slots.set position last).dropLast

namespace Inner
variable (s : Inner Format)

def new (limit : Option Nat) : Inner Format where
  memory := .new limit
  loss := none
  pool := ResourcePool.withLimits 0 256
  remaps := []
  remapsLocked := false
  returning := 0
  requests _ := none
  creations _ := none
  natives _ := none
  nextSignal := 0
  nextCreation := 0
  nextNative := 0
  created := 0
  destroyed := 0

def updateNative (native : NativeId) (f : Native Format → Native Format) : Inner Format :=
  { s with natives := Function.update s.natives native ((s.natives native).map f) }

def updateRequest (signal : SignalId) (f : MapRequest → MapRequest) : Inner Format :=
  { s with requests := Function.update s.requests signal ((s.requests signal).map f) }

/-- An allocation comes into being with its charge. -/
def create (memory : MemoryUsage) (allocation : ChargedAllocation Format)
    (creation : CreationId) : Inner Format :=
  { s with
    memory
    natives := Function.update s.natives s.nextNative (some
      ⟨allocation.resource.spec, creation, allocation.resource.mapped, false, false⟩)
    nextNative := s.nextNative + 1
    created := (allocation.native, allocation.bytes) ::ₘ s.created }

/-- Some resource of the pool after a section was not in it before. -/
def entering (pool : ResourcePool (ChargedAllocation Format)) (native : NativeId) : Bool :=
  pool.idle.slots.any (·.native == native) && !s.pool.idle.slots.any (·.native == native)

/-- The pool after a section, with the returns it has let in. -/
def setPool (pool : ResourcePool (ChargedAllocation Format)) : Inner Format :=
  { s with
    pool
    natives := fun native => (s.natives native).map fun object =>
      if s.entering pool native then { object with lateReturn := s.loss.isSome } else object }

/-- The destructor of a pool section: the object goes, and its charge with it. -/
def observe (effect : Effect (ChargedAllocation Format)) : Except Fault (Inner Format) :=
  match effect with
  | .destroyed allocation => do
      let memory ← s.memory.release allocation.bytes
      .ok { s with
        memory
        destroyed := (allocation.native, allocation.bytes) ::ₘ s.destroyed }
  | .silent | .taken _ | .freed _ => .ok s

/-- A remap waits for its callback. -/
def push (allocation : ChargedAllocation Format) : Inner Format :=
  { s with
    remaps := s.remaps ++ [⟨allocation, s.nextSignal⟩]
    requests := Function.update s.requests s.nextSignal
      (some ⟨allocation.native, none, .pending, 0⟩)
    nextSignal := s.nextSignal + 1 }

/-- A map callback runs; a successful one has mapped its buffer. -/
def runMap (signal : SignalId) (request : MapRequest) (result : Outcome) : Inner Format :=
  let s := s.updateRequest signal fun request => { request.finish result with callback := .ran }
  match result with
  | .ok () => s.updateNative request.native fun object => { object with hostMapped := true }
  | .error _ => s

/-- The `MapNotify` of a callback is dropped, whether it ran or not. -/
def dropMap (signal : SignalId) : Inner Format :=
  s.updateRequest signal fun request => { request.finish (.error .dropped) with callback := .gone }

def harvest (position : Nat) (signal : SignalId) : Inner Format :=
  { s.updateRequest signal (fun request => { request with harvests := request.harvests + 1 }) with
    remaps := swapRemove s.remaps position }

def takeOutcome (signal : SignalId) : Inner Format :=
  s.updateRequest signal fun request => { request with outcome := none }

end Inner

/-- What a thread still has to do once it has dropped some owners. -/
inductive Ending (Format : Type)
  | done
  | prepareFails (error : ResourceError Format)
  /-- `checked` unwinds before it runs the creation, which holds a reservation. -/
  | unwinds (remaining : Nat)
  /-- The creation has failed, and its `Prepared` will say so. -/
  | creationFails (creation : CreationId) (remaining : Nat) (error : ResourceError Format)

/-- The looks of `Owned::drop` before it returns an allocation. -/
inductive Stage
  | size
  | budget
  | loss
  | remap

/-- What a thread goes on with after a call of the pool. -/
inductive Purpose (Format : Type)
  | done
  | evicting (specs : List (Spec Format)) (slots : Slots Format) (missing : Nat)
  | dropping (owners : List (Owned Format)) (ending : Ending Format) (returning : Bool)
  | collecting (completed : List (Remap Format)) (lost : Bool) (count : Nat)
      (failure : Option WaitError)

inductive Activity (Format : Type)
  /-- Another user of the same budget. -/
  | foreign (holder : Holder Fake)
  /-- The aliases of one owner: the first and its clones. -/
  | owner (owned : Owned Format) (clones : Nat)
  | batch (slots : Slots Format)
  | prepared (creation : CreationId) (value : Except (ResourceError Format) (Slots Format))
  | taking (specs todo : List (Spec Format)) (slots : Slots Format) (missing : Nat)
  | reserving (specs : List (Spec Format)) (slots : Slots Format) (missing : Nat)
      (evicted : Bool)
  /-- In the closure of `prepare`: `todo` are the slots it has not come to yet. -/
  | creating (creation : CreationId) (todo : List (Option (Owned Format) × Spec Format))
      (slots : Slots Format) (remaining : Nat)
  | popping (creation : CreationId) (slots : Slots Format)
  | dropping (owners : List (Owned Format)) (ending : Ending Format)
  | offering (stage : Stage) (allocation : ChargedAllocation Format)
      (owners : List (Owned Format)) (ending : Ending Format)
  | calling (call : PoolCall (ChargedAllocation Format) (Spec Format)) (purpose : Purpose Format)
  /-- In `collect`, with the lock of the remaps. -/
  | harvesting (position : Nat) (completed : List (Remap Format))
  | harvested (completed : List (Remap Format))
  | collecting (completed : List (Remap Format)) (lost : Bool) (count : Nat)
      (failure : Option WaitError)

/-- An allocation is dropped, and what follows it. -/
def Activity.discard (allocation : ChargedAllocation Format) (purpose : Purpose Format) :
    Activity Format :=
  .calling (.destroying [allocation] .done) purpose

def Purpose.resume : Purpose Format → Multiset (Activity Format)
  | .done => 0
  | .evicting specs slots missing => {.reserving specs slots missing true}
  | .dropping owners ending _ => {.dropping owners ending}
  | .collecting completed lost count failure => {.collecting completed lost count failure}

/-- The return that is over when the call is. -/
def Purpose.returned : Purpose Format → Nat
  | .dropping _ _ true => 1
  | .done | .evicting _ _ _ | .dropping _ _ false | .collecting _ _ _ _ => 0

/-- The slots a failed creation drops. -/
def unfinished (slots : Slots Format) (todo : List (Option (Owned Format) × Spec Format)) :
    List (Owned Format) :=
  Slots.owners (slots ++ todo.map (·.1))

/-- What an activity does alone. -/
inductive Activity.Moves : Activity Format → Multiset (Activity Format) → Prop
  | clone (owned : Owned Format) (clones : Nat) :
      Moves (.owner owned clones) {.owner owned (clones + 1)}
  | release (owned : Owned Format) (clones : Nat) :
      Moves (.owner owned (clones + 1)) {.owner owned clones}
  | drop (owned : Owned Format) : Moves (.owner owned 0) {.dropping [owned] .done}
  | transfer {slots rest : Slots Format} {kind : Kind} {index : Nat} {owned : Owned Format}
      (h : slots.transfer kind index = .ok (owned, rest)) :
      Moves (.batch slots) {.batch rest, .owner owned 0}
  | dropBatch (slots : Slots Format) : Moves (.batch slots) {.dropping slots.owners .done}
  | dropPrepared (creation : CreationId) (slots : Slots Format) :
      Moves (.prepared creation (.ok slots)) {.dropping slots.owners .done}
  | dropFailed (creation : CreationId) (error : ResourceError Format) :
      Moves (.prepared creation (.error error)) 0
  | planned (specs : List (Spec Format)) (slots : Slots Format) (missing : Nat) :
      Moves (.taking specs [] slots missing) {.reserving specs slots missing false}
  | kept (creation : CreationId) (owned : Owned Format) (spec : Spec Format)
      (todo : List (Option (Owned Format) × Spec Format)) (slots : Slots Format)
      (remaining : Nat) :
      Moves (.creating creation ((some owned, spec) :: todo) slots remaining)
        {.creating creation todo (slots ++ [some owned]) remaining}
  | pushUnwinds (creation : CreationId) (todo : List (Option (Owned Format) × Spec Format))
      (slots : Slots Format) (remaining : Nat) :
      Moves (.creating creation todo slots remaining)
        {.dropping (unfinished slots todo) (.unwinds remaining)}
  | createUnwinds (creation : CreationId) (todo : List (Option (Owned Format) × Spec Format))
      (slots : Slots Format) (remaining : Nat) (payload : Payload) :
      Moves (.creating creation todo slots remaining)
        {.dropping (unfinished slots todo) (.creationFails creation remaining
          (.gpu (.submitPanicked (panicMessage payload))))}
  | popped (creation : CreationId) (slots : Slots Format) :
      Moves (.popping creation slots) {.prepared creation (.ok slots)}
  | popUnwinds (creation : CreationId) (slots : Slots Format) :
      Moves (.popping creation slots) {.dropping slots.owners .done}
  | discard {owned : Owned Format} (owners : List (Owned Format)) (ending : Ending Format)
      (h : (owned.healthy && owned.allocation.resource.spec.reusable) = false) :
      Moves (.dropping (owned :: owners) ending)
        {.discard owned.allocation (.dropping owners ending false)}
  /-- `Weak::upgrade` fails. -/
  | orphaned {owned : Owned Format} (owners : List (Owned Format)) (ending : Ending Format) :
      Moves (.dropping (owned :: owners) ending)
        {.discard owned.allocation (.dropping owners ending false)}
  | offer {owned : Owned Format} (owners : List (Owned Format)) (ending : Ending Format)
      (h : (owned.healthy && owned.allocation.resource.spec.reusable) = true) :
      Moves (.dropping (owned :: owners) ending) {.offering .size owned.allocation owners ending}
  | dropped : Moves (.dropping [] .done) 0
  | prepareFailed (error : ResourceError Format) : Moves (.dropping [] (.prepareFails error)) 0

variable [DecidableEq Format] [Wgpu Format]

/-- The head of `prepare`: the loss, then every descriptor. -/
def prepareCheck (limits : Limits) (loss : Option String) (specs : List (Spec Format)) :
    Except (ResourceError Format) Unit :=
  match loss with
  | some reason => .error (.gpu (.deviceLost reason))
  | none => specs.forM fun spec => do
      let _ ← spec.bytes limits

/-- The bytes to reserve with one more miss. -/
def addMissing (limits : Limits) (missing : Nat) (spec : Spec Format) :
    Except (ResourceError Format) Nat := do
  let bytes ← spec.normalized.bytes limits
  match checkedAdd missing bytes with
  | some missing => .ok missing
  | none => .error .overflow

/-- A staging buffer is mapped at its creation. -/
def newAllocation (native : NativeId) {spec : Spec Format} {limits : Limits} {bytes : Nat}
    (h : spec.bytes limits = .ok bytes) : Allocation Format :=
  ⟨native, spec, bytes, Spec.bytes_le h, spec.staging⟩

omit [DecidableEq Format] [Wgpu Format] in
/-- The checks of `Buffer::upload`, for a buffer with that many clones. -/
def uploadCheck (clones : Nat) (allocation : Allocation Format) (offset length : Nat) :
    Except (ResourceError Format) Unit :=
  match allocation.spec with
  | .texture _ => .error .uploadState
  | .buffer spec =>
      if clones != 0 || !spec.staging || !allocation.mapped || offset % mapAlignment != 0 ||
          length = 0 || length % copyBufferAlignment != 0 ||
          (checkedAdd offset length).all (spec.size.val < ·) then .error .uploadState
      else .ok ()

/-- One `Resources` with its users, on a device of these limits. -/
inductive ResourceRule (limits : Limits) : Interleaving.Rule (Inner Format) (Activity Format)
  | move {s : Inner Format} {activity : Activity Format} {left : Multiset (Activity Format)}
      (h : activity.Moves left) : ResourceRule limits s {activity} s left
  /-- Other users of the budget, and the host that limits it. -/
  | foreign {s : Inner Format} {memory : MemoryUsage} {taken left : Multiset (Holder Fake)}
      (h : AdmissionRule s.memory taken memory left) :
      ResourceRule limits s (taken.map .foreign) { s with memory } (left.map .foreign)
  | markLost {s : Inner Format} (reason : String) (h : s.returning = 0) :
      ResourceRule limits s 0 { s with loss := s.loss <|> some reason } 0
  | setIdleBudget {s : Inner Format} {bytes : Nat} (h : bytes ≤ u64Max) :
      ResourceRule limits s 0 s {.calling (.setBudget bytes) .done}
  | prepare {s : Inner Format} {specs : List (Spec Format)}
      (h : prepareCheck limits s.loss specs = .ok ()) :
      ResourceRule limits s 0 s {.taking specs specs [] 0}
  | hit {s : Inner Format} {specs todo : List (Spec Format)} {spec : Spec Format}
      {slots : Slots Format} {missing : Nat} {pool : ResourcePool (ChargedAllocation Format)}
      {allocation : ChargedAllocation Format} (reusable : spec.normalized.reusable = true)
      (h : s.pool.take spec.normalized = .ok (pool, some allocation)) :
      ResourceRule limits s {.taking specs (spec :: todo) slots missing} { s with pool }
        {.taking specs todo (slots ++ [some ⟨allocation, true⟩]) missing}
  | miss {s : Inner Format} {specs todo : List (Spec Format)} {spec : Spec Format}
      {slots : Slots Format} {missing more : Nat}
      (absent : spec.normalized.reusable = true →
        s.pool.take spec.normalized = .ok (s.pool, none))
      (h : addMissing limits missing spec = .ok more) :
      ResourceRule limits s {.taking specs (spec :: todo) slots missing} s
        {.taking specs todo (slots ++ [none]) more}
  | missFails {s : Inner Format} {specs todo : List (Spec Format)} {spec : Spec Format}
      {slots : Slots Format} {missing : Nat} {error : ResourceError Format}
      (absent : spec.normalized.reusable = true →
        s.pool.take spec.normalized = .ok (s.pool, none))
      (h : addMissing limits missing spec = .error error) :
      ResourceRule limits s {.taking specs (spec :: todo) slots missing} s
        {.dropping slots.owners (.prepareFails error)}
  | reserve {s : Inner Format} {specs : List (Spec Format)} {slots : Slots Format}
      {missing remaining : Nat} {evicted : Bool} {memory : MemoryUsage}
      (h : s.memory.reserve missing = .ok (memory, .ok remaining)) :
      ResourceRule limits s {.reserving specs slots missing evicted}
        { s with memory, nextCreation := s.nextCreation + 1 }
        {.creating s.nextCreation (slots.zip specs) [] remaining}
  | evict {s : Inner Format} {specs : List (Spec Format)} {slots : Slots Format}
      {missing requested used limit : Nat} {memory : MemoryUsage}
      (h : s.memory.reserve missing = .ok (memory, .error (.capacity requested used limit))) :
      ResourceRule limits s {.reserving specs slots missing false} { s with memory }
        {.calling (.evict (saturatingAdd used requested - limit)) (.evicting specs slots missing)}
  | reserveFails {s : Inner Format} {specs : List (Spec Format)} {slots : Slots Format}
      {missing : Nat} {evicted : Bool} {error : AdmissionError} {memory : MemoryUsage}
      (h : s.memory.reserve missing = .ok (memory, .error error))
      (final : evicted = true ∨ ∀ requested used limit, error ≠ .capacity requested used limit) :
      ResourceRule limits s {.reserving specs slots missing evicted} { s with memory }
        {.dropping slots.owners (.prepareFails (.admission error))}
  | create {s : Inner Format} {creation : CreationId} {spec : Spec Format}
      {todo : List (Option (Owned Format) × Spec Format)} {slots : Slots Format}
      {remaining rest bytes : Nat} {memory : MemoryUsage} {allocation : ChargedAllocation Format}
      (hbytes : spec.normalized.bytes limits = .ok bytes)
      (h : charge s.memory remaining (newAllocation s.nextNative hbytes) =
        .ok (memory, rest, .ok allocation)) :
      ResourceRule limits s {.creating creation ((none, spec) :: todo) slots remaining}
        (s.create memory allocation creation)
        {.creating creation todo (slots ++ [some ⟨allocation, false⟩]) rest}
  | createInvalid {s : Inner Format} {creation : CreationId} {spec : Spec Format}
      {todo : List (Option (Owned Format) × Spec Format)} {slots : Slots Format}
      {remaining : Nat} {error : ResourceError Format}
      (h : spec.normalized.bytes limits = .error error) :
      ResourceRule limits s {.creating creation ((none, spec) :: todo) slots remaining} s
        {.dropping (unfinished slots todo) (.creationFails creation remaining error)}
  | chargeFails {s : Inner Format} {creation : CreationId} {spec : Spec Format}
      {todo : List (Option (Owned Format) × Spec Format)} {slots : Slots Format}
      {remaining rest bytes : Nat} {memory : MemoryUsage} {error : AdmissionError}
      (hbytes : spec.normalized.bytes limits = .ok bytes)
      (h : charge s.memory remaining (newAllocation s.nextNative hbytes) =
        .ok (memory, rest, .error error)) :
      ResourceRule limits s {.creating creation ((none, spec) :: todo) slots remaining}
        { s with memory }
        {.dropping (unfinished slots todo) (.creationFails creation rest (.admission error))}
  | created {s : Inner Format} {creation : CreationId} {slots : Slots Format} {remaining : Nat}
      {memory : MemoryUsage} (h : s.memory.cancel remaining = .ok memory) :
      ResourceRule limits s {.creating creation [] slots remaining} { s with memory }
        {.popping creation slots}
  | unwound {s : Inner Format} {remaining : Nat} {memory : MemoryUsage}
      (h : s.memory.cancel remaining = .ok memory) :
      ResourceRule limits s {.dropping [] (.unwinds remaining)} { s with memory } 0
  | creationFailed {s : Inner Format} {creation : CreationId} {remaining : Nat}
      {error : ResourceError Format} {memory : MemoryUsage}
      (h : s.memory.cancel remaining = .ok memory) :
      ResourceRule limits s {.dropping [] (.creationFails creation remaining error)}
        { s with memory } {.prepared creation (.error error)}
  /-- The device answers for the error scopes of a `prepare`. -/
  | answer {s : Inner Format} (creation : CreationId) (outcome : Outcome)
      (unanswered : s.creations creation = none) :
      ResourceRule limits s 0
        { s with creations := Function.update s.creations creation (some outcome) } 0
  | accept {s : Inner Format} {creation : CreationId} {slots : Slots Format}
      (h : s.creations creation = some (.ok ())) :
      ResourceRule limits s {.prepared creation (.ok slots)} s {.batch slots.accepted}
  | reject {s : Inner Format} {creation : CreationId} {slots : Slots Format} {error : WaitError}
      (h : s.creations creation = some (.error error)) :
      ResourceRule limits s {.prepared creation (.ok slots)} s {.dropping slots.owners .done}
  | taint {s : Inner Format} (owned : Owned Format) (clones : Nat) :
      ResourceRule limits s {.owner owned clones}
        (s.updateNative owned.allocation.native fun object => { object with tainted := true })
        {.owner { owned with healthy := false } clones}
  | upload {s : Inner Format} {owned : Owned Format} {clones offset length : Nat}
      (h : uploadCheck clones owned.allocation.resource offset length = .ok ()) :
      ResourceRule limits s {.owner owned clones}
        (s.updateNative owned.allocation.native fun object => { object with hostMapped := false })
        {.owner { owned with allocation := owned.allocation.setMapped false } clones}
  | overBudget {s : Inner Format} {allocation : ChargedAllocation Format}
      {owners : List (Owned Format)} {ending : Ending Format}
      (h : s.pool.budget < allocation.bytes) :
      ResourceRule limits s {.offering .size allocation owners ending} s
        {.discard allocation (.dropping owners ending false)}
  | withinBudget {s : Inner Format} {allocation : ChargedAllocation Format}
      {owners : List (Owned Format)} {ending : Ending Format}
      (h : allocation.bytes ≤ s.pool.budget) :
      ResourceRule limits s {.offering .size allocation owners ending} s
        {.offering .budget allocation owners ending}
  | noBudget {s : Inner Format} {allocation : ChargedAllocation Format}
      {owners : List (Owned Format)} {ending : Ending Format} (h : s.pool.budget = 0) :
      ResourceRule limits s {.offering .budget allocation owners ending} s
        {.discard allocation (.dropping owners ending false)}
  | someBudget {s : Inner Format} {allocation : ChargedAllocation Format}
      {owners : List (Owned Format)} {ending : Ending Format} (h : s.pool.budget ≠ 0) :
      ResourceRule limits s {.offering .budget allocation owners ending} s
        {.offering .loss allocation owners ending}
  | lost {s : Inner Format} {allocation : ChargedAllocation Format}
      {owners : List (Owned Format)} {ending : Ending Format} (h : s.loss ≠ none) :
      ResourceRule limits s {.offering .loss allocation owners ending} s
        {.discard allocation (.dropping owners ending false)}
  | remap {s : Inner Format} {allocation : ChargedAllocation Format}
      {owners : List (Owned Format)} {ending : Ending Format} (h : s.loss = none)
      (unmapped : allocation.needsRemap = true) :
      ResourceRule limits s {.offering .loss allocation owners ending} s
        {.offering .remap allocation owners ending}
  | put {s : Inner Format} {allocation : ChargedAllocation Format}
      {owners : List (Owned Format)} {ending : Ending Format} (h : s.loss = none)
      (mapped : allocation.needsRemap = false) :
      ResourceRule limits s {.offering .loss allocation owners ending}
        { s with returning := s.returning + 1 }
        {.calling (.put allocation) (.dropping owners ending true)}
  | pushFails {s : Inner Format} {allocation : ChargedAllocation Format}
      {owners : List (Owned Format)} {ending : Ending Format} (unlocked : s.remapsLocked = false) :
      ResourceRule limits s {.offering .remap allocation owners ending} s
        {.discard allocation (.dropping owners ending false)}
  | push {s : Inner Format} {allocation : ChargedAllocation Format}
      {owners : List (Owned Format)} {ending : Ending Format} (unlocked : s.remapsLocked = false) :
      ResourceRule limits s {.offering .remap allocation owners ending} (s.push allocation)
        {.dropping owners ending}
  /-- A section of a call of the pool, and not its last. -/
  | advance {s s' : Inner Format}
      {call call' : PoolCall (ChargedAllocation Format) (Spec Format)}
      {pool : ResourcePool (ChargedAllocation Format)} {effect : Effect (ChargedAllocation Format)}
      {purpose : Purpose Format} (grow : Bool)
      (h : call.advance s.pool grow = .ok ⟨pool, some call', effect⟩)
      (seen : (s.setPool pool).observe effect = .ok s') :
      ResourceRule limits s {.calling call purpose} s' {.calling call' purpose}
  | finish {s s' : Inner Format} {call : PoolCall (ChargedAllocation Format) (Spec Format)}
      {pool : ResourcePool (ChargedAllocation Format)} {effect : Effect (ChargedAllocation Format)}
      {purpose : Purpose Format} (grow : Bool)
      (h : call.advance s.pool grow = .ok ⟨pool, none, effect⟩)
      (seen : (s.setPool pool).observe effect = .ok s') :
      ResourceRule limits s {.calling call purpose}
        { s' with returning := s'.returning - purpose.returned } purpose.resume
  | runMap {s : Inner Format} {signal : SignalId} {request : MapRequest} (result : Outcome)
      (h : s.requests signal = some request) (pending : request.callback = .pending) :
      ResourceRule limits s 0 (s.runMap signal request result) 0
  | dropMap {s : Inner Format} {signal : SignalId} {request : MapRequest}
      (h : s.requests signal = some request) (there : request.callback ≠ .gone) :
      ResourceRule limits s 0 (s.dropMap signal) 0
  | collect {s : Inner Format} (unlocked : s.remapsLocked = false) :
      ResourceRule limits s 0 { s with remapsLocked := true } {.harvesting 0 []}
  | pass {s : Inner Format} {position : Nat} {completed : List (Remap Format)}
      {remap : Remap Format} {request : MapRequest} (h : s.remaps[position]? = some remap)
      (hrequest : s.requests remap.signal = some request) (open' : request.outcome = none) :
      ResourceRule limits s {.harvesting position completed} s
        {.harvesting (position + 1) completed}
  | harvest {s : Inner Format} {position : Nat} {completed : List (Remap Format)}
      {remap : Remap Format} {request : MapRequest} (h : s.remaps[position]? = some remap)
      (hrequest : s.requests remap.signal = some request) (settled : request.outcome ≠ none) :
      ResourceRule limits s {.harvesting position completed} (s.harvest position remap.signal)
        {.harvesting position (completed ++ [remap])}
  | harvested {s : Inner Format} {position : Nat} {completed : List (Remap Format)}
      (h : s.remaps.length ≤ position) :
      ResourceRule limits s {.harvesting position completed} { s with remapsLocked := false }
        {.harvested completed}
  | harvestedLost {s : Inner Format} {completed : List (Remap Format)} (h : s.loss ≠ none) :
      ResourceRule limits s {.harvested completed} s
        {.collecting completed true completed.length none}
  | harvestedSafe {s : Inner Format} {completed : List (Remap Format)} (h : s.loss = none) :
      ResourceRule limits s {.harvested completed} { s with returning := s.returning + 1 }
        {.collecting completed false completed.length none}
  | settle {s : Inner Format} {remap : Remap Format} {completed : List (Remap Format)}
      {count : Nat} {failure : Option WaitError} {request : MapRequest}
      (hrequest : s.requests remap.signal = some request) (h : request.outcome = some (.ok ())) :
      ResourceRule limits s {.collecting (remap :: completed) false count failure}
        (s.takeOutcome remap.signal)
        {.calling (.put (remap.allocation.setMapped true))
          (.collecting completed false count failure)}
  | settleLost {s : Inner Format} {remap : Remap Format} {completed : List (Remap Format)}
      {count : Nat} {failure : Option WaitError} {request : MapRequest}
      (hrequest : s.requests remap.signal = some request) (h : request.outcome = some (.ok ())) :
      ResourceRule limits s {.collecting (remap :: completed) true count failure}
        (s.takeOutcome remap.signal)
        {.discard remap.allocation (.collecting completed true count failure)}
  | settleFails {s : Inner Format} {remap : Remap Format} {completed : List (Remap Format)}
      {lost : Bool} {count : Nat} {failure : Option WaitError} {request : MapRequest}
      {error : WaitError} (hrequest : s.requests remap.signal = some request)
      (h : request.outcome = some (.error error)) :
      ResourceRule limits s {.collecting (remap :: completed) lost count failure}
        (s.takeOutcome remap.signal)
        {.discard remap.allocation (.collecting completed lost count (some error))}
  | collectedLost {s : Inner Format} (count : Nat) (failure : Option WaitError) :
      ResourceRule limits s {.collecting [] true count failure} s 0
  | collected {s : Inner Format} (count : Nat) (failure : Option WaitError) :
      ResourceRule limits s {.collecting [] false count failure}
        { s with returning := s.returning - 1 } 0

abbrev ResourceConfig (Format : Type) := Interleaving.Config (Inner Format) (Activity Format)

abbrev ResourceStep (limits : Limits) : ResourceConfig Format → ResourceConfig Format → Prop :=
  Interleaving.Step (ResourceRule limits)

/-- A new context, with any limit of its budget. -/
inductive ResourceStart : ResourceConfig Format → Prop
  | new (limit : Option Nat) : ResourceStart ⟨.new limit, 0⟩

end GpuInfo
