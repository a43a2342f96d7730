import GpuInfo.Pool.ResourcePool

/-!
Logical allocation admission (`src/budget/admission.rs`). The usage lock is held
only inside `reserve`, `transfer`, the two drops and `set_limit`, each one atomic
section. A holder is what one thread or value keeps between two sections: a
reservation, a charged resource, a `charge` that has passed its unlocked check,
a charge whose resource is already destroyed.
-/

namespace GpuInfo
open MachineInteger

structure MemoryUsage where
  limit : Option Nat
  reserved : Nat
  allocated : Nat
  peak : Nat
  deriving DecidableEq, Repr

inductive AdmissionError
  | unconfigured
  | overflow
  | capacity (requested used limit : Nat)
  | reservationTooSmall (requested remaining : Nat)
  deriving DecidableEq, Repr

namespace MemoryUsage

def new (limit : Option Nat) : MemoryUsage := ⟨limit, 0, 0, 0⟩

/-- The total in exact arithmetic; the code computes it as `used`. -/
def total (usage : MemoryUsage) : Nat := usage.reserved + usage.allocated

def used (usage : MemoryUsage) : Except Fault Nat := add64 usage.reserved usage.allocated

def setLimit (usage : MemoryUsage) (limit : Option Nat) : MemoryUsage := { usage with limit }

/-- Zero bytes need no limit; a positive growth is checked against the limit
configured at this moment. -/
def admission (usage : MemoryUsage) (bytes used total : Nat) : Except AdmissionError Unit :=
  if bytes = 0 then .ok ()
  else match usage.limit with
    | none => .error .unconfigured
    | some limit => if limit < total then .error (.capacity bytes used limit) else .ok ()

/-- `MemoryBudget::reserve` under the lock: the usage it leaves and its answer,
the bytes that remain in the new reservation. -/
def reserve (usage : MemoryUsage) (bytes : Nat) :
    Except Fault (MemoryUsage × Except AdmissionError Nat) := do
  let used ← usage.used
  match checkedAdd used bytes with
  | none => .ok (usage, .error .overflow)
  | some total =>
      match usage.admission bytes used total with
      | .error error => .ok (usage, .error error)
      | .ok () => do
          let reserved ← add64 usage.reserved bytes
          .ok ({ usage with reserved, peak := max usage.peak total }, .ok bytes)

/-- `Drop for Reservation`. -/
def cancel (usage : MemoryUsage) (remaining : Nat) : Except Fault MemoryUsage := do
  let reserved ← sub64 usage.reserved remaining
  .ok { usage with reserved }

/-- `Drop for Charge`. -/
def release (usage : MemoryUsage) (bytes : Nat) : Except Fault MemoryUsage := do
  let allocated ← sub64 usage.allocated bytes
  .ok { usage with allocated }

end MemoryUsage

variable {R Key : Type} [Pooled R Key]

/-- One resource and its one charge. -/
structure Charged (R : Type) {Key : Type} [Pooled R Key] where
  resource : R
  bytes : Nat
  exact : bytes = Pooled.bytes resource

instance : Pooled (Charged R) Key where
  key charged := Pooled.key charged.resource
  bytes charged := charged.bytes
  bytes_le charged := charged.exact ▸ Pooled.bytes_le charged.resource

/-- The check of `Reservation::charge` before it takes the lock. -/
def chargeCheck (remaining : Nat) (resource : R) : Except AdmissionError Unit :=
  if remaining < Pooled.bytes resource then
    .error (.reservationTooSmall (Pooled.bytes resource) remaining)
  else .ok ()

/-- `Reservation::charge` under the lock: the usage, the reservation's remainder
and the charged resource. -/
def chargeTransfer (usage : MemoryUsage) (remaining : Nat) (resource : R) :
    Except Fault (MemoryUsage × Nat × Charged R) := do
  let bytes := Pooled.bytes resource
  let reserved ← sub64 usage.reserved bytes
  let allocated ← add64 usage.allocated bytes
  let remaining ← sub64 remaining bytes
  .ok ({ usage with reserved, allocated }, remaining, ⟨resource, bytes, rfl⟩)

/-- `Reservation::charge` without interruption between its check and its section. -/
def charge (usage : MemoryUsage) (remaining : Nat) (resource : R) :
    Except Fault (MemoryUsage × Nat × Except AdmissionError (Charged R)) :=
  match chargeCheck remaining resource with
  | .error error => .ok (usage, remaining, .error error)
  | .ok () => do
      let (usage, remaining, owner) ← chargeTransfer usage remaining resource
      .ok (usage, remaining, .ok owner)

inductive Holder (R : Type) {Key : Type} [Pooled R Key]
  | reserving (bytes : Nat)
  | reservation (remaining : Nat)
  /-- `charge` after its check and before its section. -/
  | charging (remaining : Nat) (resource : R)
  | charged (owner : Charged R)
  /-- The resource of a dropped `Charged` is destroyed before its charge. -/
  | releasing (bytes : Nat)

namespace Holder

/-- The bytes a live reservation still holds. -/
def remaining : Holder R → Nat
  | .reservation remaining | .charging remaining _ => remaining
  | _ => 0

/-- The bytes a charge holds until it is released. -/
def charge : Holder R → Nat
  | .charged owner => owner.bytes
  | .releasing bytes => bytes
  | _ => 0

end Holder

/-- One budget shared by any number of holders. -/
inductive AdmissionRule : Interleaving.Rule MemoryUsage (Holder R)
  | setLimit {usage : MemoryUsage} (limit : Option Nat) :
      AdmissionRule usage 0 (usage.setLimit limit) 0
  | beginReserve {usage : MemoryUsage} {bytes : Nat} (h : bytes ≤ u64Max) :
      AdmissionRule usage 0 usage {.reserving bytes}
  | reserve {usage usage' : MemoryUsage} {bytes remaining : Nat}
      (h : usage.reserve bytes = .ok (usage', .ok remaining)) :
      AdmissionRule usage {.reserving bytes} usage' {.reservation remaining}
  | reserveFails {usage usage' : MemoryUsage} {bytes : Nat} {error : AdmissionError}
      (h : usage.reserve bytes = .ok (usage', .error error)) :
      AdmissionRule usage {.reserving bytes} usage' 0
  | chargeChecked {usage : MemoryUsage} {remaining : Nat} {resource : R}
      (h : chargeCheck remaining resource = .ok ()) :
      AdmissionRule usage {.reservation remaining} usage {.charging remaining resource}
  | chargeFails {usage : MemoryUsage} {remaining : Nat} {resource : R} {error : AdmissionError}
      (h : chargeCheck remaining resource = .error error) :
      AdmissionRule usage {.reservation remaining} usage {.reservation remaining}
  | charge {usage usage' : MemoryUsage} {remaining remaining' : Nat} {resource : R}
      {charged : Charged R}
      (h : chargeTransfer usage remaining resource = .ok (usage', remaining', charged)) :
      AdmissionRule usage {.charging remaining resource} usage'
        {.reservation remaining', .charged charged}
  | cancel {usage usage' : MemoryUsage} {remaining : Nat}
      (h : usage.cancel remaining = .ok usage') :
      AdmissionRule usage {.reservation remaining} usage' 0
  | destroy {usage : MemoryUsage} {charged : Charged R} :
      AdmissionRule usage {.charged charged} usage {.releasing charged.bytes}
  | release {usage usage' : MemoryUsage} {bytes : Nat} (h : usage.release bytes = .ok usage') :
      AdmissionRule usage {.releasing bytes} usage' 0

abbrev AdmissionConfig (R : Type) {Key : Type} [Pooled R Key] :=
  Interleaving.Config MemoryUsage (Holder R)

abbrev AdmissionStep : AdmissionConfig R → AdmissionConfig R → Prop :=
  Interleaving.Step AdmissionRule

/-- A new budget with any configured limit, nothing held. -/
inductive AdmissionStart : AdmissionConfig R → Prop
  | new (limit : Option Nat) : AdmissionStart ⟨.new limit, 0⟩

end GpuInfo
