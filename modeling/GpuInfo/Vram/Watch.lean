import Mathlib.Data.Option.Basic

/-!
A rate-limited reading of the VRAM budget (`VramWatch` in `src/vram.rs`). The lock is
held from a call's first look at the state to its answer, so the calls on one watch
follow one another. A call reads the clock twice, before it decides whether to query and
once the query has finished. A query that unwinds leaves the state as it is by then, and
the next call goes on with it.
-/

namespace GpuInfo

variable {Device : Type}

/-- The last reading of a watch; `readAt` is the source's `at`. -/
structure WatchState (Device : Type) where
  device : Option Device
  budget : Option Nat
  readAt : Option Nat
  failing : Bool

/-- Times and durations are in nanoseconds. -/
structure VramWatch (Device : Type) where
  label : String
  every : Nat
  state : WatchState Device

/-- How the caller's query ends. -/
inductive QueryOutcome
  | returned (budget : Option Nat)
  | unwound
  deriving DecidableEq, Repr

/-- A line of the log. -/
inductive WatchNotice
  | noBudget
  | recovered (bytes : Nat)
  deriving DecidableEq, Repr

/-- `budget_with` on a device: what the clock shows before and after the query. -/
structure WatchCall (Device : Type) where
  device : Device
  asked : Nat
  query : QueryOutcome
  answered : Nat

/-- What a call comes to; it has no answer if it unwinds. Whether it has run the query is part
of it. -/
structure WatchResult (Device : Type) where
  watch : VramWatch Device
  answer : Option (Option Nat)
  notice : Option WatchNotice
  queried : Bool

namespace VramWatch

def new (label : String) (every : Nat) : VramWatch Device :=
  ⟨label, every, ⟨none, none, none, false⟩⟩

variable [DecidableEq Device] (watch : VramWatch Device)

/-- The last reading is of this device and younger than the interval. -/
def cached (device : Device) (asked : Nat) : Bool :=
  watch.state.device == some device && watch.state.readAt.any (asked - · < watch.every)

/-- The state a query finds: another device's failures are forgotten. -/
def rekeyed (device : Device) : WatchState Device :=
  if watch.state.device = some device then watch.state
  else { watch.state with device := some device, failing := false }

def budgetWith (call : WatchCall Device) : WatchResult Device :=
  if watch.cached call.device call.asked then ⟨watch, some watch.state.budget, none, false⟩
  else
    let state := watch.rekeyed call.device
    match call.query with
    | .unwound => ⟨{ watch with state }, none, none, true⟩
    | .returned budget =>
        let (failing, notice) := match budget, state.failing with
          | none, false => (true, some WatchNotice.noBudget)
          | some bytes, true => (false, some (.recovered bytes))
          | _, failing => (failing, none)
        ⟨{ watch with state := ⟨state.device, budget, some call.answered, failing⟩ },
          some budget, notice, true⟩

end VramWatch

/-- A query that returned. -/
structure Reading (Device : Type) where
  device : Device
  budget : Option Nat
  finished : Nat

/-- A watch in use: what the clock has shown last, and the readings so far. -/
structure WatchHistory (Device : Type) where
  watch : VramWatch Device
  now : Nat
  readings : List (Reading Device)

variable [DecidableEq Device]

/-- The reading that a call makes, if it queries and the query returns. -/
def WatchCall.reading (watch : VramWatch Device) (call : WatchCall Device) :
    Option (Reading Device) :=
  if (watch.budgetWith call).queried then
    match call.query with
    | .unwound => none
    | .returned budget => some ⟨call.device, budget, call.answered⟩
  else none

def WatchHistory.after (s : WatchHistory Device) (call : WatchCall Device) :
    WatchHistory Device :=
  ⟨(s.watch.budgetWith call).watch, call.answered,
    (call.reading s.watch).toList ++ s.readings⟩

/-- The clock does not run backwards. -/
def WatchHistory.Next (s : WatchHistory Device) (call : WatchCall Device) : Prop :=
  s.now ≤ call.asked ∧ call.asked ≤ call.answered

instance (s : WatchHistory Device) (call : WatchCall Device) : Decidable (s.Next call) :=
  inferInstanceAs (Decidable (_ ∧ _))

def WatchStep (s s' : WatchHistory Device) : Prop := ∃ call, s.Next call ∧ s' = s.after call

def WatchStart (every : Nat) (s : WatchHistory Device) : Prop :=
  ∃ label, s = ⟨.new label every, 0, []⟩

end GpuInfo
