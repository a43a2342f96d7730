import GpuInfo.Interleaving
import GpuInfo.MachineInteger

/-!
The counting semaphore in front of a pool (`Gate` in `src/pool.rs`). The mutex
guards `free`, and a wait gives it back and joins the condition variable in one
step, so the sections between are atomic. `notify_one` delivers a wakeup to one
waiter of the condition variable, whichever it likes, or to nobody if there is
none; a waiter also wakes with no wakeup delivered to it, spuriously or because
its 10 ms are over. Nothing in the code reads whether a wakeup was delivered:
the flag `notified` only records it.
-/

namespace GpuInfo
open MachineInteger

/-- A thread in a wait of the condition variable. -/
inductive Waiter
  /-- The untimed wait of `wait_free`, of an `enter` or (`owned`) an `enter_owned`. -/
  | asleep (owned : Bool)
  /-- The timed wait of `enter_until`. -/
  | dozing
  deriving DecidableEq, Repr

structure Gate where
  free : Nat
  /-- The waiters of `freed`. -/
  waiting : Multiset Waiter

/-- A thread that uses the gate and is not in a wait of its condition variable. -/
inductive Visitor
  /-- `wait_free` before it first takes the lock. -/
  | arriving (owned : Bool)
  /-- `wait_free` before its wait takes the lock back. -/
  | awake (owned notified : Bool)
  /-- `enter_until` before it calls `keep_waiting`. -/
  | asking (notified : Bool)
  /-- `enter_until` before it takes the lock. -/
  | approaching (notified : Bool)
  /-- A `Permit` or an `OwnedPermit` lives. -/
  | admitted
  deriving DecidableEq, Repr

namespace Gate

def new (permits : Nat) : Gate := ⟨if permits = 0 then 1 else permits, 0⟩

/-- One look at `free` under the lock: the count left by an admission, or `none`
when the thread has to wait. -/
def acquire (free : Nat) : Option (Except Fault Nat) :=
  if free ≠ 0 then some (sub64 free 1) else none

/-- `leave` before it notifies. -/
def giveBack (free : Nat) : Except Fault Nat := add64 free 1

end Gate

/-- Where a waiter goes on when its wait ends. -/
def Waiter.woken (notified : Bool) : Waiter → Visitor
  | .asleep owned => .awake owned notified
  | .dozing => .asking notified

/-- The wait a thread that finds no free permit begins. -/
def Visitor.waiter : Visitor → Option Waiter
  | .arriving owned | .awake owned _ => some (.asleep owned)
  | .approaching _ => some .dozing
  | .asking _ | .admitted => none

inductive GateRule : Interleaving.Rule Gate Visitor
  /-- `enter` or `enter_owned` is called. -/
  | enter {gate : Gate} (owned : Bool) : GateRule gate 0 gate {.arriving owned}
  | enterUntil {gate : Gate} : GateRule gate 0 gate {.asking false}
  | keepWaiting {gate : Gate} {notified : Bool} :
      GateRule gate {.asking notified} gate {.approaching notified}
  /-- `keep_waiting` answers false. -/
  | cancel {gate : Gate} {notified : Bool} : GateRule gate {.asking notified} gate 0
  | pass {gate : Gate} {visitor : Visitor} {waiter : Waiter} {free : Nat}
      (locks : visitor.waiter = some waiter) (h : Gate.acquire gate.free = some (.ok free)) :
      GateRule gate {visitor} { gate with free } {.admitted}
  | wait {gate : Gate} {visitor : Visitor} {waiter : Waiter}
      (locks : visitor.waiter = some waiter) (h : Gate.acquire gate.free = none) :
      GateRule gate {visitor} { gate with waiting := waiter ::ₘ gate.waiting } 0
  /-- A wait ends with no wakeup delivered. -/
  | rouse {free : Nat} {waiter : Waiter} {waiting : Multiset Waiter} :
      GateRule ⟨free, waiter ::ₘ waiting⟩ 0 ⟨free, waiting⟩ {waiter.woken false}
  /-- A permit is dropped; `notify_one` wakes one waiter. -/
  | leave {free free' : Nat} {waiter : Waiter} {waiting : Multiset Waiter}
      (h : Gate.giveBack free = .ok free') :
      GateRule ⟨free, waiter ::ₘ waiting⟩ {.admitted} ⟨free', waiting⟩ {waiter.woken true}
  /-- A permit is dropped and nobody waits. -/
  | leaveQuiet {free free' : Nat} (h : Gate.giveBack free = .ok free') :
      GateRule ⟨free, 0⟩ {.admitted} ⟨free', 0⟩ 0

abbrev GateConfig := Interleaving.Config Gate Visitor

abbrev GateStep : GateConfig → GateConfig → Prop := Interleaving.Step GateRule

def GateStart (permits : Nat) (c : GateConfig) : Prop := c = ⟨Gate.new permits, 0⟩

end GpuInfo
