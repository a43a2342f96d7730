import Mathlib.Control.Monad.Basic
import Mathlib.Logic.Function.Basic

/-!
What a work queue runs on: the device queue and its completion callbacks, the
error-scope futures, the signals that callbacks set, and everyone else who may act
on them (`src/wait.rs`, and wgpu as far as the code relies on it). All of this goes
on by itself: before every look at it, and between any two, the schedule lets
others do any number of things and picks the answer of the next call. What wgpu
guarantees is built in: work on one queue retires in order, a callback runs only
once everything submitted before its registration has retired, and a poll reports
an empty queue only when everything submitted has. Submission statistics are not
modelled.
-/

namespace GpuInfo

/-- The payload of a panic. -/
inductive Payload
  | string (message : String)
  | str (message : String)
  | other
  deriving DecidableEq, Repr

def panicMessage : Payload → String
  | .string message | .str message => message
  | .other => "non-string panic payload"

/-- An error of wgpu (`poll`, `map`) stands for its text. -/
inductive WaitError
  | poll (error : String)
  | map (error : String)
  | dropped
  | submitPanicked (message : String)
  | submitRejected (message : String)
  | pollPanicked (message : String)
  | deviceLost (reason : String)
  deriving DecidableEq, Repr

def WaitError.toString : WaitError → String
  | .poll error => "device poll failed: " ++ error
  | .map error => "buffer map failed: " ++ error
  | .dropped => "completion callback dropped without running"
  | .submitPanicked message => "GPU submission panicked: " ++ message
  | .submitRejected message => "GPU submission rejected: " ++ message
  | .pollPanicked message => "GPU polling panicked: " ++ message
  | .deviceLost reason => "GPU device lost: " ++ reason

abbrev Outcome := Except WaitError Unit

abbrev SignalId := Nat
abbrev Lease := Nat

/-- The error scopes of one checked operation: of a recording, or of the submission
that a signal belongs to. -/
inductive ScopeId
  | recording (lease : Lease)
  | submission (signal : SignalId)
  deriving DecidableEq, Repr

/-- The state of a `Validation::Future`. A future that is not there is being polled,
`elsewhere` if by another thread. -/
structure ValidationState where
  future : Bool
  outcome : Option Outcome
  elsewhere : Bool

/-- A poll of the future that awaits the three popped scopes. -/
inductive FutureAnswer
  | pending
  | ready (internal memory validation : Option String)
  | panicked (payload : Payload)
  deriving Repr

def FutureAnswer.outcome : FutureAnswer → Option Outcome
  | .pending => none
  | .ready internal memory validation =>
      some (match internal <|> memory <|> validation with
        | none => .ok ()
        | some error => .error (.submitRejected error))
  | .panicked payload => some (.error (.submitRejected
      ("error-scope polling panicked: " ++ panicMessage payload)))

/-- A command buffer of the recording that a lease reserves for. -/
structure CommandBuffer where
  lease : Lease
  index : Nat
  deriving DecidableEq, Repr

structure Device where
  submitted : Nat
  retired : Nat
  /-- The submissions a signal's completion callback waits for, once it is registered. -/
  callbacks : SignalId → Option Nat
  signals : SignalId → Option Outcome
  scopes : ScopeId → Option ValidationState
  loss : Option String
  nextSignal : SignalId
  nextLease : Lease
  /-- The submission made for a signal, the command buffers passed to the queue, whether
  submitting for a signal unwound, and the loss known when the last poll returned: no
  code reads these. -/
  sent : SignalId → Option Nat
  passed : List CommandBuffer
  unwound : SignalId → Bool
  polledLoss : Option String

namespace Device

def new : Device where
  submitted := 0
  retired := 0
  callbacks _ := none
  signals _ := none
  scopes _ := none
  loss := none
  nextSignal := 0
  nextLease := 0
  sent _ := none
  passed := []
  unwound _ := false
  polledLoss := none

/-- `Notify::finish`: the first outcome stays. -/
def finish (d : Device) (signal : SignalId) (result : Outcome) : Device :=
  match d.signals signal with
  | some _ => d
  | none => { d with signals := Function.update d.signals signal (some result) }

def setScope (d : Device) (scope : ScopeId) (state : ValidationState) : Device :=
  { d with scopes := Function.update d.scopes scope (some state) }

/-- `WorkContext::mark_lost`: the first reason stays. -/
def markLost (d : Device) (reason : String) : Device :=
  match d.loss with
  | some _ => d
  | none => { d with loss := some reason }

/-- `Queue::submit` reaches the driver. -/
def send (d : Device) (signal : SignalId) (commands : List CommandBuffer) : Device :=
  { d with
    submitted := d.submitted + 1
    sent := Function.update d.sent signal (some (d.submitted + 1))
    passed := commands ++ d.passed }

/-- `Queue::on_submitted_work_done` -/
def register (d : Device) (signal : SignalId) : Device :=
  { d with callbacks := Function.update d.callbacks signal (some d.submitted) }

end Device

/-- What goes on beside the queue's owner. -/
inductive EnvAct
  | retire
  | submitElsewhere
  | runCallback (signal : SignalId)
  | dropCallback (signal : SignalId)
  /-- Another holder of a submission polls a scope's future. -/
  | takeFuture (scope : ScopeId)
  | storeAnswer (scope : ScopeId) (answer : FutureAnswer)
  | markLost (reason : String)
  deriving Repr

def EnvAct.apply (d : Device) : EnvAct → Device
  | .retire => if d.retired < d.submitted then { d with retired := d.retired + 1 } else d
  | .submitElsewhere => { d with submitted := d.submitted + 1 }
  | .runCallback signal =>
      match d.callbacks signal with
      | some awaited => if awaited ≤ d.retired then d.finish signal (.ok ()) else d
      | none => d
  | .dropCallback signal =>
      match d.callbacks signal with
      | some _ => d.finish signal (.error .dropped)
      | none => d
  | .takeFuture scope =>
      match d.scopes scope with
      | some ⟨true, none, _⟩ => d.setScope scope ⟨false, none, true⟩
      | _ => d
  | .storeAnswer scope answer =>
      match d.scopes scope with
      | some ⟨_, none, true⟩ => d.setScope scope ⟨answer.outcome.isNone, answer.outcome, false⟩
      | _ => d
  | .markLost reason => d.markLost reason

/-- `Device::poll` -/
inductive PollAnswer
  | queueEmpty
  | waitSucceeded
  | poll
  | failed (error : String)
  | panicked (payload : Payload)
  deriving DecidableEq, Repr

/-- `Queue::submit` and the registration of the callback after it. -/
inductive SubmitAnswer
  | unwindsBefore (payload : Payload)
  | unwindsAfter (payload : Payload)
  | unwindsRegistering (payload : Payload)
  | accepted
  deriving DecidableEq, Repr

/-- What happens up to one look at the device, and the answers of the call that is made
then; `scope` is a panic in pushing or popping the error scopes. -/
structure Moment where
  acts : List EnvAct
  elapsed : Nat
  future : FutureAnswer
  poll : PollAnswer
  submit : SubmitAnswer
  scope : Option Payload

inductive Event
  | built (lease : Lease)
  | aborted (lease : Lease)
  /-- Hooks of one lease of an entry, which has a signal and leases. -/
  | submitted (signal : SignalId) (leases : List Lease) (lease : Lease)
  | completed (signal : SignalId) (leases : List Lease) (lease : Lease) (outcome : Outcome)
  /-- What one collect reads of an entry's scopes and then of its status; `due` when the
  entry has neither committed nor failed. -/
  | looked (signal : SignalId) (leases : List Lease) (due : Bool)
      (validation status : Option Outcome)
  deriving DecidableEq, Repr

/-- The device, and each event with the device as it was then, the newest first. -/
structure World where
  schedule : Nat → Moment
  clock : Nat
  now : Nat
  /-- The last point in time an `Instant` can hold. -/
  lastInstant : Nat
  device : Device
  trace : List (Event × Device)

abbrev Host := StateM World

def tick : Host Moment := fun w =>
  let moment := w.schedule w.clock
  (moment, { w with
    clock := w.clock + 1
    now := w.now + moment.elapsed
    device := moment.acts.foldl EnvAct.apply w.device })

def change (f : Device → Device) : Host Unit := modify fun w => { w with device := f w.device }

def note (event : Event) : Host Unit :=
  modify fun w => { w with trace := (event, w.device) :: w.trace }

end GpuInfo
