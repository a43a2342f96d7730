import GpuInfo.Wait.Device

/-!
Checked operations, submissions and what is known of them (`src/wait.rs`). A panic
that leaves a function is an error of its result. Every mutex-protected read and
every call out is one look at the device, with a `tick` before it.
-/

namespace GpuInfo

/-- `Arc<Validation>`: a future is known by the scopes it came from. -/
inductive Validation
  | future (scope : ScopeId)
  | all (parts : List Validation)

/-- `Validation::poll` of a `Future`: taken out, polled outside the mutex, put back. -/
def pollFuture (scope : ScopeId) : Host (Option Outcome) := do
  let _ ← tick
  match (← get).device.scopes scope with
  | some ⟨_, some outcome, _⟩ => pure (some outcome)
  | some ⟨true, none, _⟩ => do
      change (·.setScope scope ⟨false, none, false⟩)
      let moment ← tick
      let outcome := moment.future.outcome
      change (·.setScope scope ⟨outcome.isNone, outcome, false⟩)
      pure outcome
  | some ⟨false, none, _⟩ | none => pure none

/-- What the loop of `Validation::poll_all` has found so far. -/
structure PollTally where
  pending : Bool
  failure : Option WaitError

def PollTally.add (tally : PollTally) : Option Outcome → PollTally
  | none => { tally with pending := true }
  | some (.error error) => { tally with failure := tally.failure <|> some error }
  | some (.ok ()) => tally

def PollTally.outcome (tally : PollTally) : Option Outcome :=
  if tally.pending then none
  else some (match tally.failure with
    | none => .ok ()
    | some error => .error error)

mutual

def Validation.poll : Validation → Host (Option Outcome)
  | .future scope => pollFuture scope
  | .all parts => do
      let tally ← Validation.pollParts parts ⟨false, none⟩
      pure tally.outcome

def Validation.pollParts : List Validation → PollTally → Host PollTally
  | [], tally => pure tally
  | part :: parts, tally => do
      let polled ← part.poll
      Validation.pollParts parts (tally.add polled)

end

def Validation.pollAll (parts : List Validation) : Host (Option Outcome) :=
  (Validation.all parts).poll

structure Submission where
  signal : SignalId
  validation : Option Validation

/-- A fresh `Arc<Signal>`. -/
def newSignal : Host SignalId := do
  let w ← get
  change fun d => { d with nextSignal := d.nextSignal + 1 }
  pure w.device.nextSignal

namespace Submission

def pending : Host Submission := do
  let signal ← newSignal
  pure ⟨signal, none⟩

def validationStatus (submission : Submission) : Host (Option Outcome) :=
  match submission.validation with
  | some validation => validation.poll
  | none => pure none

/-- The signal alone, read under its lock. -/
def observe (submission : Submission) : Host (Option Outcome) := do
  let _ ← tick
  pure ((← get).device.signals submission.signal)

def status (submission : Submission) : Host (Option Outcome) :=
  match submission.validation with
  | some validation => do
      match ← validation.poll with
      | none => pure none
      | some (.error error) => pure (some (.error error))
      | some (.ok ()) => submission.observe
  | none => submission.observe

end Submission

structure Checked (α : Type) where
  value : Except WaitError α
  validation : Validation

/-- `checked`; pushing and popping the scopes may panic themselves. -/
def checked {α : Type} (scope : ScopeId) (operation : Host (Except Payload α)) :
    Host (Except Payload (Checked α)) := do
  match (← tick).scope with
  | some payload => pure (.error payload)
  | none => do
      let value ← operation
      match (← tick).scope with
      | some payload => pure (.error payload)
      | none => do
          change (·.setScope scope ⟨true, none, false⟩)
          pure (.ok ⟨value.mapError fun payload => .submitPanicked (panicMessage payload),
            .future scope⟩)

/-- `submit_to`; a panic drops the callback's `Notify`. -/
def submitTo (signal : SignalId) (commands : List CommandBuffer) :
    Host (Except Payload Submission) := do
  match (← tick).submit with
  | .unwindsBefore payload => do
      change (·.finish signal (.error .dropped))
      pure (.error payload)
  | .unwindsAfter payload => do
      change fun d => (d.send signal commands).finish signal (.error .dropped)
      pure (.error payload)
  | .unwindsRegistering payload => do
      change (·.send signal commands)
      let _ ← tick
      change (·.finish signal (.error .dropped))
      pure (.error payload)
  | .accepted => do
      change (·.send signal commands)
      let _ ← tick
      change (·.register signal)
      pure (.ok ⟨signal, none⟩)

/-- `submit_checked` under the `catch_unwind` that both of its callers put around it. -/
def submitChecked (signal : SignalId) (commands : List CommandBuffer) :
    Host (Except Payload (Checked Submission)) := do
  let operation ← checked (.submission signal) (submitTo signal commands)
  match operation with
  | .ok ⟨.ok submission, validation⟩ => pure (.ok ⟨.ok submission, validation⟩)
  | unwound => do
      change fun d => { d with unwound := Function.update d.unwound signal true }
      pure unwound

inductive PollStatus
  | queueEmpty
  | waitSucceeded
  | poll
  deriving DecidableEq, Repr

def poll : Host (Except WaitError PollStatus) := do
  let moment ← tick
  change fun d => { d with polledLoss := d.loss }
  let d := (← get).device
  pure (match moment.poll with
    | .queueEmpty => .ok (if d.retired = d.submitted then .queueEmpty else .poll)
    | .waitSucceeded => .ok .waitSucceeded
    | .poll => .ok .poll
    | .failed error => .error (.poll error)
    | .panicked payload => .error (.pollPanicked (panicMessage payload)))

/-- `WorkContext::loss_reason` -/
def lossReason : Host (Option String) := do
  let _ ← tick
  pure (← get).device.loss

end GpuInfo
