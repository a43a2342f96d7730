import GpuInfo.Wait.Submission

/-!
Recorded work and the bounded queue that owns it from submission to retirement
(`src/wait/work.rs`, native targets). The queue is a value that its methods take
and return, as `&mut self` does; its loops over `pending` take the entries one by
one and return those that stay. Hooks neither panic nor call the queue, so a hook
is an event. A work that a method drops runs its `Drop`; one that it returns or
moves into an entry does not. Loops that wait for the device carry fuel and return
no result when it runs out.
-/

namespace GpuInfo

/-- The identity of an adopted device/queue pair. -/
abbrev WorkContext := Nat

structure RecordedWork where
  context : WorkContext
  commands : List CommandBuffer
  leases : List Lease
  validation : List Validation

/-- One hook for each lease, in order. -/
def runHooks (event : Lease → Event) : List Lease → Host Unit
  | [] => pure ()
  | lease :: leases => do
      let _ ← tick
      note (event lease)
      runHooks event leases

namespace RecordedWork

def new (context : WorkContext) (commands : List CommandBuffer) (lease : Lease) :
    Host RecordedWork := do
  note (.built lease)
  pure ⟨context, commands, [lease], []⟩

def drop (work : RecordedWork) : Host Unit := runHooks .aborted work.leases

/-- The operation's panic, if any, is its argument; a panic of the scopes leaves
`record` before a work exists. -/
def record (context : WorkContext) (operation : Except Payload CommandBuffer) (lease : Lease) :
    Host (Except Payload (Except WaitError RecordedWork)) := do
  match ← checked (.recording lease) (pure operation) with
  | .error payload => pure (.error payload)
  | .ok operation => do
      let work ← new context [] lease
      let work := { work with validation := work.validation ++ [operation.validation] }
      match operation.value with
      | .error error => do
          work.drop
          pure (.ok (.error error))
      | .ok command => do
          let work := { work with commands := work.commands ++ [command] }
          match ← Validation.pollAll work.validation with
          | some (.error error) => do
              work.drop
              pure (.ok (.error error))
          | some (.ok ()) | none => pure (.ok (.ok work))

/-- The work afterwards, and the other one if it belongs to a foreign queue. -/
def append (work other : RecordedWork) : RecordedWork × Option RecordedWork :=
  if work.context ≠ other.context then (work, some other)
  else ({ work with
    commands := work.commands ++ other.commands
    leases := work.leases ++ other.leases
    validation := work.validation ++ other.validation }, none)

end RecordedWork

inductive WorkSubmitError
  | busy (work : RecordedWork)
  | queueMismatch (work : RecordedWork)
  | poisoned (work : RecordedWork)
  | poll (error : WaitError) (work : RecordedWork)
  | submitPanicked (message : String)
  | rejected (message : String)

structure PendingWork where
  completion : Submission
  leases : List Lease
  failure : Option WaitError
  recovery : Option Submission
  committed : Bool

def scopesSettled : Option Validation → Host Bool
  | some validation => do
      let status ← validation.poll
      pure status.isSome
  | none => pure true

namespace PendingWork
variable (entry : PendingWork)

def activeSubmission : Submission := entry.recovery.getD entry.completion

/-- Both are polled whatever the first one answers. -/
def validationsSettled : Host Bool := do
  let completion ← scopesSettled entry.completion.validation
  let recovery ← scopesSettled (entry.recovery.bind (·.validation))
  pure (completion && recovery)

def submitted : Host PendingWork := do
  runHooks (.submitted entry.completion.signal entry.leases) entry.leases
  pure { entry with committed := true }

def finish (outcome : Outcome) : Host Unit :=
  runHooks (.completed entry.completion.signal entry.leases · outcome) entry.leases

/-- `WorkQueue::recover` of this entry -/
def recover : Host PendingWork := do
  let fence ← newSignal
  match ← submitChecked fence [] with
  | .error _ => pure entry
  | .ok ⟨.ok submission, validation⟩ =>
      pure { entry with recovery := some { submission with validation := some validation } }
  | .ok ⟨.error _, validation⟩ => do
      let observer ← Submission.pending
      pure { entry with recovery := some { observer with validation := some validation } }

/-- The commit at the head of a `collect` iteration. -/
def commit (validation : Option Outcome) : Host PendingWork :=
  match entry.committed, entry.failure, validation with
  | false, none, some (.ok ()) => entry.submitted
  | _, _, _ => pure entry

/-- The first failure is kept; unless the queue is empty a fence has to prove retirement. -/
def noteFailure (queueEmpty : Bool) (status : Option Outcome) : Host PendingWork :=
  match entry.failure, status with
  | none, some (.error error) =>
      let entry := { entry with failure := some error }
      if queueEmpty then pure entry else entry.recover
  | _, _ => pure entry

def retired (queueEmpty : Bool) : Host Bool := do
  if !(← entry.validationsSettled) then pure false
  else if queueEmpty then pure true
  else match entry.recovery with
    | some recovery => do
        match ← recovery.status with
        | some (.ok ()) => pure true
        | some (.error _) | none => pure false
    | none => pure false

def recovered (retired : Bool) : Host Bool :=
  match retired, entry.failure, entry.completion.validation with
  | true, some .dropped, some validation => do
      match ← lossReason with
      | some _ => pure false
      | none =>
          match ← validation.poll with
          | some (.ok ()) => pure true
          | some (.error _) | none => pure false
  | true, some .dropped, none => do
      let _ ← lossReason
      pure false
  | _, _, _ => pure false

def outcome (retired recovered : Bool) (status : Option Outcome) : Option Outcome :=
  match entry.failure with
  | some error =>
      if recovered then some (.ok ()) else if retired then some (.error error) else none
  | none => status

/-- The commit of an entry whose failure is forgiven. -/
def commitRecovered (recovered : Bool) : Host PendingWork :=
  if recovered && !entry.committed then entry.submitted else pure entry

/-- One iteration of the loop of `collect`, up to the removal of the entry. -/
def settle (queueEmpty : Bool) : Host (PendingWork × Option Outcome) := do
  let validation ← entry.completion.validationStatus
  let due := !entry.committed && entry.failure.isNone
  let entry ← entry.commit validation
  let status ← entry.completion.status
  note (.looked entry.completion.signal entry.leases due validation status)
  let entry ← entry.noteFailure queueEmpty status
  let retired ← entry.retired queueEmpty
  let recovered ← entry.recovered retired
  let entry ← entry.commitRecovered recovered
  pure (entry, entry.outcome retired recovered status)

end PendingWork

structure WorkQueue where
  context : WorkContext
  pending : List PendingWork
  capacity : Nat
  poisoned : Bool
  pollFault : Option WaitError

/-- What the loop of `collect` has counted so far. -/
structure Collected where
  completed : Nat
  failure : Option WaitError

def Collected.add (collected : Collected) (outcome : Outcome) : Collected :=
  match outcome with
  | .ok () => { collected with completed := collected.completed + 1 }
  | .error error => ⟨collected.completed + 1, collected.failure <|> some error⟩

namespace WorkQueue

def new (context : WorkContext) (capacity : Nat) : WorkQueue := ⟨context, [], capacity, false, none⟩

def finishAll (outcome : Outcome) : List PendingWork → Host Unit
  | [] => pure ()
  | entry :: entries => do
      entry.finish outcome
      finishAll outcome entries

def terminalLoss (queue : WorkQueue) : Host (WorkQueue × Option WaitError) := do
  match ← lossReason with
  | none => pure (queue, none)
  | some reason => do
      finishAll (.error (.deviceLost reason)) queue.pending
      pure ({ queue with pending := [], poisoned := true }, some (.deviceLost reason))

/-- The loop of `collect`; each turn steps past an entry or removes it. -/
def collectPending (queueEmpty : Bool) :
    List PendingWork → Collected → Host (List PendingWork × Collected)
  | [], collected => pure ([], collected)
  | entry :: entries, collected => do
      let (entry, outcome) ← entry.settle queueEmpty
      match outcome with
      | some outcome => do
          entry.finish outcome
          collectPending queueEmpty entries (collected.add outcome)
      | none => do
          let (kept, collected) ← collectPending queueEmpty entries collected
          pure (entry :: kept, collected)

def collectPolled (queue : WorkQueue) (polled : Except WaitError PollStatus) :
    Host (WorkQueue × Except WaitError Nat) :=
  match polled with
  | .error (.pollPanicked message) =>
      pure ({ queue with pollFault := some (.pollPanicked message), poisoned := true },
        .error (.pollPanicked message))
  | .error error => pure (queue, .error error)
  | .ok status => do
      let (pending, collected) ← collectPending (status == .queueEmpty) queue.pending ⟨0, none⟩
      let queue := { queue with pending, poisoned := pending.any (·.failure.isSome) }
      pure (queue, match collected.failure with
        | none => .ok collected.completed
        | some error => .error error)

def collect (queue : WorkQueue) : Host (WorkQueue × Except WaitError Nat) := do
  match ← queue.terminalLoss with
  | (queue, some error) => pure (queue, .error error)
  | (queue, none) =>
      match queue.pollFault with
      | some error => pure (queue, .error error)
      | none => do
          let polled ← poll
          match ← queue.terminalLoss with
          | (queue, some error) => pure (queue, .error error)
          | (queue, none) => queue.collectPolled polled

/-- `submit_checked` for an observer, under `catch_unwind`: its scope, if it has one,
and its result. -/
def submitFor (observer : Submission) (commands : List CommandBuffer) :
    Host (List Validation × Except WaitError Submission) := do
  match ← submitChecked observer.signal commands with
  | .ok operation => pure ([operation.validation], operation.value)
  | .error payload => pure ([], .error (.submitPanicked (panicMessage payload)))

/-- The end of `try_submit` for an entry that failed. -/
def retainFailed (queue : WorkQueue) (entry : PendingWork) (error : WaitError)
    (rejection : WorkSubmitError) : Host (WorkQueue × Except WorkSubmitError Submission) := do
  let entry ← PendingWork.recover { entry with failure := some error }
  pure ({ queue with pending := queue.pending ++ [entry], poisoned := true }, .error rejection)

/-- `try_submit` once the work is accepted: `observer` is its signal, and `work` still
has its commands and scopes. -/
def submitOwned (queue : WorkQueue) (observer : Submission) (work : RecordedWork) :
    Host (WorkQueue × Except WorkSubmitError Submission) := do
  let (scope, result) ← submitFor observer work.commands
  let submission := match result with
    | .ok submission => submission
    | .error _ => observer
  let submission := { submission with validation := some (.all (work.validation ++ scope)) }
  let entry : PendingWork := ⟨submission, work.leases, none, none, false⟩
  match result with
  | .ok _ => do
      match ← submission.validationStatus with
      | some (.ok ()) => do
          let entry ← entry.submitted
          pure ({ queue with pending := queue.pending ++ [entry] }, .ok submission)
      | some (.error error) => queue.retainFailed entry error (.rejected error.toString)
      | none => pure ({ queue with pending := queue.pending ++ [entry] }, .ok submission)
  | .error (.submitPanicked message) =>
      queue.retainFailed entry (.submitPanicked message) (.submitPanicked message)
  | .error error => queue.retainFailed entry error (.submitPanicked error.toString)

def trySubmit (queue : WorkQueue) (work : RecordedWork) :
    Host (WorkQueue × Except WorkSubmitError Submission) := do
  if work.context ≠ queue.context then pure (queue, .error (.queueMismatch work))
  else
    match ← queue.collect with
    | (queue, .error error) => pure (queue, .error (.poll error work))
    | (queue, .ok _) =>
        if queue.poisoned then pure (queue, .error (.poisoned work))
        else if queue.pending.length = queue.capacity then pure (queue, .error (.busy work))
        else do
          let observer ← Submission.pending
          match ← Validation.pollAll work.validation with
          | some (.error error) => do
              work.drop
              pure (queue, .error (.rejected error.toString))
          | some (.ok ()) | none => queue.submitOwned observer work

/-- A wait on the condition variable of the oldest entry; how long it lasts is up to
the schedule. -/
def waitSlice (queue : WorkQueue) : Host Unit :=
  match queue.pending with
  | [] => pure ()
  | entry :: _ => do
      let settled ← entry.validationsSettled
      let guard ← entry.activeSubmission.observe
      if guard.isNone || !settled || entry.failure.isSome then do
        let _ ← tick
      else pure ()

def pause (queue : WorkQueue) : Host Unit := queue.waitSlice

/-- What follows a collect in the loops of `shutdown` and of `Drop`. -/
def pauseIfPending (queue : WorkQueue) : Host Unit :=
  if queue.pending.isEmpty then pure () else queue.pause

def instant : Host Nat := do
  let _ ← tick
  pure (← get).now

/-- What is left of `timeout` since `start`; `none` once the deadline has passed. -/
def remaining (start timeout : Nat) : Host (Option Nat) := do
  let now ← instant
  let last := (← get).lastInstant
  if start + timeout ≤ last then
    if start + timeout ≤ now then pure none else pure (some (start + timeout - now))
  else pure (some (timeout - (now - start)))

def waitLoop (maxPending start timeout : Nat) :
    Nat → WorkQueue → Nat → Host (WorkQueue × Option (Except WaitError Nat))
  | 0, queue, _ => pure (queue, none)
  | fuel + 1, queue, total => do
      if queue.pending.length ≤ maxPending || queue.poisoned then pure (queue, some (.ok total))
      else
        match ← remaining start timeout with
        | none | some 0 => pure (queue, some (.ok total))
        | some (_ + 1) => do
            queue.waitSlice
            match ← queue.collect with
            | (queue, .error error) => pure (queue, some (.error error))
            | (queue, .ok completed) =>
                waitLoop maxPending start timeout fuel queue (total + completed)

def waitForSlots (queue : WorkQueue) (needed timeout fuel : Nat) :
    Host (WorkQueue × Option (Except WaitError Nat)) := do
  let maxPending := queue.capacity - max 1 (min needed queue.capacity)
  match ← queue.collect with
  | (queue, .error error) => pure (queue, some (.error error))
  | (queue, .ok total) =>
      if queue.pending.length ≤ maxPending || queue.poisoned || timeout == 0 then
        pure (queue, some (.ok total))
      else do
        let start ← instant
        waitLoop maxPending start timeout fuel queue total

def WaitError.polling : WaitError → Bool
  | .poll _ | .pollPanicked _ => true
  | _ => false

/-- `shutdown`, with the first failure it has seen so far. -/
def shutdownLoop : Nat → WorkQueue → Option WaitError →
    Host (WorkQueue × Option (Except WaitError Unit))
  | 0, queue, _ => pure (queue, none)
  | fuel + 1, queue, failure =>
      if queue.pending.isEmpty then
        pure (queue, some (match failure with
          | none => .ok ()
          | some error => .error error))
      else do
        let (queue, collected) ← queue.collect
        match collected with
        | .ok _ => do
            queue.pauseIfPending
            shutdownLoop fuel queue failure
        | .error error =>
            if !queue.pending.isEmpty && WaitError.polling error then
              pure (queue, some (.error error))
            else do
              queue.pauseIfPending
              shutdownLoop fuel queue (failure <|> some error)

def shutdown (queue : WorkQueue) (fuel : Nat) : Host (WorkQueue × Option (Except WaitError Unit)) :=
  shutdownLoop fuel queue none

/-- `Drop`: `shutdown` again and again until nothing is pending. -/
def drop : Nat → WorkQueue → Host WorkQueue
  | 0, queue => pure queue
  | fuel + 1, queue =>
      if queue.pending.isEmpty then pure queue
      else do
        let (queue, result) ← queue.shutdown fuel
        match result with
        | some (.error _) => do
            queue.pauseIfPending
            drop fuel queue
        | some (.ok _) | none => drop fuel queue

end WorkQueue

/-- A queue and the works its callers hold. -/
structure Client where
  queue : WorkQueue
  works : List RecordedWork

/-- A call; works are named by their position. -/
inductive Call
  | new (context : WorkContext) (commands : Nat)
  | record (context : WorkContext) (panic : Option Payload)
  | append (into other : Nat)
  | dropWork (work : Nat)
  | trySubmit (work : Nat)
  | collect
  | waitForSlots (needed timeout fuel : Nat)
  | shutdown (fuel : Nat)
  | dropQueue (fuel : Nat)

def newLease : Host Lease := do
  let w ← get
  change fun d => { d with nextLease := d.nextLease + 1 }
  pure w.device.nextLease

/-- What the operation of a recording returns. -/
def encoding (lease : Lease) (panic : Option Payload) : Except Payload CommandBuffer :=
  match panic with
  | none => .ok ⟨lease, 0⟩
  | some payload => .error payload

def WorkSubmitError.returned : WorkSubmitError → List RecordedWork
  | .busy work | .queueMismatch work | .poisoned work | .poll _ work => [work]
  | .submitPanicked _ | .rejected _ => []

namespace Client

def call (client : Client) : Call → Host Client
  | .new context commands => do
      let lease ← newLease
      let work ← RecordedWork.new context ((List.range commands).map (⟨lease, ·⟩)) lease
      pure { client with works := work :: client.works }
  | .record context panic => do
      let lease ← newLease
      match ← RecordedWork.record context (encoding lease panic) lease with
      | .ok (.ok work) => pure { client with works := work :: client.works }
      | .ok (.error _) | .error _ => pure client
  | .append into other =>
      match client.works[into]?, (client.works.eraseIdx into)[other]? with
      | some work, some appended =>
          let rest := (client.works.eraseIdx into).eraseIdx other
          let (work, refused) := work.append appended
          pure { client with works := work :: refused.toList ++ rest }
      | _, _ => pure client
  | .dropWork index =>
      match client.works[index]? with
      | some work => do
          work.drop
          pure { client with works := client.works.eraseIdx index }
      | none => pure client
  | .trySubmit index =>
      match client.works[index]? with
      | some work => do
          let (queue, result) ← client.queue.trySubmit work
          let returned := match result with
            | .ok _ => []
            | .error error => error.returned
          pure ⟨queue, returned ++ client.works.eraseIdx index⟩
      | none => pure client
  | .collect => do
      let (queue, _) ← client.queue.collect
      pure { client with queue }
  | .waitForSlots needed timeout fuel => do
      let (queue, _) ← client.queue.waitForSlots needed timeout fuel
      pure { client with queue }
  | .shutdown fuel => do
      let (queue, _) ← client.queue.shutdown fuel
      pure { client with queue }
  | .dropQueue fuel => do
      let queue ← client.queue.drop fuel
      pure { client with queue }

def run (client : Client) : List Call → Host Client
  | [] => pure client
  | next :: calls => do
      let client ← client.call next
      client.run calls

end Client

/-- A queue and its callers from the start, under any schedule. -/
def runQueue (schedule : Nat → Moment) (lastInstant : Nat) (context : WorkContext)
    (capacity : Nat) (calls : List Call) : Client × World :=
  Client.run ⟨.new context capacity, []⟩ calls ⟨schedule, 0, 0, lastInstant, .new, []⟩

end GpuInfo
