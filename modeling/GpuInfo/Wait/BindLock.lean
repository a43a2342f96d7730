import GpuInfo.Wait.ScopePolling

/-!
Submitting and waiting on any number of queues and threads (`submit`, `wait`, `wait_idle`,
`map_read`, `submit_to` and `block` in `src/wait.rs`): which submission a completion callback
waits for, and what a wait that ends well has waited for. Submissions of other code, which take
no lock, come in between at any moment. What wgpu guarantees is in the rules: work on one queue
retires in order, and a callback runs once everything submitted to its queue before its
registration has retired. A wait on a submission that owns error scopes polls these first, as
anybody else may at the same time; the statistics of the submissions are left out.
-/

namespace GpuInfo
open Interleaving

abbrev QueueId := Nat

/-- Whose submission it is. -/
inductive Origin
  | own (signal : SignalId)
  | foreign
  deriving DecidableEq, Repr

/-- How far a queue must have come. -/
structure Mark where
  queue : QueueId
  made : Nat
  deriving DecidableEq, Repr

/-- A call of `submit_to`, of `wait_idle` if `idle`, and how many submissions its queue had
when it began, which no code reads. -/
structure SubmitCall where
  queue : QueueId
  signal : SignalId
  idle : Bool
  before : Nat
  deriving DecidableEq, Repr

/-- A registered callback, which runs once its queue has come to the mark. -/
structure Callback where
  signal : SignalId
  mark : Mark
  submission : Bool
  deriving DecidableEq, Repr

/-- A thread in `block`, and what `wait_idle` calls it for, which is no part of it. -/
structure Blocked where
  signal : SignalId
  validation : Option Validation
  idle : Option Mark

inductive WaitTask
  /-- `submit_to` before it has the lock `BIND`, with it, after the submission, and after the
  registration. -/
  | entering (call : SubmitCall)
  | bound (call : SubmitCall)
  | submitted (call : SubmitCall)
  | leaving (call : SubmitCall)
  /-- wgpu has the callback, or it has been called or dropped. -/
  | registered (callback : Callback)
  | finishing (signal : SignalId) (result : Outcome)
  /-- A poll of error scopes: that of a wait, or of `Submission::status`. -/
  | observing (o : Observer) (waits : Option Blocked)
  /-- `block` at the head of its loop, past the error scopes, before its poll of the device, and
  after it. -/
  | looking (blocked : Blocked)
  | checking (blocked : Blocked)
  | polling (blocked : Blocked)
  | sleeping (blocked : Blocked)

/-- What a wait came to. -/
structure Waited where
  blocked : Blocked
  result : Outcome

structure WaitWorld where
  /-- `BIND` is locked. -/
  bind : Bool
  /-- The submissions of a queue, in their order, and how many of them have retired. -/
  made : QueueId → List Origin
  retired : QueueId → Nat
  signals : SignalId → Option Outcome
  scopes : Scopes
  nextSignal : SignalId
  /-- The mark of the submission or the map of a signal, and what the waits have come to: no
  code reads these. -/
  awaits : SignalId → Option Mark
  waited : List Waited

namespace WaitWorld

def setBind (w : WaitWorld) (bind : Bool) : WaitWorld := { w with bind := bind }

def fresh (w : WaitWorld) : WaitWorld := { w with nextSignal := w.nextSignal + 1 }

def submit (w : WaitWorld) (queue : QueueId) (origin : Origin) : WaitWorld :=
  { w with made := Function.update w.made queue (w.made queue ++ [origin]) }

/-- Where a queue is now. -/
def now (w : WaitWorld) (queue : QueueId) : Mark := ⟨queue, (w.made queue).length⟩

def await (w : WaitWorld) (signal : SignalId) (mark : Mark) : WaitWorld :=
  { w with awaits := Function.update w.awaits signal (some mark) }

/-- The submission of a call. -/
def send (w : WaitWorld) (call : SubmitCall) : WaitWorld :=
  (w.submit call.queue (.own call.signal)).await call.signal
    ⟨call.queue, (w.made call.queue).length + 1⟩

def retire (w : WaitWorld) (queue : QueueId) : WaitWorld :=
  { w with retired := Function.update w.retired queue (w.retired queue + 1) }

/-- The first outcome stays. -/
def settle (w : WaitWorld) (signal : SignalId) (result : Outcome) : WaitWorld :=
  match w.signals signal with
  | some _ => w
  | none => { w with signals := Function.update w.signals signal (some result) }

def finish (w : WaitWorld) (o : Observer) (answer : Option Outcome) : WaitWorld :=
  { w with scopes := w.scopes.finish o answer }

def wait (w : WaitWorld) (blocked : Blocked) (result : Outcome) : WaitWorld :=
  { w with waited := ⟨blocked, result⟩ :: w.waited }

def Reached (w : WaitWorld) (mark : Mark) : Prop := mark.made ≤ w.retired mark.queue

end WaitWorld

/-- `wait_idle` waits for its own submission, and so for what was there when it was called. -/
def SubmitCall.waits (call : SubmitCall) : Multiset WaitTask :=
  if call.idle then {.looking ⟨call.signal, none, some ⟨call.queue, call.before⟩⟩} else 0

def SubmitCall.unwound (call : SubmitCall) : SubmitCall := { call with idle := false }

/-- What a callback may be called with. -/
inductive Callback.Answers (w : WaitWorld) : Callback → Outcome → Prop
  | retired {callback : Callback} (h : w.Reached callback.mark) : Answers w callback (.ok ())
  | unmapped {signal : SignalId} {mark : Mark} (error : String) :
      Answers w ⟨signal, mark, false⟩ (.error (.map error))

/-- A failure of `poll`. -/
inductive WaitError.OfPoll : WaitError → Prop
  | failed (error : String) : OfPoll (.poll error)
  | panicked (message : String) : OfPoll (.pollPanicked message)

inductive WaitRule : Rule WaitWorld WaitTask
  | foreign {w : WaitWorld} (queue : QueueId) : WaitRule w 0 (w.submit queue .foreign) 0
  | retire {w : WaitWorld} {queue : QueueId} (h : w.retired queue < (w.made queue).length) :
      WaitRule w 0 (w.retire queue) 0
  | call {w : WaitWorld} (queue : QueueId) (idle : Bool) : WaitRule w 0 w.fresh
      {.entering ⟨queue, w.nextSignal, idle, (w.made queue).length⟩}
  | lock {w : WaitWorld} {call : SubmitCall} (free : w.bind = false) :
      WaitRule w {.entering call} (w.setBind true) {.bound call}
  | submit {w : WaitWorld} {call : SubmitCall} :
      WaitRule w {.bound call} (w.send call) {.submitted call}
  | register {w : WaitWorld} {call : SubmitCall} :
      WaitRule w {.submitted call} w
        {.leaving call, .registered ⟨call.signal, w.now call.queue, true⟩}
  /-- wgpu unwinds, before or after it has made the submission or while it registers the
  callback: the lock and the notification are dropped. -/
  | unwindBefore {w : WaitWorld} {call : SubmitCall} :
      WaitRule w {.bound call} w
        {.leaving call.unwound, .finishing call.signal (.error .dropped)}
  | unwindAfter {w : WaitWorld} {call : SubmitCall} :
      WaitRule w {.submitted call} w
        {.leaving call.unwound, .finishing call.signal (.error .dropped)}
  | unlock {w : WaitWorld} {call : SubmitCall} :
      WaitRule w {.leaving call} (w.setBind false) call.waits
  /-- `map_read`; what the last submission that uses the buffer is, wgpu knows. -/
  | map {w : WaitWorld} {mark : Mark} (h : mark.made ≤ (w.made mark.queue).length) :
      WaitRule w 0 (w.fresh.await w.nextSignal mark)
        {.registered ⟨w.nextSignal, mark, false⟩, .looking ⟨w.nextSignal, none, none⟩}
  | run {w : WaitWorld} {callback : Callback} {result : Outcome}
      (h : callback.Answers w result) :
      WaitRule w {.registered callback} w {.finishing callback.signal result}
  | drop {w : WaitWorld} {callback : Callback} :
      WaitRule w {.registered callback} w {.finishing callback.signal (.error .dropped)}
  | settle {w : WaitWorld} {signal : SignalId} {result : Outcome} :
      WaitRule w {.finishing signal result} (w.settle signal result) 0
  | observe {w : WaitWorld} (tree : Validation) :
      WaitRule w 0 w {.observing (w.scopes.observer tree) none}
  | scopes {w : WaitWorld} {s : Scopes} {o o' : Observer} {waits : Option Blocked}
      (h : PollRule w.scopes {o} s {o'}) :
      WaitRule w {.observing o waits} { w with scopes := s } {.observing o' waits}
  | observed {w : WaitWorld} {o : Observer} {answer : Option Outcome}
      (h : o.phase = .running (.done answer)) :
      WaitRule w {.observing o none} (w.finish o answer) 0
  /-- `wait` -/
  | wait {w : WaitWorld} (signal : SignalId) (validation : Option Validation) :
      WaitRule w 0 w {.looking ⟨signal, validation, none⟩}
  | plain {w : WaitWorld} {blocked : Blocked} (h : blocked.validation = none) :
      WaitRule w {.looking blocked} w {.checking blocked}
  | validates {w : WaitWorld} {blocked : Blocked} {tree : Validation}
      (h : blocked.validation = some tree) :
      WaitRule w {.looking blocked} w {.observing (w.scopes.observer tree) (some blocked)}
  | undecided {w : WaitWorld} {o : Observer} {blocked : Blocked}
      (h : o.phase = .running (.done none)) :
      WaitRule w {.observing o (some blocked)} (w.finish o none) {.polling blocked}
  | rejected {w : WaitWorld} {o : Observer} {blocked : Blocked} {error : WaitError}
      (h : o.phase = .running (.done (some (.error error)))) :
      WaitRule w {.observing o (some blocked)}
        ((w.finish o (some (.error error))).wait blocked (.error error)) 0
  | accepted {w : WaitWorld} {o : Observer} {blocked : Blocked}
      (h : o.phase = .running (.done (some (.ok ())))) :
      WaitRule w {.observing o (some blocked)} (w.finish o (some (.ok ()))) {.checking blocked}
  | found {w : WaitWorld} {blocked : Blocked} {result : Outcome}
      (h : w.signals blocked.signal = some result) :
      WaitRule w {.checking blocked} (w.wait blocked result) 0
  | unsettled {w : WaitWorld} {blocked : Blocked} (h : w.signals blocked.signal = none) :
      WaitRule w {.checking blocked} w {.polling blocked}
  | poll {w : WaitWorld} {blocked : Blocked} : WaitRule w {.polling blocked} w {.sleeping blocked}
  | pollFails {w : WaitWorld} {blocked : Blocked} {error : WaitError} (h : error.OfPoll) :
      WaitRule w {.polling blocked} (w.wait blocked (.error error)) 0
  /-- It is woken, the time is over, or there was no reason to sleep. -/
  | wake {w : WaitWorld} {blocked : Blocked} : WaitRule w {.sleeping blocked} w {.looking blocked}

abbrev WaitConfig := Config WaitWorld WaitTask

abbrev WaitStep : WaitConfig → WaitConfig → Prop := Step WaitRule

def WaitStart (c : WaitConfig) : Prop :=
  c = ⟨⟨false, fun _ => [], fun _ => 0, fun _ => none, .new, 0, fun _ => none, []⟩, 0⟩

end GpuInfo
