import GpuInfo.Interleaving
import GpuInfo.KeyedTable
import GpuInfo.Wait.Device

/-!
The statistics of submissions by their labels, and the notification that settles one
(`submit_to`, `with_stats` and `Notify` in `src/wait.rs`), on any number of threads. Each
critical section of the statistics' lock and of a signal's is one rule, and so is each
reading of the clock. A process makes fewer submissions than a `u64` counts and runs for less
time than a `Duration` holds, so both are plain numbers.
-/

namespace GpuInfo
open Interleaving

/-- The submissions of one label. -/
structure SubmitStats where
  label : String
  count : Nat
  inFlight : Nat
  total : Nat
  max : Nat
  deriving DecidableEq, Repr

namespace SubmitStats

def new (label : String) : SubmitStats := ⟨label, 0, 0, 0, 0⟩

def submitted (entry : SubmitStats) : SubmitStats :=
  { entry with count := entry.count + 1, inFlight := entry.inFlight + 1 }

def resolved (took : Nat) (entry : SubmitStats) : SubmitStats :=
  { entry with
    inFlight := entry.inFlight - 1
    total := entry.total + took
    max := Nat.max entry.max took }

end SubmitStats

/-- Changes a label's statistics, which begin with its first submission. -/
def withStats (label : String) (change : SubmitStats → SubmitStats) :
    List SubmitStats → List SubmitStats :=
  KeyedTable.update SubmitStats.label SubmitStats.new label change

/-- What a completion callback owns; `timed` is a submission's label and when it began. -/
structure Notify where
  signal : SignalId
  timed : Option (String × Nat)
  deriving DecidableEq, Repr

/-- The results a callback is called with: the end of a submission is no error. -/
inductive Notify.Answers : Notify → Outcome → Prop
  | submission {signal : SignalId} (label : String) (submitted : Nat) :
      Answers ⟨signal, some (label, submitted)⟩ (.ok ())
  | mapped {signal : SignalId} : Answers ⟨signal, none⟩ (.ok ())
  | unmapped {signal : SignalId} (error : String) : Answers ⟨signal, none⟩ (.error (.map error))

/-- How far a submission or a map has come. `drops` when what follows is no more than the end
of its notification. -/
inductive NotifyTask
  /-- `submit_to` before it builds the notification, and before and after the driver call. -/
  | counted (label : String) (signal : SignalId)
  | submitting (notify : Notify)
  | submitted (notify : Notify)
  /-- wgpu has the callback. -/
  | registered (notify : Notify)
  /-- `finish` at its start, before the statistics, and before the signal. -/
  | finishing (notify : Notify) (result : Outcome) (drops : Bool)
  | resolving (label : String) (took : Nat) (signal : SignalId) (result : Outcome) (drops : Bool)
  | settling (signal : SignalId) (result : Outcome) (drops : Bool)
  deriving DecidableEq

structure SubmitWorld where
  now : Nat
  stats : List SubmitStats
  signals : SignalId → Option Outcome
  /-- The labels of the submissions started, the times of those resolved and the results
  that were to be recorded, the newest first: no code reads these. -/
  started : List String
  resolved : List (String × Nat)
  offered : List (SignalId × Outcome)

namespace SubmitWorld

def start (s : SubmitWorld) (label : String) : SubmitWorld :=
  { s with
    stats := withStats label SubmitStats.submitted s.stats
    started := label :: s.started }

def resolve (s : SubmitWorld) (label : String) (took : Nat) : SubmitWorld :=
  { s with
    stats := withStats label (SubmitStats.resolved took) s.stats
    resolved := (label, took) :: s.resolved }

/-- The first outcome stays. -/
def settle (s : SubmitWorld) (signal : SignalId) (result : Outcome) : SubmitWorld :=
  { s with
    signals := match s.signals signal with
      | some _ => s.signals
      | none => Function.update s.signals signal (some result)
    offered := (signal, result) :: s.offered }

end SubmitWorld

/-- After `finish` its notification is dropped, which calls `finish` again. -/
def NotifyTask.dropped (signal : SignalId) (drops : Bool) : Multiset NotifyTask :=
  if drops then 0 else {.finishing ⟨signal, none⟩ (.error .dropped) true}

inductive SubmitRule : Rule SubmitWorld NotifyTask
  | pass {s : SubmitWorld} (elapsed : Nat) : SubmitRule s 0 { s with now := s.now + elapsed } 0
  | start {s : SubmitWorld} (label : String) (signal : SignalId) :
      SubmitRule s 0 (s.start label) {.counted label signal}
  | build {s : SubmitWorld} {label : String} {signal : SignalId} :
      SubmitRule s {.counted label signal} s {.submitting ⟨signal, some (label, s.now)⟩}
  /-- The submission unwinds before the driver call, or after it. -/
  | unwindBefore {s : SubmitWorld} {notify : Notify} :
      SubmitRule s {.submitting notify} s {.finishing notify (.error .dropped) true}
  | submit {s : SubmitWorld} {notify : Notify} :
      SubmitRule s {.submitting notify} s {.submitted notify}
  | unwindAfter {s : SubmitWorld} {notify : Notify} :
      SubmitRule s {.submitted notify} s {.finishing notify (.error .dropped) true}
  | register {s : SubmitWorld} {notify : Notify} :
      SubmitRule s {.submitted notify} s {.registered notify}
  /-- `map_read` -/
  | mapAsync {s : SubmitWorld} (signal : SignalId) : SubmitRule s 0 s {.registered ⟨signal, none⟩}
  | runCallback {s : SubmitWorld} {notify : Notify} {result : Outcome} (h : notify.Answers result) :
      SubmitRule s {.registered notify} s {.finishing notify result false}
  /-- The callback is dropped uncalled. -/
  | dropCallback {s : SubmitWorld} {notify : Notify} :
      SubmitRule s {.registered notify} s {.finishing notify (.error .dropped) true}
  | measure {s : SubmitWorld} {signal : SignalId} {label : String} {submitted : Nat}
      {result : Outcome} {drops : Bool} :
      SubmitRule s {.finishing ⟨signal, some (label, submitted)⟩ result drops} s
        {.resolving label (s.now - submitted) signal result drops}
  | untimed {s : SubmitWorld} {signal : SignalId} {result : Outcome} {drops : Bool} :
      SubmitRule s {.finishing ⟨signal, none⟩ result drops} s {.settling signal result drops}
  | resolve {s : SubmitWorld} {label : String} {took : Nat} {signal : SignalId}
      {result : Outcome} {drops : Bool} :
      SubmitRule s {.resolving label took signal result drops} (s.resolve label took)
        {.settling signal result drops}
  | settle {s : SubmitWorld} {signal : SignalId} {result : Outcome} {drops : Bool} :
      SubmitRule s {.settling signal result drops} (s.settle signal result)
        (NotifyTask.dropped signal drops)

abbrev SubmitConfig := Config SubmitWorld NotifyTask

abbrev SubmitStep : SubmitConfig → SubmitConfig → Prop := Step SubmitRule

def SubmitStart (c : SubmitConfig) : Prop := c = ⟨⟨0, [], fun _ => none, [], [], []⟩, 0⟩

end GpuInfo
