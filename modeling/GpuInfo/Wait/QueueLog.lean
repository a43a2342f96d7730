import GpuInfo.Wait.WorkQueue

/-!
The calls of a queue with a log of what happened inside them: what each collect returned
and which entries were pushed. A logged call does what the call itself does; the theorems
at the end say so.
-/

namespace GpuInfo

/-- What the collects returned, and the signals of the entries pushed, both in order. -/
structure QueueLog where
  collects : List (Except WaitError Nat)
  pushed : List SignalId

namespace QueueLog

def empty : QueueLog := ⟨[], []⟩

def collected (result : Except WaitError Nat) : QueueLog := ⟨[result], []⟩

def add (log more : QueueLog) : QueueLog :=
  ⟨log.collects ++ more.collects, log.pushed ++ more.pushed⟩

end QueueLog

namespace WorkQueue

def collectLogged (queue : WorkQueue) : Host ((WorkQueue × Except WaitError Nat) × QueueLog) := do
  let result ← queue.collect
  pure (result, .collected result.2)

/-- `try_submit` once its collect has succeeded. -/
def submitCollected (queue : WorkQueue) (work : RecordedWork) :
    Host (WorkQueue × Except WorkSubmitError Submission) :=
  if queue.poisoned then pure (queue, .error (.poisoned work))
  else if queue.pending.length = queue.capacity then pure (queue, .error (.busy work))
  else do
    let observer ← Submission.pending
    match ← Validation.pollAll work.validation with
    | some (.error error) => do
        work.drop
        pure (queue, .error (.rejected error.toString))
    | some (.ok ()) | none => queue.submitOwned observer work

def trySubmitLogged (queue : WorkQueue) (work : RecordedWork) :
    Host ((WorkQueue × Except WorkSubmitError Submission) × QueueLog) := do
  if work.context ≠ queue.context then pure ((queue, .error (.queueMismatch work)), .empty)
  else
    match ← queue.collect with
    | (queue, .error error) =>
        pure ((queue, .error (.poll error work)), .collected (.error error))
    | (queue, .ok completed) => do
        let result ← queue.submitCollected work
        pure (result, ⟨[.ok completed],
          (result.1.pending.drop queue.pending.length).map (·.completion.signal)⟩)

def waitLoopLogged (maxPending start timeout : Nat) :
    Nat → WorkQueue → Nat → Host ((WorkQueue × Option (Except WaitError Nat)) × QueueLog)
  | 0, queue, _ => pure ((queue, none), .empty)
  | fuel + 1, queue, total => do
      if queue.pending.length ≤ maxPending || queue.poisoned then
        pure ((queue, some (.ok total)), .empty)
      else
        match ← remaining start timeout with
        | none | some 0 => pure ((queue, some (.ok total)), .empty)
        | some (_ + 1) => do
            queue.waitSlice
            match ← queue.collect with
            | (queue, .error error) =>
                pure ((queue, some (.error error)), .collected (.error error))
            | (queue, .ok completed) => do
                let (result, log) ←
                  waitLoopLogged maxPending start timeout fuel queue (total + completed)
                pure (result, (QueueLog.collected (.ok completed)).add log)

def waitForSlotsLogged (queue : WorkQueue) (needed timeout fuel : Nat) :
    Host ((WorkQueue × Option (Except WaitError Nat)) × QueueLog) := do
  let maxPending := queue.capacity - max 1 (min needed queue.capacity)
  match ← queue.collect with
  | (queue, .error error) => pure ((queue, some (.error error)), .collected (.error error))
  | (queue, .ok total) =>
      if queue.pending.length ≤ maxPending || queue.poisoned || timeout == 0 then
        pure ((queue, some (.ok total)), .collected (.ok total))
      else do
        let start ← instant
        let (result, log) ← waitLoopLogged maxPending start timeout fuel queue total
        pure (result, (QueueLog.collected (.ok total)).add log)

def shutdownLoopLogged : Nat → WorkQueue → Option WaitError →
    Host ((WorkQueue × Option (Except WaitError Unit)) × QueueLog)
  | 0, queue, _ => pure ((queue, none), .empty)
  | fuel + 1, queue, failure =>
      if queue.pending.isEmpty then
        pure ((queue, some (match failure with
          | none => .ok ()
          | some error => .error error)), .empty)
      else do
        let (queue, collected) ← queue.collect
        match collected with
        | .ok completed => do
            queue.pauseIfPending
            let (result, log) ← shutdownLoopLogged fuel queue failure
            pure (result, (QueueLog.collected (.ok completed)).add log)
        | .error error =>
            if !queue.pending.isEmpty && WaitError.polling error then
              pure ((queue, some (.error error)), .collected (.error error))
            else do
              queue.pauseIfPending
              let (result, log) ← shutdownLoopLogged fuel queue (failure <|> some error)
              pure (result, (QueueLog.collected (.error error)).add log)

def shutdownLogged (queue : WorkQueue) (fuel : Nat) :
    Host ((WorkQueue × Option (Except WaitError Unit)) × QueueLog) :=
  shutdownLoopLogged fuel queue none

def dropLogged : Nat → WorkQueue → Host (WorkQueue × QueueLog)
  | 0, queue => pure (queue, .empty)
  | fuel + 1, queue =>
      if queue.pending.isEmpty then pure (queue, .empty)
      else do
        let ((queue, result), log) ← queue.shutdownLogged fuel
        match result with
        | some (.error _) => do
            queue.pauseIfPending
            let (queue, more) ← dropLogged fuel queue
            pure (queue, log.add more)
        | some (.ok _) | none => do
            let (queue, more) ← dropLogged fuel queue
            pure (queue, log.add more)

end WorkQueue

namespace Client

def callLogged (client : Client) (call : Call) : Host (Client × QueueLog) :=
  match call with
  | .trySubmit index =>
      match client.works[index]? with
      | some work => do
          let ((queue, result), log) ← client.queue.trySubmitLogged work
          let returned := match result with
            | .ok _ => []
            | .error error => error.returned
          pure (⟨queue, returned ++ client.works.eraseIdx index⟩, log)
      | none => pure (client, .empty)
  | .collect => do
      let ((queue, _), log) ← client.queue.collectLogged
      pure ({ client with queue }, log)
  | .waitForSlots needed timeout fuel => do
      let ((queue, _), log) ← client.queue.waitForSlotsLogged needed timeout fuel
      pure ({ client with queue }, log)
  | .shutdown fuel => do
      let ((queue, _), log) ← client.queue.shutdownLogged fuel
      pure ({ client with queue }, log)
  | .dropQueue fuel => do
      let (queue, log) ← client.queue.dropLogged fuel
      pure ({ client with queue }, log)
  | .new _ _ | .record _ _ | .append _ _ | .dropWork _ => do
      let client ← client.call call
      pure (client, .empty)

def runLogged (client : Client) : List Call → Host (Client × QueueLog)
  | [] => pure (client, .empty)
  | next :: calls => do
      let (client, log) ← client.callLogged next
      let (client, more) ← client.runLogged calls
      pure (client, log.add more)

end Client

def runQueueLogged (schedule : Nat → Moment) (lastInstant : Nat) (context : WorkContext)
    (capacity : Nat) (calls : List Call) : (Client × QueueLog) × World :=
  Client.runLogged ⟨.new context capacity, []⟩ calls ⟨schedule, 0, 0, lastInstant, .new, []⟩

/-! Without its log, a logged call is the call -/

namespace WorkQueue

theorem collectLogged_fst (queue : WorkQueue) :
    Prod.fst <$> queue.collectLogged = queue.collect := by
  simp [collectLogged]

theorem trySubmitLogged_fst (queue : WorkQueue) (work : RecordedWork) :
    Prod.fst <$> queue.trySubmitLogged work = queue.trySubmit work := by
  simp only [trySubmitLogged, trySubmit]
  split
  · rfl
  · rw [map_bind]
    refine bind_congr fun result => ?_
    obtain ⟨queue, collected⟩ := result
    cases collected with
    | error error => rfl
    | ok completed =>
        simp only [map_bind, map_pure, bind_pure]
        rfl

theorem waitLoopLogged_fst (maxPending start timeout fuel : Nat) (queue : WorkQueue)
    (total : Nat) : Prod.fst <$> waitLoopLogged maxPending start timeout fuel queue total =
      waitLoop maxPending start timeout fuel queue total := by
  induction fuel generalizing queue total with
  | zero => rfl
  | succ fuel ih =>
      simp only [waitLoopLogged, waitLoop]
      split
      · rfl
      · rw [map_bind]
        refine bind_congr fun left => ?_
        split
        · rfl
        · rfl
        · rw [map_bind]
          refine bind_congr fun _ => ?_
          rw [map_bind]
          refine bind_congr fun result => ?_
          obtain ⟨queue, collected⟩ := result
          cases collected with
          | error error => rfl
          | ok completed =>
              simp only [map_bind, map_pure]
              rw [← ih]
              exact (map_eq_pure_bind _ _).symm

theorem waitForSlotsLogged_fst (queue : WorkQueue) (needed timeout fuel : Nat) :
    Prod.fst <$> queue.waitForSlotsLogged needed timeout fuel =
      queue.waitForSlots needed timeout fuel := by
  simp only [waitForSlotsLogged, waitForSlots]
  rw [map_bind]
  refine bind_congr fun result => ?_
  obtain ⟨queue, collected⟩ := result
  cases collected with
  | error error => rfl
  | ok total =>
      simp only
      split
      · rfl
      · rw [map_bind]
        refine bind_congr fun start => ?_
        rw [← waitLoopLogged_fst, map_bind]
        exact (map_eq_pure_bind _ _).symm

theorem shutdownLoopLogged_fst (fuel : Nat) (queue : WorkQueue) (failure : Option WaitError) :
    Prod.fst <$> shutdownLoopLogged fuel queue failure = shutdownLoop fuel queue failure := by
  induction fuel generalizing queue failure with
  | zero => rfl
  | succ fuel ih =>
      simp only [shutdownLoopLogged, shutdownLoop]
      split
      · rfl
      · rw [map_bind]
        refine bind_congr fun result => ?_
        obtain ⟨queue, collected⟩ := result
        cases collected with
        | ok completed =>
            simp only
            rw [map_bind]
            refine bind_congr fun _ => ?_
            rw [← ih, map_bind]
            exact (map_eq_pure_bind _ _).symm
        | error error =>
            simp only
            split
            · rfl
            · rw [map_bind]
              refine bind_congr fun _ => ?_
              rw [← ih, map_bind]
              exact (map_eq_pure_bind _ _).symm

theorem dropLogged_fst (fuel : Nat) (queue : WorkQueue) :
    Prod.fst <$> dropLogged fuel queue = WorkQueue.drop fuel queue := by
  induction fuel generalizing queue with
  | zero => rfl
  | succ fuel ih =>
      simp only [dropLogged, WorkQueue.drop]
      split
      · rfl
      · rw [shutdown, ← shutdownLoopLogged_fst, map_bind, bind_map_left]
        refine bind_congr fun logged => ?_
        obtain ⟨⟨queue, result⟩, log⟩ := logged
        simp only
        split
        · rw [map_bind]
          refine bind_congr fun _ => ?_
          rw [← ih, map_bind]
          exact (map_eq_pure_bind _ _).symm
        · rw [← ih, map_bind]
          exact (map_eq_pure_bind _ _).symm
        · rw [← ih, map_bind]
          exact (map_eq_pure_bind _ _).symm

end WorkQueue

namespace Client

theorem callLogged_fst (client : Client) (call : Call) :
    Prod.fst <$> client.callLogged call = client.call call := by
  cases call with
  | trySubmit index =>
      simp only [callLogged, Client.call]
      cases client.works[index]? with
      | none => rfl
      | some work =>
          simp only
          rw [← WorkQueue.trySubmitLogged_fst, map_bind, bind_map_left]
          rfl
  | collect =>
      simp only [callLogged, Client.call]
      rw [← WorkQueue.collectLogged_fst, map_bind, bind_map_left]
      rfl
  | waitForSlots needed timeout fuel =>
      simp only [callLogged, Client.call]
      rw [← WorkQueue.waitForSlotsLogged_fst, map_bind, bind_map_left]
      rfl
  | shutdown fuel =>
      simp only [callLogged, Client.call]
      rw [WorkQueue.shutdown, ← WorkQueue.shutdownLoopLogged_fst, map_bind, bind_map_left]
      rfl
  | dropQueue fuel =>
      simp only [callLogged, Client.call]
      rw [← WorkQueue.dropLogged_fst, map_bind, bind_map_left]
      rfl
  | new context commands => simp [callLogged]
  | record context panic => simp [callLogged]
  | append into other => simp [callLogged]
  | dropWork index => simp [callLogged]

theorem runLogged_fst (calls : List Call) (client : Client) :
    Prod.fst <$> client.runLogged calls = client.run calls := by
  induction calls generalizing client with
  | nil => rfl
  | cons call calls ih =>
      simp only [runLogged, run]
      rw [← callLogged_fst, map_bind, bind_map_left]
      refine bind_congr fun logged => ?_
      rw [← ih, map_bind]
      exact (map_eq_pure_bind _ _).symm

end Client

/-- The logged run is the run. -/
theorem runQueueLogged_fst (schedule : Nat → Moment) (lastInstant : Nat) (context : WorkContext)
    (capacity : Nat) (calls : List Call) :
    ((runQueueLogged schedule lastInstant context capacity calls).1.1,
      (runQueueLogged schedule lastInstant context capacity calls).2) =
      runQueue schedule lastInstant context capacity calls :=
  congrFun (Client.runLogged_fst calls ⟨.new context capacity, []⟩) _

end GpuInfo
