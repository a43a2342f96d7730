import GpuInfo.Wait.HostFrame
import GpuInfo.Wait.QueueLog

/-!
One rule for the runs of a queue. What holds across a collect, across a submission and while
the world moves on holds after every logged run, with the log of that run; the loops that wait
and the calls are gone through once, here.
-/

namespace GpuInfo
open StateProgram

theorem QueueLog.add_assoc (log more last : QueueLog) :
    (log.add more).add last = log.add (more.add last) := by
  simp [add, List.append_assoc]

theorem QueueLog.add_empty (log : QueueLog) : log.add .empty = log := by
  simp [add, empty]

/-- The entries that a call has added at the end. -/
def WorkQueue.newSignals (queue result : WorkQueue) : List SignalId :=
  (result.pending.drop queue.pending.length).map (·.completion.signal)

/-- An invariant `I` of a queue, its log and the world, which moves on within `rel`; the works
of the callers have leases that are `good`. -/
structure QueueRule (good : List Lease → Prop) (rel : World → World → Prop)
    (I : WorkQueue → QueueLog → World → Prop) : Prop where
  frame : Frame rel
  moved : ∀ {queue log w w'}, I queue log w → rel w w' → I queue log w'
  single : ∀ lease, good [lease]
  append : ∀ {leases more}, good leases → good more → good (leases ++ more)
  collect : ∀ {queue log w}, I queue log w → Ensures queue.collect w fun result w' =>
    I result.1 (log.add (.collected result.2)) w'
  submit : ∀ {queue log w work}, I queue log w → good work.leases →
    Ensures (queue.submitCollected work) w fun result w' =>
      I result.1 (log.add ⟨[], queue.newSignals result.1⟩) w'

/-! What becomes of a work -/

/-- A work that `try_submit` gives back is the one it was given. -/
def Returns (work : RecordedWork) (result : Except WorkSubmitError Submission) : Prop :=
  ∀ error, result = .error error → ∀ returned ∈ error.returned, returned = work

theorem Returns.ok {work : RecordedWork} (submission : Submission) :
    Returns work (.ok submission) := by
  intro error h
  cases h

theorem Returns.back {work : RecordedWork} {error : WorkSubmitError}
    (h : error.returned = [work]) : Returns work (.error error) := by
  intro error' heq returned hreturned
  cases heq
  rw [h] at hreturned
  exact List.mem_singleton.mp hreturned

theorem Returns.kept {work : RecordedWork} {error : WorkSubmitError}
    (h : error.returned = []) : Returns work (.error error) := by
  intro error' heq returned hreturned
  cases heq
  rw [h] at hreturned
  cases hreturned

theorem WorkQueue.submitOwned_returns (queue : WorkQueue) (observer : Submission)
    (work : RecordedWork) (w : World) :
    Ensures (queue.submitOwned observer work) w fun result _ => Returns work result.2 := by
  have retains : ∀ (entry : PendingWork) (error : WaitError) (rejection : WorkSubmitError)
      (w : World), rejection.returned = [] → Ensures (queue.retainFailed entry error rejection) w
        fun result _ => Returns work result.2 := by
    intro entry error rejection w hnone
    exact Ensures.andThen fun _ _ => Ensures.pure (.kept hnone)
  refine Ensures.andThen fun answer w₁ => ?_
  obtain ⟨scope, submitted⟩ := answer
  cases submitted with
  | ok submission =>
      refine Ensures.andThen fun status w₂ => ?_
      split
      · exact Ensures.andThen fun _ _ => Ensures.pure (.ok _)
      · exact retains _ _ _ _ rfl
      · exact Ensures.pure (.ok _)
  | error error =>
      simp only
      split
      · rename_i heq
        cases heq
      · exact retains _ _ _ _ rfl
      · exact retains _ _ _ _ rfl

theorem WorkQueue.submitCollected_returns (queue : WorkQueue) (work : RecordedWork) (w : World) :
    Ensures (queue.submitCollected work) w fun result _ => Returns work result.2 := by
  unfold submitCollected
  split
  · exact Ensures.pure (.back rfl)
  · split
    · exact Ensures.pure (.back rfl)
    · refine Ensures.andThen fun observer _ => Ensures.andThen fun status _ => ?_
      split
      · exact Ensures.andThen fun _ _ => Ensures.pure (.kept rfl)
      · exact queue.submitOwned_returns observer work _
      · exact queue.submitOwned_returns observer work _

/-- A work that a recording returns has its lease. -/
def RecordsLease (lease : Lease) (result : Except Payload (Except WaitError RecordedWork)) : Prop :=
  ∀ work, result = .ok (.ok work) → work.leases = [lease]

theorem RecordsLease.work {lease : Lease} {work : RecordedWork} (h : work.leases = [lease]) :
    RecordsLease lease (.ok (.ok work)) := by
  intro work' heq
  cases heq
  exact h

theorem RecordsLease.failed {lease : Lease}
    {result : Except Payload (Except WaitError RecordedWork)}
    (h : ∀ work, result ≠ .ok (.ok work)) : RecordsLease lease result :=
  fun work hwork => absurd hwork (h work)

theorem RecordedWork.new_leases (context : WorkContext) (commands : List CommandBuffer)
    (lease : Lease) (w : World) : Ensures (RecordedWork.new context commands lease) w
      fun work _ => work.leases = [lease] := Ensures.andThen fun _ _ => Ensures.pure rfl

/-- A work is refused, or its leases come after. -/
theorem RecordedWork.append_leases (work other : RecordedWork) :
    work.append other = (work, some other) ∨ ∃ joined, work.append other = (joined, none) ∧
      joined.leases = work.leases ++ other.leases := by
  unfold append
  split
  · exact .inl rfl
  · exact .inr ⟨_, rfl, rfl⟩

theorem RecordedWork.record_leases (context : WorkContext)
    (operation : Except Payload CommandBuffer) (lease : Lease) (w : World) :
    Ensures (RecordedWork.record context operation lease) w fun result _ =>
      RecordsLease lease result := by
  refine Ensures.andThen fun operation w₁ => ?_
  split
  · exact Ensures.pure (.failed (by simp))
  · refine (new_leases context [] lease w₁).bind fun work w₂ hwork => ?_
    simp only
    split
    · exact Ensures.andThen fun _ _ => Ensures.pure (.failed (by simp))
    · refine Ensures.andThen fun status w₃ => ?_
      split
      · exact Ensures.andThen fun _ _ => Ensures.pure (.failed (by simp))
      · exact Ensures.pure (.work hwork)
      · exact Ensures.pure (.work hwork)

/-! Runs -/

variable {good : List Lease → Prop} {rel : World → World → Prop} [IsPreorder World rel]
  {I : WorkQueue → QueueLog → World → Prop}

namespace QueueRule
variable {queue : WorkQueue} {log : QueueLog} {w : World}

/-- Nothing is logged. -/
theorem quiet (h : I queue log w) : I queue (log.add .empty) w := log.add_empty.symm ▸ h

/-- What is logged after something else. -/
theorem joined {more last : QueueLog} (h : I queue ((log.add more).add last) w) :
    I queue (log.add (more.add last)) w := log.add_assoc more last ▸ h

omit [IsPreorder World rel] in
theorem trySubmit (rule : QueueRule good rel I) (h : I queue log w) {work : RecordedWork}
    (hwork : good work.leases) : Ensures (queue.trySubmitLogged work) w fun result w' =>
      I result.1.1 (log.add result.2) w' ∧ Returns work result.1.2 := by
  unfold WorkQueue.trySubmitLogged
  split
  · exact Ensures.pure ⟨quiet h, .back rfl⟩
  · refine (rule.collect h).bind fun result w₁ h₁ => ?_
    obtain ⟨queue₁, collected⟩ := result
    cases collected with
    | error error => exact Ensures.pure ⟨h₁, .back rfl⟩
    | ok completed =>
        have submits := (rule.submit h₁ hwork).and (queue₁.submitCollected_returns work w₁)
        refine submits.bind fun result w₂ h₂ => Ensures.pure ?_
        exact ⟨joined h₂.1, h₂.2⟩

theorem waitLoop (rule : QueueRule good rel I) (maxPending start timeout fuel : Nat)
    (total : Nat) (h : I queue log w) :
    Ensures (WorkQueue.waitLoopLogged maxPending start timeout fuel queue total) w
      fun result w' => I result.1.1 (log.add result.2) w' := by
  induction fuel generalizing queue total log w with
  | zero => exact Ensures.pure (quiet h)
  | succ fuel ih =>
      rw [WorkQueue.waitLoopLogged]
      split
      · exact Ensures.pure (quiet h)
      · refine (rule.frame.remaining start timeout w).bind fun left w₁ moved₁ => ?_
        have h₁ := rule.moved h moved₁
        split
        · exact Ensures.pure (quiet h₁)
        · exact Ensures.pure (quiet h₁)
        · refine (rule.frame.waitSlice queue w₁).bind fun _ w₂ moved₂ => ?_
          refine (rule.collect (rule.moved h₁ moved₂)).bind fun result w₃ h₃ => ?_
          obtain ⟨queue₃, collected⟩ := result
          cases collected with
          | error error => exact Ensures.pure h₃
          | ok completed =>
              exact (ih (total + completed) h₃).bind fun result w₄ h₄ => Ensures.pure (joined h₄)

theorem waitForSlots (rule : QueueRule good rel I) (needed timeout fuel : Nat)
    (h : I queue log w) :
    Ensures (queue.waitForSlotsLogged needed timeout fuel) w fun result w' =>
      I result.1.1 (log.add result.2) w' := by
  refine (rule.collect h).bind fun result w₁ h₁ => ?_
  obtain ⟨queue₁, collected⟩ := result
  cases collected with
  | error error => exact Ensures.pure h₁
  | ok total =>
      simp only
      split
      · exact Ensures.pure h₁
      · refine (rule.frame.instant w₁).bind fun start w₂ moved => ?_
        exact (rule.waitLoop _ start timeout fuel total (rule.moved h₁ moved)).bind
          fun result w₃ h₃ => Ensures.pure (joined h₃)

theorem shutdownLoop (rule : QueueRule good rel I) (fuel : Nat) (failure : Option WaitError)
    (h : I queue log w) :
    Ensures (WorkQueue.shutdownLoopLogged fuel queue failure) w fun result w' =>
      I result.1.1 (log.add result.2) w' := by
  induction fuel generalizing queue failure log w with
  | zero => exact Ensures.pure (quiet h)
  | succ fuel ih =>
      simp only [WorkQueue.shutdownLoopLogged]
      split
      · exact Ensures.pure (quiet h)
      · refine (rule.collect h).bind fun result w₁ h₁ => ?_
        obtain ⟨queue₁, collected⟩ := result
        cases collected with
        | ok completed =>
            refine (rule.frame.pauseIfPending queue₁ w₁).bind fun _ w₂ moved => ?_
            exact (ih failure (rule.moved h₁ moved)).bind
              fun result w₃ h₃ => Ensures.pure (joined h₃)
        | error error =>
            simp only
            split
            · exact Ensures.pure h₁
            · refine (rule.frame.pauseIfPending queue₁ w₁).bind fun _ w₂ moved => ?_
              exact (ih _ (rule.moved h₁ moved)).bind
                fun result w₃ h₃ => Ensures.pure (joined h₃)

theorem drop (rule : QueueRule good rel I) (fuel : Nat) (h : I queue log w) :
    Ensures (WorkQueue.dropLogged fuel queue) w fun result w' =>
      I result.1 (log.add result.2) w' := by
  induction fuel generalizing queue log w with
  | zero => exact Ensures.pure (quiet h)
  | succ fuel ih =>
      simp only [WorkQueue.dropLogged]
      split
      · exact Ensures.pure (quiet h)
      · refine (rule.shutdownLoop fuel none h).bind fun result w₁ h₁ => ?_
        obtain ⟨⟨queue₁, finished⟩, logged⟩ := result
        have again : ∀ {w₂ : World}, I queue₁ (log.add logged) w₂ →
            Ensures (WorkQueue.dropLogged fuel queue₁ >>= fun result =>
              pure (result.1, logged.add result.2)) w₂ fun result w' =>
                I result.1 (log.add result.2) w' := fun h₂ =>
          (ih h₂).bind fun result w₃ h₃ => Ensures.pure (joined h₃)
        simp only
        split
        · exact (rule.frame.pauseIfPending queue₁ w₁).bind fun _ w₂ moved =>
            again (rule.moved h₁ moved)
        · exact again h₁
        · exact again h₁

/-- What holds of a client between its calls. -/
def Holds (good : List Lease → Prop) (I : WorkQueue → QueueLog → World → Prop) (client : Client)
    (log : QueueLog) (w : World) : Prop :=
  I client.queue log w ∧ ∀ work ∈ client.works, good work.leases

variable {client : Client}

/-- The queue is as it was, and all works are good. -/
def KeepsWorks (good : List Lease → Prop) (client client' : Client) : Prop :=
  client'.queue = client.queue ∧ ∀ work ∈ client'.works, good work.leases

/-- A call that is not about the queue. -/
theorem works_call (rule : QueueRule good rel I) (h : Holds good I client log w) {call : Call}
    (other : ∀ index, call ≠ .trySubmit index)
    (spec : Ensures (client.call call) w fun client' _ => KeepsWorks good client client') :
    Ensures (client.call call >>= fun client => pure (client, QueueLog.empty)) w
      fun result w' => Holds good I result.1 (log.add result.2) w' := by
  refine (spec.and (rule.frame.call client other w)).bind fun client' w₁ h₁ => Ensures.pure ?_
  obtain ⟨⟨hqueue, hworks⟩, moved⟩ := h₁
  refine ⟨quiet ?_, hworks⟩
  rw [hqueue]
  exact rule.moved h.1 moved

section Works
variable (hworks : ∀ work ∈ client.works, good work.leases)
include hworks

omit [IsPreorder World rel] in
theorem newWork (rule : QueueRule good rel I) (context : WorkContext) (commands : Nat)
    (w : World) : Ensures (client.call (.new context commands)) w fun client' _ =>
      KeepsWorks good client client' := by
  refine Ensures.andThen fun lease w₁ => ?_
  refine (RecordedWork.new_leases context _ lease w₁).bind fun work w₂ hleases => ?_
  refine Ensures.pure ⟨rfl, fun other hother => ?_⟩
  cases List.mem_cons.mp hother with
  | inl heq =>
      rw [heq, hleases]
      exact rule.single lease
  | inr hold => exact hworks other hold

omit [IsPreorder World rel] in
theorem recordWork (rule : QueueRule good rel I) (context : WorkContext) (panic : Option Payload)
    (w : World) : Ensures (client.call (.record context panic)) w fun client' _ =>
      KeepsWorks good client client' := by
  refine Ensures.andThen fun lease w₁ => ?_
  refine (RecordedWork.record_leases context _ lease w₁).bind fun result w₂ hrecords => ?_
  split
  · refine Ensures.pure ⟨rfl, fun work hwork => ?_⟩
    cases List.mem_cons.mp hwork with
    | inl heq =>
        rw [heq, hrecords _ rfl]
        exact rule.single lease
    | inr hold => exact hworks work hold
  · exact Ensures.pure ⟨rfl, hworks⟩
  · exact Ensures.pure ⟨rfl, hworks⟩

omit [IsPreorder World rel] in
/-- An append joins two works, or gives both back. -/
theorem appendWorks (rule : QueueRule good rel I) (into other : Nat) (w : World) :
    Ensures (client.call (.append into other)) w fun client' _ =>
      KeepsWorks good client client' := by
  simp only [Client.call]
  split
  · rename_i work appended hwork happended
    have hrest : ∀ rest ∈ (client.works.eraseIdx into).eraseIdx other, good rest.leases :=
      fun rest hmem => hworks rest (List.mem_of_mem_eraseIdx (List.mem_of_mem_eraseIdx hmem))
    have hgood := hworks work (List.mem_of_getElem? hwork)
    have happendedGood := hworks appended
      (List.mem_of_mem_eraseIdx (List.mem_of_getElem? happended))
    refine Ensures.pure ⟨rfl, fun member hmember => ?_⟩
    cases work.append_leases appended with
    | inl hrefused =>
        simp only [hrefused, Option.toList_some, List.mem_cons, List.cons_append,
          List.nil_append] at hmember
        rcases hmember with rfl | rfl | hmember
        · exact hgood
        · exact happendedGood
        · exact hrest member hmember
    | inr hjoined =>
        obtain ⟨joined, hjoined, hleases⟩ := hjoined
        simp only [hjoined, Option.toList_none, List.mem_cons, List.cons_append,
          List.nil_append] at hmember
        rcases hmember with rfl | hmember
        · rw [hleases]
          exact rule.append hgood happendedGood
        · exact hrest member hmember
  · exact Ensures.pure ⟨rfl, hworks⟩

theorem dropWork (index : Nat) (w : World) :
    Ensures (client.call (.dropWork index)) w fun client' _ =>
      KeepsWorks good client client' := by
  simp only [Client.call]
  split
  · exact Ensures.andThen fun _ _ => Ensures.pure
      ⟨rfl, fun work hwork => hworks work (List.mem_of_mem_eraseIdx hwork)⟩
  · exact Ensures.pure ⟨rfl, hworks⟩

end Works

theorem call (rule : QueueRule good rel I) (call : Call) (h : Holds good I client log w) :
    Ensures (client.callLogged call) w fun result w' =>
      Holds good I result.1 (log.add result.2) w' := by
  cases call with
  | trySubmit index =>
      simp only [Client.callLogged]
      split
      · rename_i work hwork
        have erased : ∀ work ∈ client.works.eraseIdx index, good work.leases :=
          fun work hwork => h.2 work (List.mem_of_mem_eraseIdx hwork)
        have hgood := h.2 work (List.mem_of_getElem? hwork)
        refine (rule.trySubmit h.1 hgood).bind fun result w₁ h₁ => Ensures.pure ⟨h₁.1, ?_⟩
        obtain ⟨⟨queue, submitted⟩, log⟩ := result
        cases submitted with
        | ok submission => exact erased
        | error error =>
            intro other hother
            cases List.mem_append.mp hother with
            | inl hreturned => exact h₁.2 error rfl other hreturned ▸ hgood
            | inr hrest => exact erased other hrest
      · exact Ensures.pure ⟨quiet h.1, h.2⟩
  | collect =>
      refine Ensures.bind ?_ fun _ _ hI => Ensures.pure ⟨hI, h.2⟩
      exact (rule.collect h.1).bind fun _ _ hI => Ensures.pure hI
  | waitForSlots needed timeout fuel =>
      exact (rule.waitForSlots needed timeout fuel h.1).bind
        fun _ _ hI => Ensures.pure ⟨hI, h.2⟩
  | shutdown fuel =>
      exact (rule.shutdownLoop fuel none h.1).bind fun _ _ hI => Ensures.pure ⟨hI, h.2⟩
  | dropQueue fuel => exact (rule.drop fuel h.1).bind fun _ _ hI => Ensures.pure ⟨hI, h.2⟩
  | new context commands => exact rule.works_call h (by simp) (newWork h.2 rule _ _ w)
  | record context panic => exact rule.works_call h (by simp) (recordWork h.2 rule _ _ w)
  | append into other => exact rule.works_call h (by simp) (appendWorks h.2 rule _ _ w)
  | dropWork index => exact rule.works_call h (by simp) (dropWork h.2 index w)

theorem run (rule : QueueRule good rel I) (calls : List Call) (h : Holds good I client log w) :
    Ensures (client.runLogged calls) w fun result w' =>
      Holds good I result.1 (log.add result.2) w' := by
  induction calls generalizing client log w with
  | nil => exact Ensures.pure ⟨quiet h.1, h.2⟩
  | cons call calls ih =>
      refine (rule.call call h).bind fun result w₁ h₁ => ?_
      exact (ih h₁).bind fun result w₂ h₂ => Ensures.pure ⟨joined h₂.1, h₂.2⟩

/-- What holds of a new queue and is an invariant holds after every run. -/
theorem runQueue (rule : QueueRule good rel I) {schedule : Nat → Moment} {lastInstant : Nat}
    {context : WorkContext} {capacity : Nat} {calls : List Call}
    (start : I (.new context capacity) .empty ⟨schedule, 0, 0, lastInstant, .new, []⟩)
    (run : runQueueLogged schedule lastInstant context capacity calls = ((client, log), w)) :
    Holds good I client log w := by
  have fresh : Holds good I ⟨.new context capacity, []⟩ .empty
      ⟨schedule, 0, 0, lastInstant, .new, []⟩ := ⟨start, by simp⟩
  have h := rule.run calls fresh
  rw [Ensures, show Client.runLogged _ calls _ = ((client, log), w) from run] at h
  exact h

end QueueRule

end GpuInfo
