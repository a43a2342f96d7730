import GpuInfo.Wait.Recording
import Mathlib.Data.List.Perm.Basic

/-!
The loops that wait keep the books, so every call of a client does, and with it every
run from a new queue. What a run has recorded of each hook is then read off its
history.
-/

namespace GpuInfo
open StateProgram Device

section
variable {w w' : World} {works : Multiset RecordedWork}

namespace WorkQueue

theorem instant_spec (w : World) : Ensures instant w fun _ w' => Watches w w' :=
  (tick_spec w).bind fun _ _ watched => Ensures.get (Ensures.pure watched)

theorem remaining_spec (start timeout : Nat) (w : World) :
    Ensures (remaining start timeout) w fun _ w' => Watches w w' := by
  refine (instant_spec w).bind fun now w₁ watched => Ensures.get ?_
  simp only
  split
  · split
    · exact Ensures.pure watched
    · exact Ensures.pure watched
  · exact Ensures.pure watched

theorem waitSlice_spec (queue : WorkQueue) (w : World) :
    Ensures queue.waitSlice w fun _ w' => Watches w w' := by
  simp only [waitSlice]
  split
  · exact Ensures.pure (.refl w)
  · rename_i entry _ _
    refine (entry.validationsSettled_spec w).bind fun settled w₁ watched => ?_
    have observed : Ensures entry.activeSubmission.observe w₁ fun _ w₂ => Watches w₁ w₂ :=
      (tick_spec w₁).bind fun _ _ watched => Ensures.get (Ensures.pure watched)
    refine observed.bind fun guard w₂ watched₂ => ?_
    split
    · refine (tick_spec w₂).bind fun _ w₃ watched₃ => Ensures.pure ?_
      exact (watched.trans watched₂).trans watched₃
    · exact Ensures.pure (watched.trans watched₂)

theorem waitLoop_spec (maxPending start timeout fuel : Nat) {queue : WorkQueue} {total : Nat}
    {w : World} (books : Books w works queue.pending) :
    Ensures (waitLoop maxPending start timeout fuel queue total) w fun result w' =>
      Books w' works result.1.pending := by
  induction fuel generalizing queue total w with
  | zero => exact Ensures.pure books
  | succ fuel ih =>
      rw [waitLoop]
      split
      · exact Ensures.pure books
      · refine (remaining_spec start timeout w).bind fun left w₁ watched => ?_
        have books₁ := books.watches watched
        split
        · exact Ensures.pure books₁
        · exact Ensures.pure books₁
        · refine (queue.waitSlice_spec w₁).bind fun _ w₂ watched₂ => ?_
          refine (collect_spec queue (books₁.watches watched₂)).bind fun result w₃ books₃ => ?_
          obtain ⟨queue₃, collected⟩ := result
          cases collected with
          | error error => exact Ensures.pure books₃
          | ok completed => exact ih books₃

theorem waitForSlots_spec (queue : WorkQueue) (needed timeout fuel : Nat)
    (books : Books w works queue.pending) :
    Ensures (queue.waitForSlots needed timeout fuel) w fun result w' =>
      Books w' works result.1.pending := by
  refine (collect_spec queue books).bind fun result w₁ books₁ => ?_
  obtain ⟨queue₁, collected⟩ := result
  cases collected with
  | error error => exact Ensures.pure books₁
  | ok total =>
      simp only
      split
      · exact Ensures.pure books₁
      · refine (instant_spec w₁).bind fun start w₂ watched => ?_
        exact waitLoop_spec _ start timeout fuel (books₁.watches watched)

theorem pauseIfPending_spec (queue : WorkQueue) (w : World) :
    Ensures queue.pauseIfPending w fun _ w' => Watches w w' := by
  rw [pauseIfPending]
  split
  · exact Ensures.pure (.refl w)
  · exact queue.waitSlice_spec w

theorem shutdownLoop_spec (fuel : Nat) {queue : WorkQueue} {failure : Option WaitError}
    {w : World} (books : Books w works queue.pending) :
    Ensures (shutdownLoop fuel queue failure) w fun result w' =>
      Books w' works result.1.pending := by
  induction fuel generalizing queue failure w with
  | zero => exact Ensures.pure books
  | succ fuel ih =>
      simp only [shutdownLoop]
      split
      · exact Ensures.pure books
      · refine (collect_spec queue books).bind fun result w₁ books₁ => ?_
        obtain ⟨queue₁, collected⟩ := result
        cases collected with
        | ok completed =>
            refine (queue₁.pauseIfPending_spec w₁).bind fun _ w₂ watched => ?_
            exact ih (books₁.watches watched)
        | error error =>
            simp only
            split
            · exact Ensures.pure books₁
            · refine (queue₁.pauseIfPending_spec w₁).bind fun _ w₂ watched => ?_
              exact ih (books₁.watches watched)

theorem shutdown_spec (queue : WorkQueue) (fuel : Nat) (books : Books w works queue.pending) :
    Ensures (queue.shutdown fuel) w fun result w' => Books w' works result.1.pending :=
  shutdownLoop_spec fuel books

theorem drop_spec (fuel : Nat) {queue : WorkQueue} {w : World}
    (books : Books w works queue.pending) :
    Ensures (WorkQueue.drop fuel queue) w fun queue' w' => Books w' works queue'.pending := by
  induction fuel generalizing queue w with
  | zero => exact Ensures.pure books
  | succ fuel ih =>
      rw [WorkQueue.drop]
      split
      · exact Ensures.pure books
      · refine (shutdown_spec queue fuel books).bind fun result w₁ books₁ => ?_
        obtain ⟨queue₁, finished⟩ := result
        simp only
        split
        · refine (queue₁.pauseIfPending_spec w₁).bind fun _ w₂ watched => ?_
          exact ih (books₁.watches watched)
        · exact ih books₁
        · exact ih books₁

end WorkQueue

/-! Runs -/

/-- The books of a client: its works and the entries of its queue. -/
def Client.Books (client : Client) (w : World) : Prop :=
  GpuInfo.Books w client.works client.queue.pending

/-- The works around the one at a position. -/
theorem works_at {works : List RecordedWork} {index : Nat} {work : RecordedWork}
    (h : works[index]? = some work) :
    (works : Multiset RecordedWork) = work ::ₘ (works.eraseIdx index : Multiset RecordedWork) := by
  obtain ⟨hlt, rfl⟩ := List.getElem?_eq_some_iff.mp h
  exact (Multiset.coe_eq_coe.mpr (List.getElem_cons_eraseIdx_perm hlt)).symm

theorem Client.call_spec (client : Client) (call : Call) (books : client.Books w) :
    Ensures (client.call call) w fun client' w' => client'.Books w' := by
  cases call with
  | new context commands =>
      refine (newLease_spec w books.ledger.device).bind fun lease w₁ h₁ => ?_
      obtain ⟨hnew, unscoped⟩ := h₁
      refine (RecordedWork.new_spec context _ lease w₁).bind fun work w₂ h₂ => ?_
      obtain ⟨rfl, rfl⟩ := h₂
      refine Ensures.pure (RecordedWork.unscoped_born books hnew unscoped context ?_)
      intro command hcommand
      obtain ⟨index, -, rfl⟩ := List.mem_map.mp hcommand
      rfl
  | record context panic =>
      refine (newLease_spec w books.ledger.device).bind fun lease w₁ h₁ => ?_
      obtain ⟨hnew, unscoped⟩ := h₁
      have owned : ∀ command, encoding lease panic = .ok command → command.lease = lease := by
        intro command hcommand
        cases panic with
        | none =>
            cases hcommand
            rfl
        | some payload => cases hcommand
      refine (RecordedWork.record_spec books hnew unscoped context _ owned).bind
        fun result w₂ books₂ => ?_
      split
      · rw [RecordedWork.kept, Multiset.singleton_add] at books₂
        exact Ensures.pure books₂
      · rw [RecordedWork.kept, zero_add] at books₂
        exact Ensures.pure books₂
      · rw [RecordedWork.kept, zero_add] at books₂
        exact Ensures.pure books₂
  | append into other =>
      simp only [Client.call]
      split
      · rename_i work appended hwork happended
        have books' : GpuInfo.Books w client.works client.queue.pending := books
        rw [works_at hwork, works_at happended] at books'
        have joined := RecordedWork.append_spec books'
        rw [Multiset.cons_coe, Multiset.coe_add] at joined
        exact Ensures.pure joined
      · exact Ensures.pure books
  | dropWork index =>
      simp only [Client.call]
      split
      · rename_i work hwork
        have books' : GpuInfo.Books w client.works client.queue.pending := books
        rw [works_at hwork] at books'
        refine (RecordedWork.drop_spec books').bind fun _ w₁ h₁ => Ensures.pure h₁.1
      · exact Ensures.pure books
  | trySubmit index =>
      simp only [Client.call]
      split
      · rename_i work hwork
        have books' : GpuInfo.Books w client.works client.queue.pending := books
        rw [works_at hwork] at books'
        refine (WorkQueue.trySubmit_spec client.queue books').bind fun result w₁ books₁ => ?_
        obtain ⟨queue, submitted⟩ := result
        rw [Multiset.coe_add] at books₁
        cases submitted with
        | ok submission => exact Ensures.pure books₁
        | error error => exact Ensures.pure books₁
      · exact Ensures.pure books
  | collect =>
      exact (WorkQueue.collect_spec client.queue books).bind fun _ _ books₁ => Ensures.pure books₁
  | waitForSlots needed timeout fuel =>
      exact (client.queue.waitForSlots_spec needed timeout fuel books).bind
        fun _ _ books₁ => Ensures.pure books₁
  | shutdown fuel =>
      exact (client.queue.shutdown_spec fuel books).bind fun _ _ books₁ => Ensures.pure books₁
  | dropQueue fuel =>
      exact (WorkQueue.drop_spec fuel books).bind fun _ _ books₁ => Ensures.pure books₁

theorem Client.run_spec (calls : List Call) {client : Client} {w : World}
    (books : client.Books w) :
    Ensures (client.run calls) w fun client' w' => client'.Books w' := by
  induction calls generalizing client w with
  | nil => exact Ensures.pure books
  | cons call calls ih => exact (client.call_spec call books).bind fun _ _ => ih

theorem Device.sound_new : Device.new.Sound where
  retired_le := le_rfl
  sent_le := nofun
  callback := nofun
  completed := nofun
  rejected := nofun
  newSignal _ := ⟨rfl, rfl, rfl, rfl⟩
  newLease _ := rfl

theorem Client.new_books (schedule : Nat → Moment) (lastInstant : Nat) (context : WorkContext)
    (capacity : Nat) :
    Client.Books ⟨.new context capacity, []⟩ ⟨schedule, 0, 0, lastInstant, .new, []⟩ where
  ledger := ⟨sound_new, rfl, Multiset.nodup_zero, nofun, nofun, trivial⟩
  recorded := nofun
  retained := nofun
  uncommitted := nofun
  committed := nofun
  passed := nofun

end

section
variable (schedule : Nat → Moment) (lastInstant : Nat) (context : WorkContext) (capacity : Nat)
  (calls : List Call)

/-- The books hold after every run. -/
theorem runQueue_books :
    (runQueue schedule lastInstant context capacity calls).1.Books
      (runQueue schedule lastInstant context capacity calls).2 :=
  Client.run_spec calls (Client.new_books schedule lastInstant context capacity)

end

end GpuInfo
