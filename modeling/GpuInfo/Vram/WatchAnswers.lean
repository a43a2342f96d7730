import GpuInfo.Interleaving
import GpuInfo.Vram.Watch

/-!
Whose figure a watch answers with. A query that unwinds after the watch has turned to
another device leaves it with that device's name over the reading of the one before, and
the next call is answered from it. While no query does that to a reading still younger
than the interval, every answer is a reading of the device that was asked about.
-/

namespace GpuInfo
open Interleaving

variable {Device : Type} [DecidableEq Device]

/-- The answer of the next call is a reading of its device, either made by the call
itself or finished less than the interval ago. -/
def WatchHistory.AnswersFor (s : WatchHistory Device) (call : WatchCall Device) : Prop :=
  ∀ answer, (s.watch.budgetWith call).answer = some answer →
    call.reading s.watch = some ⟨call.device, answer, call.answered⟩ ∨
    ∃ reading ∈ s.readings, reading.device = call.device ∧ reading.budget = answer ∧
      call.asked - reading.finished < s.watch.every

/-- A query unwinds in a call for another device than the last reading is of, and that
reading is still younger than the interval. -/
def WatchHistory.Mislabels (s : WatchHistory Device) (call : WatchCall Device) : Prop :=
  s.watch.state.device ≠ some call.device ∧ call.query = .unwound ∧
    ∃ time, s.watch.state.readAt = some time ∧ call.answered - time < s.watch.every

/-- A reading that a call could be answered with is one of its device. -/
structure WatchHistory.Labelled (s : WatchHistory Device) : Prop where
  past : ∀ time, s.watch.state.readAt = some time → time ≤ s.now
  own : ∀ device time, s.watch.state.device = some device → s.watch.state.readAt = some time →
    s.now - time < s.watch.every → ⟨device, s.watch.state.budget, time⟩ ∈ s.readings

namespace VramWatch
variable {watch : VramWatch Device}

theorem cached_eq_true {device : Device} {asked : Nat} :
    watch.cached device asked = true ↔ watch.state.device = some device ∧
      ∃ time, watch.state.readAt = some time ∧ asked - time < watch.every := by
  cases hread : watch.state.readAt with
  | none => simp [cached, hread]
  | some time => simp [cached, hread]

variable {call : WatchCall Device}

theorem budgetWith_cached (h : watch.cached call.device call.asked = true) :
    watch.budgetWith call = ⟨watch, some watch.state.budget, none, false⟩ := if_pos h

theorem budgetWith_unwound (h : watch.cached call.device call.asked = false)
    (hquery : call.query = .unwound) :
    watch.budgetWith call =
      ⟨{ watch with state := watch.rekeyed call.device }, none, none, true⟩ := by
  simp [budgetWith, h, hquery]

theorem rekeyed_device (device : Device) : (watch.rekeyed device).device = some device := by
  unfold rekeyed
  split <;> simp [*]

theorem rekeyed_readAt (device : Device) :
    (watch.rekeyed device).readAt = watch.state.readAt := by
  unfold rekeyed
  split <;> rfl

/-- A query that returns replaces the whole reading. -/
theorem budgetWith_returned {budget : Option Nat}
    (h : watch.cached call.device call.asked = false) (hquery : call.query = .returned budget) :
    (watch.budgetWith call).answer = some budget ∧ (watch.budgetWith call).queried = true ∧
    (watch.budgetWith call).watch.every = watch.every ∧
    (watch.budgetWith call).watch.state.device = some call.device ∧
    (watch.budgetWith call).watch.state.budget = budget ∧
    (watch.budgetWith call).watch.state.readAt = some call.answered := by
  simp [budgetWith, h, hquery, rekeyed_device]

end VramWatch

namespace WatchCall
variable {watch : VramWatch Device} {call : WatchCall Device}

theorem reading_cached (h : watch.cached call.device call.asked = true) :
    call.reading watch = none := by
  rw [reading, VramWatch.budgetWith_cached h]
  rfl

theorem reading_unwound (h : watch.cached call.device call.asked = false)
    (hquery : call.query = .unwound) : call.reading watch = none := by
  rw [reading, VramWatch.budgetWith_unwound h hquery, if_pos rfl, hquery]

theorem reading_returned {budget : Option Nat} (h : watch.cached call.device call.asked = false)
    (hquery : call.query = .returned budget) :
    call.reading watch = some ⟨call.device, budget, call.answered⟩ := by
  rw [reading, if_pos (VramWatch.budgetWith_returned h hquery).2.1, hquery]

end WatchCall

namespace WatchHistory
variable {s : WatchHistory Device} {call : WatchCall Device}

theorem Labelled.answersFor (h : s.Labelled) (hnext : s.Next call) : s.AnswersFor call := by
  intro answer hanswer
  cases hcached : s.watch.cached call.device call.asked with
  | true =>
      rw [VramWatch.budgetWith_cached hcached] at hanswer
      cases hanswer
      obtain ⟨hdevice, time, htime, hyoung⟩ := VramWatch.cached_eq_true.mp hcached
      have hnow := hnext.1
      exact .inr ⟨_, h.own call.device time hdevice htime (by omega), rfl, rfl, hyoung⟩
  | false =>
      cases hquery : call.query with
      | unwound =>
          rw [VramWatch.budgetWith_unwound hcached hquery] at hanswer
          cases hanswer
      | returned budget =>
          rw [(VramWatch.budgetWith_returned hcached hquery).1] at hanswer
          cases hanswer
          exact .inl (WatchCall.reading_returned hcached hquery)

theorem Labelled.after (h : s.Labelled) (hnext : s.Next call) (kept : ¬ s.Mislabels call) :
    (s.after call).Labelled := by
  obtain ⟨hasked, hanswered⟩ := hnext
  cases hcached : s.watch.cached call.device call.asked with
  | true =>
      have hafter : s.after call = ⟨s.watch, call.answered, s.readings⟩ := by
        simp [WatchHistory.after, VramWatch.budgetWith_cached hcached,
          WatchCall.reading_cached hcached]
      rw [hafter]
      refine ⟨fun time htime => ?_, fun device time hdevice htime hyoung => ?_⟩
      · have := h.past time htime
        show time ≤ call.answered
        omega
      · have hbefore : s.now - time < s.watch.every := by
          have : call.answered - time < s.watch.every := hyoung
          omega
        exact h.own device time hdevice htime hbefore
  | false =>
      cases hquery : call.query with
      | unwound =>
          have hafter : s.after call = ⟨{ s.watch with state := s.watch.rekeyed call.device },
              call.answered, s.readings⟩ := by
            simp [WatchHistory.after, VramWatch.budgetWith_unwound hcached hquery,
              WatchCall.reading_unwound hcached hquery]
          rw [hafter]
          refine ⟨fun time htime => ?_, fun device time hdevice htime hyoung => ?_⟩
          · have := h.past time ((VramWatch.rekeyed_readAt _).symm.trans htime)
            show time ≤ call.answered
            omega
          · have hread := (VramWatch.rekeyed_readAt call.device).symm.trans htime
            have hlate : call.answered - time < s.watch.every := hyoung
            by_cases hsame : s.watch.state.device = some call.device
            · -- The watch had not turned: its own reading is too old for this call already.
              have hstale : ¬ call.asked - time < s.watch.every := by
                intro hyoung
                have hhit := VramWatch.cached_eq_true.mpr ⟨hsame, time, hread, hyoung⟩
                cases hcached.symm.trans hhit
              omega
            · exact absurd ⟨hsame, hquery, time, hread, hlate⟩ kept
      | returned budget =>
          obtain ⟨-, -, -, hdevice', hbudget, hread⟩ :=
            VramWatch.budgetWith_returned hcached hquery
          refine ⟨fun time htime => ?_, fun device time hdevice htime _ => ?_⟩
          · cases hread.symm.trans htime
            exact Nat.le_refl _
          · cases hread.symm.trans htime
            cases hdevice'.symm.trans hdevice
            simp [WatchHistory.after, WatchCall.reading_returned hcached hquery, hbudget]

/-- Such a call leaves a watch that answers its device with the other one's figure. -/
theorem Mislabels.cached_after (h : s.Mislabels call) :
    (s.after call).watch.cached call.device call.answered = true ∧
      (s.after call).watch.state.budget = s.watch.state.budget := by
  obtain ⟨hother, hquery, time, hread, hyoung⟩ := h
  have hcached : s.watch.cached call.device call.asked = false := by
    simp [VramWatch.cached, hother]
  have hwatch : (s.after call).watch = { s.watch with state := s.watch.rekeyed call.device } :=
    congrArg WatchResult.watch (VramWatch.budgetWith_unwound hcached hquery)
  rw [hwatch]
  refine ⟨VramWatch.cached_eq_true.mpr ⟨VramWatch.rekeyed_device _, time, ?_, hyoung⟩, ?_⟩
  · exact (VramWatch.rekeyed_readAt _).trans hread
  · simp [VramWatch.rekeyed, hother]

end WatchHistory

/-- In a run in which no query unwinds over another device's young reading, every call
is answered with a reading of its own device, as young as the interval asks. -/
theorem watch_answers_for_its_device {every : Nat} {s : WatchHistory Device}
    (hs : Reachable (WatchStart every)
      (fun s s' => ∃ call, s.Next call ∧ ¬ s.Mislabels call ∧ s' = s.after call) s)
    {call : WatchCall Device} (hnext : s.Next call) : s.AnswersFor call := by
  have hlabelled : s.Labelled := by
    refine hs.invariant (I := WatchHistory.Labelled) ?_ ?_
    · intro s hstart
      obtain ⟨label, rfl⟩ := hstart
      exact ⟨by simp [VramWatch.new], by simp [VramWatch.new]⟩
    · intro s s' h hstep
      obtain ⟨call, hnext, kept, rfl⟩ := hstep
      exact h.after hnext kept
  exact hlabelled.answersFor hnext

/-! Two devices, and an interval of ten. -/

def firstDeviceRead : WatchHistory Nat :=
  ⟨⟨"pool", 10, ⟨some 0, some 5, some 0, false⟩⟩, 0, [⟨0, some 5, 0⟩]⟩

theorem watch_answers_for_its_device_after_one_reading :
    firstDeviceRead.AnswersFor ⟨0, 3, .unwound, 3⟩ := by
  have fresh : Reachable (WatchStart 10)
      (fun s s' => ∃ call, s.Next call ∧ ¬ s.Mislabels call ∧ s' = s.after call)
      (⟨.new "pool" 10, 0, []⟩ : WatchHistory Nat) := .start ⟨"pool", rfl⟩
  have read : Reachable (WatchStart 10)
      (fun s s' => ∃ call, s.Next call ∧ ¬ s.Mislabels call ∧ s' = s.after call)
      firstDeviceRead := by
    refine fresh.next ⟨⟨0, 0, .returned (some 5), 0⟩, by decide, ?_, rfl⟩
    simp [WatchHistory.Mislabels]
  exact watch_answers_for_its_device read (by decide)

/-- A query for the second device unwinds; its next call is answered with the first one's
figure. -/
theorem watch_can_answer_for_another_device :
    ¬ ∀ (every : Nat) (s : WatchHistory Nat), Reachable (WatchStart every) WatchStep s →
      ∀ call, s.Next call → s.AnswersFor call := by
  intro always
  have fresh : Reachable (WatchStart 10) WatchStep (⟨.new "pool" 10, 0, []⟩ : WatchHistory Nat) :=
    .start ⟨"pool", rfl⟩
  have read : Reachable (WatchStart 10) WatchStep firstDeviceRead :=
    fresh.next ⟨⟨0, 0, .returned (some 5), 0⟩, by decide, rfl⟩
  have mislabels : firstDeviceRead.Mislabels ⟨1, 1, .unwound, 2⟩ :=
    ⟨by decide, rfl, 0, rfl, by decide⟩
  have unwound := read.next ⟨⟨1, 1, .unwound, 2⟩, by decide, rfl⟩
  have hanswer : (firstDeviceRead.after ⟨1, 1, .unwound, 2⟩).watch.budgetWith
      ⟨1, 2, .returned (some 9), 2⟩ = _ := VramWatch.budgetWith_cached mislabels.cached_after.1
  have answered := always 10 _ unwound ⟨1, 2, .returned (some 9), 2⟩ (by decide) (some 5)
    (congrArg WatchResult.answer hanswer)
  revert answered
  simp [WatchCall.reading, WatchHistory.after, firstDeviceRead, VramWatch.budgetWith,
    VramWatch.cached, VramWatch.rekeyed]

end GpuInfo
