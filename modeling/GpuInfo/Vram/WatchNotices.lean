import GpuInfo.Vram.WatchAnswers

/-!
When a watch queries and what it announces, over calls whose queries return. The calls
that were made since another device was asked about are a run, and what the watch does
next is decided by the last reading of the run: it queries again once the interval has
passed since, and announces where a reading fails unlike the one before, or is the first
after a failed one.
-/

namespace GpuInfo
open Interleaving

variable {Device : Type}

/-- A call and what came of it. -/
structure WatchEvent (Device : Type) where
  call : WatchCall Device
  reading : Option (Reading Device)
  notice : Option WatchNotice

/-- A watch in use with all that it was asked, the newest first. -/
structure WatchLog (Device : Type) where
  watch : VramWatch Device
  now : Nat
  events : List (WatchEvent Device)

namespace WatchLog

def start (label : String) (every : Nat) : WatchLog Device := ⟨.new label every, 0, []⟩

variable [DecidableEq Device] (s : WatchLog Device) (call : WatchCall Device)

/-- What the next call comes to. -/
def event : WatchEvent Device := ⟨call, call.reading s.watch, (s.watch.budgetWith call).notice⟩

def after : WatchLog Device :=
  ⟨(s.watch.budgetWith call).watch, call.answered, s.event call :: s.events⟩

/-- The clock does not run backwards, and the query returns if the call makes one. -/
def Next (call : WatchCall Device) : Prop :=
  s.now ≤ call.asked ∧ call.asked ≤ call.answered ∧ ∃ budget, call.query = .returned budget

/-- The readings since another device was asked about, the newest first. -/
def readings (device : Device) : List (Reading Device) :=
  (s.events.takeWhile fun event => event.call.device = device).filterMap (·.reading)

variable {s call}

theorem readings_after (device : Device) : (s.after call).readings device =
    if call.device = device then (call.reading s.watch).toList ++ s.readings device else [] := by
  unfold readings after event
  by_cases hsame : call.device = device
  · rw [if_pos hsame, List.takeWhile_cons_of_pos (by simpa using hsame)]
    cases call.reading s.watch <;> rfl
  · rw [if_neg hsame, List.takeWhile_cons_of_neg (by simpa using hsame)]
    rfl

/-- The last reading of the run failed. -/
def failing (s : WatchLog Device) (device : Device) : Bool :=
  (s.readings device).head?.any fun reading => reading.budget.isNone

theorem failing_eq_true {device : Device} : s.failing device = true ↔
    ∃ last ∈ (s.readings device).head?, last.budget = none := by
  unfold failing
  cases (s.readings device).head? <;> simp

theorem failing_eq_false {device : Device} : s.failing device = false ↔
    ∀ last ∈ (s.readings device).head?, last.budget ≠ none := by
  unfold failing
  cases (s.readings device).head? <;> simp [Option.isSome_iff_ne_none]

/-- The watch holds the last reading of the run, if the run has begun. -/
structure Standing (s : WatchLog Device) (every : Nat) : Prop where
  interval : s.watch.every = every
  other : ∀ device, s.watch.state.device ≠ some device → s.readings device = []
  own : ∀ device, s.watch.state.device = some device → ∃ last earlier,
    s.readings device = last :: earlier ∧ s.watch.state.budget = last.budget ∧
    s.watch.state.readAt = some last.finished ∧ s.watch.state.failing = last.budget.isNone ∧
    last.finished ≤ s.now ∧ ∀ reading ∈ earlier, reading.finished ≤ last.finished

end WatchLog

namespace VramWatch
variable [DecidableEq Device] {watch : VramWatch Device} {call : WatchCall Device}

/-- What is announced of a reading, by whether the one before it failed. -/
def announced (failing : Bool) : Option Nat → Option WatchNotice
  | none => if failing then none else some .noBudget
  | some bytes => if failing then some (.recovered bytes) else none

theorem announced_noBudget {failing : Bool} {budget : Option Nat} :
    announced failing budget = some .noBudget ↔ budget = none ∧ failing = false := by
  cases budget <;> cases failing <;> simp [announced]

theorem announced_recovered {failing : Bool} {budget : Option Nat} {bytes : Nat} :
    announced failing budget = some (.recovered bytes) ↔ budget = some bytes ∧ failing = true := by
  cases budget <;> cases failing <;> simp [announced]

theorem budgetWith_announced {budget : Option Nat}
    (h : watch.cached call.device call.asked = false) (hquery : call.query = .returned budget) :
    (watch.budgetWith call).notice = announced (watch.rekeyed call.device).failing budget ∧
      (watch.budgetWith call).watch.state.failing = budget.isNone := by
  cases budget <;> cases hfailing : (watch.rekeyed call.device).failing <;>
    simp [budgetWith, h, hquery, hfailing, announced]

end VramWatch

namespace WatchLog
variable [DecidableEq Device] {s : WatchLog Device} {call : WatchCall Device} {every : Nat}

/-- A call reads exactly if its run has no reading as young as the interval. -/
theorem Standing.reads_iff (h : s.Standing every) :
    s.watch.cached call.device call.asked = false ↔
      ∀ last ∈ (s.readings call.device).head?, every ≤ call.asked - last.finished := by
  rw [Bool.eq_false_iff, ne_eq, VramWatch.cached_eq_true, h.interval]
  by_cases hsame : s.watch.state.device = some call.device
  · obtain ⟨last, earlier, hreadings, -, hread, -⟩ := h.own _ hsame
    simp [hsame, hreadings, hread]
  · simp [hsame, h.other _ hsame]

/-- What a query finds of the failures before it: whether the last reading of its own run
failed. -/
theorem Standing.rekeyed_failing (h : s.Standing every) :
    (s.watch.rekeyed call.device).failing = s.failing call.device := by
  unfold VramWatch.rekeyed failing
  by_cases hsame : s.watch.state.device = some call.device
  · obtain ⟨last, earlier, hreadings, -, -, hfailing, -⟩ := h.own _ hsame
    simp [hsame, hreadings, hfailing]
  · simp [hsame, h.other _ hsame]

theorem Standing.finished_le (h : s.Standing every) {device : Device} {reading : Reading Device}
    (hmem : reading ∈ s.readings device) : reading.finished ≤ s.now := by
  by_cases hsame : s.watch.state.device = some device
  · obtain ⟨last, earlier, hreadings, -, -, -, hlast, hearlier⟩ := h.own _ hsame
    rw [hreadings] at hmem
    cases List.mem_cons.mp hmem with
    | inl heq => exact heq ▸ hlast
    | inr hmem => exact (hearlier _ hmem).trans hlast
  · rw [h.other _ hsame] at hmem
    cases hmem

/-- The last reading of a run is the latest. -/
theorem Standing.finished_le_last (h : s.Standing every) {device : Device}
    {reading last : Reading Device} (hmem : reading ∈ s.readings device)
    (hlast : last ∈ (s.readings device).head?) : reading.finished ≤ last.finished := by
  by_cases hsame : s.watch.state.device = some device
  · obtain ⟨_, earlier, hreadings, -, -, -, -, hearlier⟩ := h.own _ hsame
    rw [hreadings] at hmem hlast
    cases hlast
    cases List.mem_cons.mp hmem with
    | inl heq => exact Nat.le_of_eq (congrArg Reading.finished heq)
    | inr hmem => exact hearlier _ hmem
  · rw [h.other _ hsame] at hmem
    cases hmem

theorem Standing.start (label : String) : (start label every : WatchLog Device).Standing every where
  interval := rfl
  other _ _ := rfl
  own _ h := by cases h

theorem Standing.after (h : s.Standing every) (hnext : s.Next call) :
    (s.after call).Standing every := by
  obtain ⟨hasked, hanswered, budget, hquery⟩ := hnext
  cases hcached : s.watch.cached call.device call.asked with
  | true =>
      have hwatch : (s.after call).watch = s.watch :=
        congrArg WatchResult.watch (VramWatch.budgetWith_cached hcached)
      have hnone : call.reading s.watch = none := WatchCall.reading_cached hcached
      obtain ⟨hdevice, -⟩ := VramWatch.cached_eq_true.mp hcached
      refine ⟨hwatch ▸ h.interval, fun device hother => ?_, fun device hsame => ?_⟩
      · rw [hwatch, hdevice] at hother
        rw [readings_after, if_neg fun heq => hother (congrArg some heq)]
      · rw [hwatch, hdevice] at hsame
        cases hsame
        obtain ⟨last, earlier, hreadings, hbudget, hread, hfailing, hlast, hearlier⟩ :=
          h.own _ hdevice
        rw [hwatch, readings_after, if_pos rfl, hnone]
        exact ⟨last, earlier, hreadings, hbudget, hread, hfailing,
          hlast.trans (hasked.trans hanswered), hearlier⟩
  | false =>
      obtain ⟨-, -, hevery, hdevice, hbudget, hread⟩ :=
        VramWatch.budgetWith_returned hcached hquery
      have hfailing := (VramWatch.budgetWith_announced hcached hquery).2
      have hreading : call.reading s.watch = some ⟨call.device, budget, call.answered⟩ :=
        WatchCall.reading_returned hcached hquery
      refine ⟨hevery.trans h.interval, fun device hother => ?_, fun device hsame => ?_⟩
      · rw [readings_after, if_neg fun heq => hother (hdevice.trans (congrArg some heq))]
      · cases hdevice.symm.trans hsame
        rw [readings_after, if_pos rfl, hreading]
        refine ⟨_, _, rfl, hbudget, hread, hfailing, Nat.le_refl _, fun reading hmem => ?_⟩
        exact (h.finished_le hmem).trans (hasked.trans hanswered)

/-- The queries of a run are at least the interval apart. -/
theorem Standing.apart (h : s.Standing every) (hnext : s.Next call) {reading : Reading Device}
    (hreading : call.reading s.watch = some reading) {earlier : Reading Device}
    (hmem : earlier ∈ s.readings call.device) : earlier.finished + every ≤ call.asked := by
  have hcached : s.watch.cached call.device call.asked = false := by
    by_contra hhit
    rw [WatchCall.reading_cached (by simpa using hhit)] at hreading
    cases hreading
  have hpast : earlier.finished ≤ call.asked := (h.finished_le hmem).trans hnext.1
  cases hhead : (s.readings call.device).head? with
  | none =>
      rw [List.head?_eq_none_iff.mp hhead] at hmem
      cases hmem
  | some last =>
      have hage := h.reads_iff.mp hcached last hhead
      have hlatest := h.finished_le_last hmem hhead
      omega

/-- A call that reads announces by the last reading of its run. -/
theorem Standing.notice (h : s.Standing every) (hnext : s.Next call) :
    (s.event call).notice = (call.reading s.watch).bind fun reading =>
      VramWatch.announced (s.failing call.device) reading.budget := by
  obtain ⟨-, -, budget, hquery⟩ := hnext
  cases hcached : s.watch.cached call.device call.asked with
  | true =>
      rw [event, VramWatch.budgetWith_cached hcached, WatchCall.reading_cached hcached]
      rfl
  | false =>
      have hreading : call.reading s.watch = some ⟨call.device, budget, call.answered⟩ :=
        WatchCall.reading_returned hcached hquery
      rw [hreading, ← h.rekeyed_failing]
      exact (VramWatch.budgetWith_announced hcached hquery).1

end WatchLog

variable [DecidableEq Device]

def WatchLogStart (every : Nat) (s : WatchLog Device) : Prop := ∃ label, s = .start label every

def WatchLogStep (s s' : WatchLog Device) : Prop := ∃ call, s.Next call ∧ s' = s.after call

/-- Without a reading, a call is the same whatever its query would have done. -/
theorem WatchLog.unqueried {s : WatchLog Device} {call : WatchCall Device} (hnext : s.Next call)
    (hnone : call.reading s.watch = none) (query : QueryOutcome) :
    s.watch.budgetWith { call with query } = s.watch.budgetWith call := by
  obtain ⟨-, -, budget, hquery⟩ := hnext
  have hcached : s.watch.cached call.device call.asked = true := by
    by_contra hmiss
    rw [WatchCall.reading_returned (by simpa using hmiss) hquery] at hnone
    cases hnone
  rw [VramWatch.budgetWith_cached hcached]
  exact @VramWatch.budgetWith_cached _ _ s.watch { call with query } hcached

/-- After any calls, the next one queries no earlier than the interval after every query of
its run, and does so if its run has no reading as young; it announces a failure exactly at
a failed reading that no failed one of its run precedes, and a recovery exactly at a
successful reading that follows a failed one. A reading is what a query that was run has
returned, and a call that makes none would be the same with any other query. -/
theorem watch_queries_and_announces {every : Nat} {s : WatchLog Device}
    (hs : Reachable (WatchLogStart every) WatchLogStep s) {call : WatchCall Device}
    (hnext : s.Next call) :
    (∀ reading, call.reading s.watch = some reading →
      ∀ earlier ∈ s.readings call.device, earlier.finished + every ≤ call.asked) ∧
    ((s.event call).notice = some .noBudget ↔
      (∃ reading, call.reading s.watch = some reading ∧ reading.budget = none) ∧
      ∀ last ∈ (s.readings call.device).head?, last.budget ≠ none) ∧
    (∀ bytes, (s.event call).notice = some (.recovered bytes) ↔
      (∃ reading, call.reading s.watch = some reading ∧ reading.budget = some bytes) ∧
      ∃ last ∈ (s.readings call.device).head?, last.budget = none) ∧
    ((∀ last ∈ (s.readings call.device).head?, last.finished + every ≤ call.asked) →
      ∃ reading, call.reading s.watch = some reading) ∧
    ((s.watch.budgetWith call).queried = true ↔
      ∃ reading, call.reading s.watch = some reading) ∧
    (call.reading s.watch = none → ∀ query : QueryOutcome,
      s.watch.budgetWith { call with query } = s.watch.budgetWith call) := by
  have standing : s.Standing every := by
    refine hs.invariant (I := fun s => s.Standing every) ?_ ?_
    · rintro s ⟨label, rfl⟩
      exact .start label
    · rintro s s' standing ⟨call, hnext, rfl⟩
      exact standing.after hnext
  refine ⟨fun reading hreading earlier => standing.apart hnext hreading, ?_, fun bytes => ?_, ?_,
    ?_, fun hnone => WatchLog.unqueried hnext hnone⟩
  · rw [standing.notice hnext, ← WatchLog.failing_eq_false]
    simp only [Option.bind_eq_some_iff, VramWatch.announced_noBudget, ← and_assoc,
      exists_and_right]
  · rw [standing.notice hnext, ← WatchLog.failing_eq_true]
    simp only [Option.bind_eq_some_iff, VramWatch.announced_recovered, ← and_assoc,
      exists_and_right]
  · intro hold
    obtain ⟨-, -, budget, hquery⟩ := hnext
    have hcached : s.watch.cached call.device call.asked = false :=
      standing.reads_iff.mpr fun last hlast => Nat.le_sub_of_add_le' (hold last hlast)
    exact ⟨_, WatchCall.reading_returned hcached hquery⟩
  · obtain ⟨-, -, budget, hquery⟩ := hnext
    rw [WatchCall.reading, hquery]
    cases (s.watch.budgetWith call).queried <;> simp

/-! A failed reading, and the one after the interval. -/

def failedCall : WatchCall Nat := ⟨0, 0, .returned none, 1⟩

def failedOnce : WatchLog Nat := (WatchLog.start "pool" 10).after failedCall

theorem watch_queries_and_announces_recovery :
    Reachable (WatchLogStart 10) WatchLogStep failedOnce ∧
      failedOnce.Next ⟨0, 11, .returned (some 5), 12⟩ ∧
      (failedOnce.watch.budgetWith ⟨0, 11, .returned (some 5), 12⟩).queried = true ∧
      (failedOnce.event ⟨0, 11, .returned (some 5), 12⟩).notice = some (.recovered 5) := by
  have fresh : Reachable (WatchLogStart 10) WatchLogStep (.start "pool" 10 : WatchLog Nat) :=
    .start ⟨"pool", rfl⟩
  have failed : Reachable (WatchLogStart 10) WatchLogStep failedOnce :=
    fresh.next ⟨failedCall, ⟨by decide, by decide, none, rfl⟩, rfl⟩
  have hnext : failedOnce.Next ⟨0, 11, .returned (some 5), 12⟩ :=
    ⟨by decide, by decide, some 5, rfl⟩
  obtain ⟨-, -, recovered, -, queried, -⟩ := watch_queries_and_announces failed hnext
  refine ⟨failed, hnext, queried.mpr ⟨⟨0, some 5, 12⟩, rfl⟩, (recovered 5).mpr ?_⟩
  exact ⟨⟨⟨0, some 5, 12⟩, rfl, rfl⟩, ⟨0, none, 1⟩, rfl, rfl⟩

end GpuInfo
