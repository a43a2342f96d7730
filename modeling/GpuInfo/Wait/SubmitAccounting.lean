import GpuInfo.Wait.SubmitStats
import Mathlib.Algebra.GroupWithZero.Nat
import Mathlib.Logic.Relation

/-!
The statistics are exact over every interleaving: a label's submissions are each in flight
until the one section that resolves them, whether the callback runs, is dropped or the
submission unwinds, and a signal keeps the first result.
-/

namespace GpuInfo
open Interleaving

/-- Whether a submission of this label is still to be resolved. -/
def NotifyTask.unresolved (label : String) : NotifyTask → Nat
  | .counted label' _ | .resolving label' _ _ _ _ => if label' = label then 1 else 0
  | .submitting notify | .submitted notify | .registered notify | .finishing notify _ _ =>
      match notify.timed with
      | some (label', _) => if label' = label then 1 else 0
      | none => 0
  | .settling _ _ _ => 0

theorem SubmitStats.label_new (label : String) : (new label).label = label := rfl

theorem SubmitStats.label_submitted (entry : SubmitStats) :
    entry.submitted.label = entry.label := rfl

theorem SubmitStats.label_resolved (took : Nat) (entry : SubmitStats) :
    (entry.resolved took).label = entry.label := rfl

theorem row_withStats {label : String} {change : SubmitStats → SubmitStats}
    (keeps : ∀ entry, (change entry).label = entry.label) (stats : List SubmitStats) (j : String) :
    KeyedTable.row SubmitStats.label .new j (withStats label change stats) =
      if j = label then change (KeyedTable.row SubmitStats.label .new label stats)
      else KeyedTable.row SubmitStats.label .new j stats := by
  by_cases h : j = label
  · rw [if_pos h, h]
    exact KeyedTable.row_update_self SubmitStats.label_new keeps stats
  · rw [if_neg h]
    exact KeyedTable.row_update_of_ne SubmitStats.label_new keeps h stats

namespace SubmitWorld

/-- The statistics of a label; empty before its first submission. -/
def entry (s : SubmitWorld) (label : String) : SubmitStats :=
  KeyedTable.row SubmitStats.label SubmitStats.new label s.stats

/-- The times of a label's resolved submissions. -/
def times (s : SubmitWorld) (label : String) : List Nat :=
  (s.resolved.filter fun time => time.1 = label).map Prod.snd

/-- The first result that was to be recorded for a signal. -/
def first (s : SubmitWorld) (signal : SignalId) : Option Outcome :=
  ((s.offered.filter fun result => result.1 = signal).getLast?).map Prod.snd

/-- What the statistics say of a label is what happened. -/
structure Counted (s : SubmitWorld) (label : String) : Prop where
  count : (s.entry label).count = s.started.count label
  inFlight : (s.entry label).inFlight + (s.times label).length = s.started.count label
  total : (s.entry label).total = (s.times label).sum
  max : (s.entry label).max = (s.times label).foldr Nat.max 0

variable {s : SubmitWorld} {label : String} {took : Nat}

theorem entry_start (j : String) : (s.start label).entry j =
    if j = label then (s.entry label).submitted else s.entry j :=
  row_withStats SubmitStats.label_submitted s.stats j

theorem entry_resolve (j : String) : (s.resolve label took).entry j =
    if j = label then (s.entry label).resolved took else s.entry j :=
  row_withStats (SubmitStats.label_resolved took) s.stats j

theorem times_resolve (j : String) : (s.resolve label took).times j =
    if label = j then took :: s.times j else s.times j := by
  by_cases h : label = j <;> simp [times, resolve, h]

/-- What a step leaves of a label's entry, times and submissions, it leaves counted. -/
theorem Counted.congr {s' : SubmitWorld} {j : String} (h : s.Counted j)
    (hentry : s'.entry j = s.entry j) (htimes : s'.times j = s.times j)
    (hstarted : s'.started.count j = s.started.count j) : s'.Counted j := by
  obtain ⟨hcount, hflight, htotal, hmax⟩ := h
  rw [← hentry, ← hstarted] at hcount
  rw [← hentry, ← htimes, ← hstarted] at hflight
  rw [← hentry, ← htimes] at htotal hmax
  exact ⟨hcount, hflight, htotal, hmax⟩

theorem Counted.start (h : ∀ label, s.Counted label) (j : String) : (s.start label).Counted j := by
  obtain ⟨hcount, hflight, htotal, hmax⟩ := h j
  by_cases hj : j = label
  · subst hj
    have hentry : (s.start j).entry j = (s.entry j).submitted := by rw [entry_start, if_pos rfl]
    refine ⟨?_, ?_, ?_, ?_⟩
    all_goals rw [hentry]
    · simp [SubmitStats.submitted, SubmitWorld.start, hcount]
    · show (s.entry j).inFlight + 1 + (s.times j).length = (j :: s.started).count j
      rw [List.count_cons_self, ← hflight]
      omega
    · exact htotal
    · exact hmax
  · refine (h j).congr ?_ rfl ?_
    · rw [entry_start, if_neg hj]
    · exact List.count_cons_of_ne (Ne.symm hj)

/-- One submission of the label is resolved, of one or more in flight. -/
theorem Counted.resolve (h : ∀ label, s.Counted label) (flying : 0 < (s.entry label).inFlight)
    (j : String) : (s.resolve label took).Counted j := by
  obtain ⟨hcount, hflight, htotal, hmax⟩ := h j
  by_cases hj : j = label
  · subst hj
    have hentry : (s.resolve j took).entry j = (s.entry j).resolved took := by
      rw [entry_resolve, if_pos rfl]
    have htimes : (s.resolve j took).times j = took :: s.times j := by
      rw [times_resolve, if_pos rfl]
    refine ⟨?_, ?_, ?_, ?_⟩
    all_goals rw [hentry]
    · exact hcount
    · rw [htimes, List.length_cons]
      show (s.entry j).inFlight - 1 + ((s.times j).length + 1) = s.started.count j
      omega
    · rw [htimes, List.sum_cons, ← htotal]
      exact Nat.add_comm _ _
    · rw [htimes, List.foldr_cons, ← hmax]
      exact Nat.max_comm _ _
  · refine (h j).congr ?_ ?_ rfl
    · rw [entry_resolve, if_neg hj]
    · rw [times_resolve, if_neg (Ne.symm hj)]

/-- The labels of the statistics are distinct, and those of the submissions. -/
structure Labelled (s : SubmitWorld) : Prop where
  distinct : (s.stats.map SubmitStats.label).Nodup
  used : ∀ label, label ∈ s.stats.map SubmitStats.label ↔ label ∈ s.started

theorem Labelled.start (h : s.Labelled) : (s.start label).Labelled where
  distinct := KeyedTable.nodup_update SubmitStats.label_new SubmitStats.label_submitted h.distinct
  used j := by
    refine (KeyedTable.mem_keys_update SubmitStats.label_new SubmitStats.label_submitted).trans ?_
    rw [h.used]
    exact List.mem_cons.symm

theorem Labelled.resolve (h : s.Labelled) (hused : label ∈ s.started) :
    (s.resolve label took).Labelled where
  distinct :=
    KeyedTable.nodup_update SubmitStats.label_new (SubmitStats.label_resolved took) h.distinct
  used j := by
    refine (KeyedTable.mem_keys_update SubmitStats.label_new
      (SubmitStats.label_resolved took)).trans ?_
    rw [h.used]
    exact ⟨fun hj => hj.elim (fun heq => heq ▸ hused) id, .inr⟩

theorem signals_settle {signal j : SignalId} {result : Outcome} :
    (s.settle signal result).signals j =
      (s.signals j).or (if signal = j then some result else none) := by
  unfold settle
  cases hfound : s.signals signal with
  | some outcome =>
      by_cases h : signal = j
      · subst h
        simp [hfound]
      · simp [h]
  | none =>
      by_cases h : signal = j
      · subst h
        simp [hfound]
      · simp [h, Function.update_of_ne (Ne.symm h)]

theorem first_settle {signal j : SignalId} {result : Outcome} :
    (s.settle signal result).first j =
      (s.first j).or (if signal = j then some result else none) := by
  unfold first settle
  by_cases h : signal = j
  · cases hlast : (s.offered.filter fun result => result.1 = j).getLast? <;>
      simp [h, List.getLast?_cons, hlast]
  · simp [h]

end SubmitWorld

/-- Every submission started is resolved or still to be. -/
theorem submitRule_unresolved (label : String) (s : SubmitWorld) (taken : Multiset NotifyTask)
    (s' : SubmitWorld) (left : Multiset NotifyTask) (h : SubmitRule s taken s' left) :
    (s'.times label).length + (left.map (NotifyTask.unresolved label)).sum +
        s.started.count label =
      (s.times label).length + (taken.map (NotifyTask.unresolved label)).sum +
        s'.started.count label := by
  cases h with
  | pass | build | unwindBefore | submit | unwindAfter | register | mapAsync _ | runCallback _
  | dropCallback | untimed | measure => rfl
  | start j signal =>
      have hleft : NotifyTask.unresolved label (.counted j signal) =
          if j = label then 1 else 0 := rfl
      have hstarted : (s.start j).started.count label =
          s.started.count label + if j = label then 1 else 0 := by
        rw [SubmitWorld.start, List.count_cons]
        simp
      rw [Multiset.map_singleton, Multiset.sum_singleton, hleft, hstarted]
      show (s.times label).length + _ + _ = (s.times label).length + 0 + _
      omega
  | @resolve _ j took signal result drops =>
      have htaken : NotifyTask.unresolved label (.resolving j took signal result drops) =
          if j = label then 1 else 0 := rfl
      have htimes : ((s.resolve j took).times label).length =
          (s.times label).length + if j = label then 1 else 0 := by
        rw [SubmitWorld.times_resolve]
        by_cases hj : j = label <;> simp [hj]
      rw [Multiset.map_singleton, Multiset.sum_singleton, Multiset.map_singleton,
        Multiset.sum_singleton, htaken, htimes]
      rfl
  | @settle _ signal result drops => cases drops <;> rfl

/-- What the rules keep: the books of each label, and the first result of each signal. -/
structure SubmitConfig.Exact (c : SubmitConfig) : Prop where
  labelled : c.shared.Labelled
  counted : ∀ label, c.shared.Counted label
  unresolved : ∀ label, (c.shared.times label).length + c.held (NotifyTask.unresolved label) =
    c.shared.started.count label
  first : ∀ signal, c.shared.signals signal = c.shared.first signal

theorem SubmitConfig.Exact.inFlight {c : SubmitConfig} (h : c.Exact) (label : String) :
    (c.shared.entry label).inFlight = c.held (NotifyTask.unresolved label) := by
  have hcount := (h.counted label).inFlight
  have hheld := h.unresolved label
  omega

/-- A submission about to be resolved is in flight. -/
theorem SubmitConfig.Exact.flying {c : SubmitConfig} (h : c.Exact) {label : String} {took : Nat}
    {signal : SignalId} {result : Outcome} {drops : Bool}
    (hrunning : .resolving label took signal result drops ∈ c.running) :
    0 < (c.shared.entry label).inFlight := by
  have hone : NotifyTask.unresolved label (.resolving label took signal result drops) = 1 :=
    if_pos rfl
  have hle := Config.le_held (f := NotifyTask.unresolved label) hrunning
  rw [h.inFlight]
  omega

theorem SubmitConfig.Exact.used {c : SubmitConfig} (h : c.Exact) {label : String}
    (flying : 0 < (c.shared.entry label).inFlight) : label ∈ c.shared.started := by
  have hcount := (h.counted label).inFlight
  exact List.count_pos_iff.mp (by omega)

theorem SubmitConfig.Exact.step {c c' : SubmitConfig} (h : c.Exact) (step : SubmitStep c c') :
    c'.Exact := by
  have unresolved : ∀ label, (c'.shared.times label).length +
      c'.held (NotifyTask.unresolved label) = c'.shared.started.count label := fun label =>
    step.balances (J := fun _ _ => True)
      (fun s taken s' left hr _ => submitRule_unresolved label s taken s' left hr)
      (fun _ _ => trivial) (h.unresolved label)
  obtain ⟨rest, hr⟩ := step
  rename_i s s' taken left
  cases hr with
  | build | unwindBefore | submit | unwindAfter | register | mapAsync _ | runCallback _
  | dropCallback | untimed | measure => exact ⟨h.labelled, h.counted, unresolved, h.first⟩
  | pass elapsed =>
      refine ⟨⟨h.labelled.distinct, h.labelled.used⟩, fun label => ?_, unresolved, h.first⟩
      exact (h.counted label).congr rfl rfl rfl
  | start label signal =>
      exact ⟨h.labelled.start, SubmitWorld.Counted.start h.counted, unresolved, h.first⟩
  | @resolve _ label took signal result drops =>
      have flying : 0 < (s.entry label).inFlight :=
        h.flying (Multiset.mem_add.mpr (.inl (Multiset.mem_singleton_self _)))
      exact ⟨h.labelled.resolve (h.used flying), SubmitWorld.Counted.resolve h.counted flying,
        unresolved, h.first⟩
  | settle =>
      refine ⟨⟨h.labelled.distinct, h.labelled.used⟩, fun label => ?_, unresolved, fun j => ?_⟩
      · exact (h.counted label).congr rfl rfl rfl
      · rw [SubmitWorld.signals_settle, SubmitWorld.first_settle]
        exact congrArg (Option.or · _) (h.first j)

theorem submit_exact {c : SubmitConfig} (hc : Reachable SubmitStart SubmitStep c) : c.Exact := by
  refine hc.invariant (I := SubmitConfig.Exact) ?_ fun c c' h step => h.step step
  rintro c rfl
  exact ⟨⟨List.nodup_nil, fun label => Iff.rfl⟩, fun label => ⟨rfl, rfl, rfl, rfl⟩,
    fun label => rfl, fun signal => rfl⟩

/-- A recorded outcome outlives every step. -/
theorem submitStep_signals {c c' : SubmitConfig} {signal : SignalId} {outcome : Outcome}
    (h : c.shared.signals signal = some outcome) (step : SubmitStep c c') :
    c'.shared.signals signal = some outcome := by
  obtain ⟨rest, hr⟩ := step
  cases hr with
  | settle => rw [SubmitWorld.signals_settle, h, Option.some_or]
  | _ => exact h

theorem submit_signals {c c' : SubmitConfig} {signal : SignalId} {outcome : Outcome}
    (h : c.shared.signals signal = some outcome) (steps : Relation.ReflTransGen SubmitStep c c') :
    c'.shared.signals signal = some outcome := by
  induction steps with
  | refl => exact h
  | tail _ step ih => exact submitStep_signals ih step

/-- In every state of every interleaving each label used has one entry, which counts the
label's submissions, those among them that are not resolved yet, and the times of the
others; no submission is resolved that is not in flight; a signal holds the first result
recorded for it, and holds it in every later state. -/
theorem submit_stats_exact {c : SubmitConfig} (hc : Reachable SubmitStart SubmitStep c) :
    (c.shared.stats.map SubmitStats.label).Nodup ∧
    (∀ label, label ∈ c.shared.stats.map SubmitStats.label ↔ label ∈ c.shared.started) ∧
    (∀ entry ∈ c.shared.stats,
      entry.count = c.shared.started.count entry.label ∧
      entry.inFlight = c.held (NotifyTask.unresolved entry.label) ∧
      entry.inFlight + (c.shared.times entry.label).length = entry.count ∧
      entry.total = (c.shared.times entry.label).sum ∧
      entry.max = (c.shared.times entry.label).foldr Nat.max 0) ∧
    (∀ label took signal result drops, .resolving label took signal result drops ∈ c.running →
      ∃ entry ∈ c.shared.stats, entry.label = label ∧ 0 < entry.inFlight) ∧
    (∀ signal, c.shared.signals signal = c.shared.first signal) ∧
    ∀ signal outcome c', c.shared.signals signal = some outcome →
      Relation.ReflTransGen SubmitStep c c' → c'.shared.signals signal = some outcome := by
  have exactly := submit_exact hc
  have hentry : ∀ entry ∈ c.shared.stats, c.shared.entry entry.label = entry :=
    fun entry => KeyedTable.row_of_mem exactly.labelled.distinct
  refine ⟨exactly.labelled.distinct, exactly.labelled.used, fun entry hmem => ?_,
    fun label took signal result drops hrunning => ?_, exactly.first,
    fun signal outcome c' => submit_signals⟩
  · have hin := exactly.inFlight entry.label
    obtain ⟨hcount, hflight, htotal, hmax⟩ := exactly.counted entry.label
    rw [hentry entry hmem] at hin hcount hflight htotal hmax
    exact ⟨hcount, hin, hflight.trans hcount.symm, htotal, hmax⟩
  · have flying := exactly.flying hrunning
    have hused := (exactly.labelled.used label).mpr (exactly.used flying)
    obtain ⟨entry, hmem, rfl⟩ := List.mem_map.mp hused
    rw [hentry entry hmem] at flying
    exact ⟨entry, hmem, rfl, flying⟩

/-! A submission whose callback wgpu runs five nanoseconds later. -/

theorem submit_stats_exact_one_submission :
    ∃ c : SubmitConfig, Reachable SubmitStart SubmitStep c ∧
      c.shared.stats = [⟨"frame", 1, 0, 5, 5⟩] ∧
      ∀ entry ∈ c.shared.stats,
        entry.count = c.shared.started.count entry.label ∧
        entry.inFlight = c.held (NotifyTask.unresolved entry.label) ∧
        entry.inFlight + (c.shared.times entry.label).length = entry.count ∧
        entry.total = (c.shared.times entry.label).sum ∧
        entry.max = (c.shared.times entry.label).foldr Nat.max 0 := by
  have empty : Reachable SubmitStart SubmitStep ⟨⟨0, [], fun _ => none, [], [], []⟩, 0⟩ :=
    .start rfl
  have started := empty.fire 0 (.start "frame" 0) rfl
  have built := started.fire 0 .build rfl
  have submitted := built.fire 0 .submit rfl
  have registered := submitted.fire 0 .register rfl
  have later := registered.fire _ (.pass 5) (zero_add _).symm
  have called := later.fire 0 (.runCallback (.submission "frame" 0)) rfl
  have measured := called.fire 0 .measure rfl
  have resolved := measured.fire 0 .resolve rfl
  exact ⟨_, resolved, rfl, (submit_stats_exact resolved).2.2.1⟩

end GpuInfo
