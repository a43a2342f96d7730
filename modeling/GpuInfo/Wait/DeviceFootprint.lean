import GpuInfo.Wait.HostFrame

/-!
What any code of the queue leaves as it was, wherever it starts: a loss stays, signals are
only added, every recorded failure is a dropped callback or a rejected scope, and command
buffers reach the device queue only where they are submitted.
-/

namespace GpuInfo
open StateProgram

/-- The failures that callbacks and scopes record. -/
structure Device.Plain (d : Device) : Prop where
  signals : ∀ {signal error}, d.signals signal = some (.error error) → error = .dropped
  scopes : ∀ {scope error}, d.outcome scope = some (.error error) →
    ∃ message, error = .submitRejected message

/-- What code that passes at most these command buffers may do. -/
structure Device.Footprint (commands : List CommandBuffer) (d d' : Device) : Prop where
  loss : ∀ {reason}, d.loss = some reason → d'.loss = some reason
  nextSignal : d.nextSignal ≤ d'.nextSignal
  plain : d.Plain → d'.Plain
  passed : commands = [] → d'.passed = d.passed

def Footprint (commands : List CommandBuffer) (w w' : World) : Prop :=
  w.device.Footprint commands w'.device

variable {commands : List CommandBuffer}

theorem Device.Footprint.refl (d : Device) : d.Footprint commands d :=
  ⟨id, le_rfl, id, fun _ => rfl⟩

theorem Device.Footprint.trans {d d' d'' : Device} (h : d.Footprint commands d')
    (h' : d'.Footprint commands d'') : d.Footprint commands d'' where
  loss hloss := h'.loss (h.loss hloss)
  nextSignal := h.nextSignal.trans h'.nextSignal
  plain hplain := h'.plain (h.plain hplain)
  passed hnone := (h'.passed hnone).trans (h.passed hnone)

instance : IsPreorder World (Footprint commands) where
  refl w := .refl w.device
  trans _ _ _ := .trans

namespace Device.Footprint
variable (d : Device)

theorem setScope (scope : ScopeId) (state : ValidationState)
    (rejected : ∀ error, state.outcome = some (.error error) →
      ∃ message, error = .submitRejected message) :
    d.Footprint commands (d.setScope scope state) where
  loss := id
  nextSignal := le_rfl
  plain h := by
    refine ⟨h.signals, fun {scope' error} herror => ?_⟩
    rw [outcome_setScope] at herror
    split at herror
    · exact rejected error herror
    · exact h.scopes herror
  passed _ := rfl

theorem finish (signal : SignalId) (result : Outcome)
    (dropped : ∀ error, result = .error error → error = .dropped) :
    d.Footprint commands (d.finish signal result) := by
  unfold Device.finish
  split
  · exact .refl d
  · refine ⟨id, le_rfl, fun h => ⟨fun {signal' error} herror => ?_, h.scopes⟩, fun _ => rfl⟩
    simp only [Function.update_apply] at herror
    split at herror
    · exact dropped error (Option.some.inj herror)
    · exact h.signals herror

theorem act (act : EnvAct) : d.Footprint commands (act.apply d) := by
  cases act with
  | retire =>
      simp only [EnvAct.apply]
      split
      · exact ⟨id, le_rfl, fun h => ⟨h.signals, h.scopes⟩, fun _ => rfl⟩
      · exact .refl d
  | submitElsewhere => exact ⟨id, le_rfl, fun h => ⟨h.signals, h.scopes⟩, fun _ => rfl⟩
  | runCallback signal =>
      simp only [EnvAct.apply]
      split
      · split
        · exact .finish d signal _ (by simp)
        · exact .refl d
      · exact .refl d
  | dropCallback signal =>
      simp only [EnvAct.apply]
      split
      · exact .finish d signal _ (by simp)
      · exact .refl d
  | takeFuture scope =>
      simp only [EnvAct.apply]
      split
      · exact .setScope d scope _ (by simp)
      · exact .refl d
  | storeAnswer scope answer =>
      simp only [EnvAct.apply]
      split
      · exact .setScope d scope _ fun _ => FutureAnswer.rejected
      · exact .refl d
  | markLost reason =>
      simp only [EnvAct.apply, Device.markLost]
      split
      · exact .refl d
      · rename_i hnone
        exact ⟨fun h => by simp [hnone] at h, le_rfl, fun h => ⟨h.signals, h.scopes⟩,
          fun _ => rfl⟩

theorem send (signal : SignalId) : d.Footprint commands (d.send signal commands) :=
  ⟨id, le_rfl, fun h => ⟨h.signals, h.scopes⟩, fun hnone => by simp [Device.send, hnone]⟩

end Device.Footprint

/-! Looking and noting -/

theorem tick_keeps : Keeps (Footprint commands) tick := by
  intro w
  show w.device.Footprint commands ((w.schedule w.clock).acts.foldl EnvAct.apply w.device)
  generalize (w.schedule w.clock).acts = acts
  generalize w.device = d
  induction acts generalizing d with
  | nil => exact .refl d
  | cons act acts ih => exact (Device.Footprint.act d act).trans (ih _)

theorem change_keeps {f : Device → Device} (h : ∀ d : Device, d.Footprint commands (f d)) :
    Keeps (Footprint commands) (change f) := fun w => h w.device

theorem Footprint.looks : Looks (Footprint commands) where
  tick := tick_keeps
  note _ w := .refl w.device
  setScope scope _ rejected := change_keeps fun d => .setScope d scope _ rejected
  newSignal := by
    refine Keeps.get fun w => (change_keeps fun d => ?_).bind fun _ => Keeps.pure _
    exact ⟨id, Nat.le_succ _, fun h => ⟨h.signals, h.scopes⟩, fun _ => rfl⟩
  newLease := by
    refine Keeps.get fun w => (change_keeps fun d => ?_).bind fun _ => Keeps.pure _
    exact ⟨id, le_rfl, fun h => ⟨h.signals, h.scopes⟩, fun _ => rfl⟩
  polled := change_keeps fun _ => ⟨id, le_rfl, fun h => ⟨h.signals, h.scopes⟩, fun _ => rfl⟩

theorem submitTo_keeps (signal : SignalId) :
    Keeps (Footprint commands) (submitTo signal commands) := by
  have finished : ∀ d : Device, d.Footprint commands (d.finish signal (.error .dropped)) :=
    fun d => .finish d signal _ (by simp)
  refine tick_keeps.bind fun _ => ?_
  split
  · exact (change_keeps finished).bind fun _ => Keeps.pure _
  · refine (change_keeps fun d => ?_).bind fun _ => Keeps.pure _
    exact (Device.Footprint.send d signal).trans (finished _)
  · refine (change_keeps fun d => .send d signal).bind fun _ => tick_keeps.bind fun _ => ?_
    exact (change_keeps finished).bind fun _ => Keeps.pure _
  · refine (change_keeps fun d => .send d signal).bind fun _ => tick_keeps.bind fun _ => ?_
    refine (change_keeps fun d => ?_).bind fun _ => Keeps.pure _
    exact ⟨id, le_rfl, fun h => ⟨h.signals, h.scopes⟩, fun _ => rfl⟩

theorem submitChecked_keeps (signal : SignalId) :
    Keeps (Footprint commands) (submitChecked signal commands) := by
  refine (Footprint.looks.checked _ (submitTo_keeps signal)).bind fun operation => ?_
  split
  · exact Keeps.pure _
  · refine (change_keeps fun d => ?_).bind fun _ => Keeps.pure _
    exact ⟨id, le_rfl, fun h => ⟨h.signals, h.scopes⟩, fun _ => rfl⟩

theorem submitFor_keeps (observer : Submission) :
    Keeps (Footprint commands) (WorkQueue.submitFor observer commands) := by
  refine (submitChecked_keeps _).bind fun result => ?_
  split <;> exact Keeps.pure _

/-- What the queue does of its own accord passes nothing on. -/
theorem Footprint.frame : Frame (Footprint []) :=
  { Footprint.looks with fence := submitChecked_keeps }

theorem withFootprint {α : Type} {f : Host α} {w : World} {P : α → World → Prop}
    (h : Ensures f w P) (kept : Keeps (Footprint []) f) :
    Ensures f w fun a w' => P a w' ∧ Footprint [] w w' :=
  h.and (kept w)

end GpuInfo
