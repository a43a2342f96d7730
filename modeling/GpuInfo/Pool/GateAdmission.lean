import GpuInfo.Pool.Gate

/-!
What the gate guarantees over every interleaving: free and live permits always
add up to the size of the gate. And what it does not: a cancelled `enter_until`
can take a wakeup away with it, which leaves an `enter` asleep before a free
permit. That is the only way: while no cancellation loses a wakeup, some woken
caller stands for every permit that is free beside a sleeper.
-/

namespace GpuInfo
open MachineInteger Interleaving

/-! Exact counting -/

def Visitor.permits : Visitor → Nat
  | .admitted => 1
  | _ => 0

theorem Visitor.permits_of_waiter {visitor : Visitor} {waiter : Waiter}
    (h : visitor.waiter = some waiter) : visitor.permits = 0 := by
  cases visitor <;> first | rfl | cases h

theorem Waiter.permits_woken (waiter : Waiter) (notified : Bool) :
    (waiter.woken notified).permits = 0 := by
  cases waiter <;> rfl

theorem Gate.acquire_eq_some {free free' : Nat} (h : acquire free = some (.ok free')) :
    free = free' + 1 := by
  unfold acquire at h
  split at h
  · obtain ⟨hle, rfl⟩ := sub64_eq_ok.mp (Option.some.inj h)
    omega
  · cases h

theorem Gate.acquire_eq_none {free : Nat} : acquire free = none ↔ free = 0 := by
  simp [acquire]

theorem gateRule_permits (gate : Gate) (taken : Multiset Visitor) (gate' : Gate)
    (left : Multiset Visitor) (h : GateRule gate taken gate' left) :
    gate'.free + (left.map Visitor.permits).sum =
      gate.free + (taken.map Visitor.permits).sum := by
  have hadmitted : Visitor.permits .admitted = 1 := rfl
  cases h with
  | enter _ | enterUntil | keepWaiting | cancel => simp [Visitor.permits]
  | pass locks h =>
      have hnone := Visitor.permits_of_waiter locks
      have hfree := Gate.acquire_eq_some h
      simp [hnone, hadmitted, hfree]
  | wait locks _ =>
      have hnone := Visitor.permits_of_waiter locks
      simp [hnone]
  | rouse => simp [Waiter.permits_woken]
  | leave h =>
      obtain ⟨_, rfl⟩ := add64_eq_ok.mp h
      simp [Waiter.permits_woken, hadmitted]
  | leaveQuiet h =>
      obtain ⟨_, rfl⟩ := add64_eq_ok.mp h
      simp [hadmitted]

theorem gate_permits {permits : Nat} {c : GateConfig}
    (hc : Reachable (GateStart permits) GateStep c) :
    c.shared.free + c.held Visitor.permits = max 1 permits := by
  refine hc.invariant ?_ fun _ _ hs step => (step.conserves gateRule_permits).trans hs
  intro c hstart
  subst hstart
  simp only [Gate.new, Config.held, Multiset.map_zero, Multiset.sum_zero]
  split <;> omega

theorem held_permits (c : GateConfig) :
    c.held Visitor.permits = c.running.count .admitted := by
  unfold Config.held
  induction c.running using Multiset.induction_on with
  | empty => rfl
  | cons visitor rest ih =>
      have hone : visitor.permits = if Visitor.admitted = visitor then 1 else 0 := by
        cases visitor <;> rfl
      rw [Multiset.map_cons, Multiset.sum_cons, ih, Multiset.count_cons, hone, Nat.add_comm]

theorem gateRule_cancel {gate gate' : Gate} {visitor : Visitor}
    (h : GateRule gate {visitor} gate' 0) (asks : visitor.waiter = none)
    (outside : visitor ≠ .admitted) : gate' = gate := by
  generalize htaken : ({visitor} : Multiset Visitor) = taken at h
  generalize hleft : (0 : Multiset Visitor) = left at h
  cases h with
  | cancel => rfl
  | wait locks _ =>
      obtain rfl := Multiset.singleton_inj.mp htaken
      rw [asks] at locks
      cases locks
  | leaveQuiet _ => exact absurd (Multiset.singleton_inj.mp htaken) outside
  | enter _ | enterUntil | rouse => simp at htaken
  | keepWaiting | pass _ _ | leave _ => simp at hleft

/-- In every state of every interleaving the free permits and the live ones add
up to the size of the gate: no more are live, the counter neither underflows nor
outgrows the gate, and a caller that gives up leaves the gate as it was. -/
theorem gate_counts_exactly {permits : Nat} (hpermits : permits ≤ u64Max) {c : GateConfig}
    (hc : Reachable (GateStart permits) GateStep c) :
    c.shared.free + c.running.count .admitted = max 1 permits ∧
    c.running.count .admitted ≤ max 1 permits ∧
    c.shared.free ≤ max 1 permits ∧
    (∀ answer, Gate.acquire c.shared.free = some answer → ∃ free, answer = .ok free) ∧
    (.admitted ∈ c.running → ∃ free, Gate.giveBack c.shared.free = .ok free) ∧
    ∀ notified gate', GateRule c.shared {.asking notified} gate' 0 → gate' = c.shared := by
  have htotal := gate_permits hc
  rw [held_permits] at htotal
  refine ⟨htotal, by omega, by omega, ?_, ?_, ?_⟩
  · intro answer h
    unfold Gate.acquire at h
    split at h
    · exact ⟨_, (Option.some.inj h).symm.trans (sub64_of_le (by omega))⟩
    · cases h
  · intro hadmitted
    have hpos := Multiset.count_pos.mpr hadmitted
    have hroom : max 1 permits ≤ u64Max := max_le (by decide) hpermits
    exact ⟨_, add64_of_le (by omega)⟩
  · intro notified gate' h
    exact gateRule_cancel h rfl nofun

/-- A gate made for no permits admits one. -/
theorem gate_counts_exactly_first_permit :
    ∃ c : GateConfig, Reachable (GateStart 0) GateStep c ∧ .admitted ∈ c.running ∧
      c.shared.free + c.running.count .admitted = max 1 0 ∧
      c.running.count .admitted ≤ max 1 0 ∧
      ∃ free, Gate.giveBack c.shared.free = .ok free := by
  have hempty : Reachable (GateStart 0) GateStep ⟨Gate.new 0, 0⟩ := .start rfl
  have hentered : Reachable (GateStart 0) GateStep ⟨⟨1, 0⟩, {.arriving false}⟩ :=
    hempty.fire 0 (.enter false) rfl
  have hadmitted : Reachable (GateStart 0) GateStep ⟨⟨0, 0⟩, {.admitted}⟩ :=
    hentered.fire 0 (.pass rfl rfl) rfl
  have inside : Visitor.admitted ∈ ({.admitted} : Multiset Visitor) :=
    Multiset.mem_singleton_self _
  obtain ⟨balance, most, -, -, back, -⟩ := gate_counts_exactly (by decide) hadmitted
  exact ⟨_, hadmitted, inside, balance, most, back inside⟩

/-! Lost wakeups -/

/-- A permit is free and none is held, yet whoever is still inside sleeps in an
untimed wait with no wakeup delivered. -/
structure Stuck (c : GateConfig) : Prop where
  free : 0 < c.shared.free
  quiet : c.running = 0
  inside : c.shared.waiting ≠ 0
  asleep : ∀ waiter ∈ c.shared.waiting, ∃ owned, waiter = .asleep owned

/-- The wakeup that ended a caller's last wait, until the caller looks at `free`. -/
def Visitor.wakeups : Visitor → Nat
  | .awake _ true | .asking true | .approaching true => 1
  | _ => 0

def Gate.Sleeper (gate : Gate) : Prop := ∃ owned, .asleep owned ∈ gate.waiting

/-- `keep_waiting` answers false to a caller that a permit's drop has woken, while
another one sleeps untimed and the free permits are no fewer than the wakeups
delivered, this one included. -/
def LosesWakeup (c c' : GateConfig) : Prop :=
  c.running = .asking true ::ₘ c'.running ∧ c'.shared = c.shared ∧
    c.shared.Sleeper ∧ c.held Visitor.wakeups ≤ c.shared.free

/-- For each free permit beside a sleeper somebody is awake to take it. -/
def Covered (gate : Gate) (wakeups : Nat) : Prop := gate.Sleeper → gate.free ≤ wakeups

theorem Waiter.wakeups_woken (waiter : Waiter) :
    (waiter.woken true).wakeups = 1 ∧ (waiter.woken false).wakeups = 0 := by
  cases waiter <;> exact ⟨rfl, rfl⟩

theorem Visitor.wakeups_le_one (visitor : Visitor) : visitor.wakeups ≤ 1 := by
  unfold wakeups
  split <;> omega

theorem Gate.Sleeper.more {free free' : Nat} {waiter : Waiter} {waiting : Multiset Waiter}
    (h : Sleeper ⟨free, waiting⟩) : Sleeper ⟨free', waiter ::ₘ waiting⟩ := by
  obtain ⟨owned, hmem⟩ := h
  exact ⟨owned, Multiset.mem_cons_of_mem hmem⟩

/-- One step keeps the cover, unless it is the one that loses a wakeup. -/
theorem gateRule_covered (gate : Gate) (taken : Multiset Visitor) (gate' : Gate)
    (left : Multiset Visitor) (h : GateRule gate taken gate' left) (others : Nat)
    (covered : Covered gate ((taken.map Visitor.wakeups).sum + others))
    (kept : taken = {.asking true} → left = 0 → gate' = gate → gate.Sleeper →
      gate.free < 1 + others) :
    Covered gate' ((left.map Visitor.wakeups).sum + others) := by
  intro sleeper
  cases h with
  | enter _ | enterUntil => simpa [Visitor.wakeups] using covered sleeper
  | keepWaiting =>
      rename_i notified
      cases notified <;> simpa [Visitor.wakeups] using covered sleeper
  | cancel =>
      rename_i notified
      cases notified with
      | false => simpa [Visitor.wakeups] using covered sleeper
      | true =>
          have := kept rfl rfl rfl sleeper
          simp only [Multiset.map_zero, Multiset.sum_zero]
          omega
  | pass locks h =>
      rename_i visitor _ _
      have hfree := Gate.acquire_eq_some h
      have hcovered := covered sleeper
      have hone := visitor.wakeups_le_one
      simp only [Multiset.map_singleton, Multiset.sum_singleton] at hcovered ⊢
      show _ ≤ 0 + others
      omega
  | wait _ h =>
      have hfree := Gate.acquire_eq_none.mp h
      show gate.free ≤ _
      omega
  | rouse =>
      rename_i waiter _
      simpa [waiter.wakeups_woken.2] using covered sleeper.more
  | leave h =>
      rename_i waiter _
      obtain ⟨_, rfl⟩ := add64_eq_ok.mp h
      have hcovered := covered sleeper.more
      have hadmitted : Visitor.wakeups .admitted = 0 := rfl
      simp only [Multiset.map_singleton, Multiset.sum_singleton, hadmitted,
        waiter.wakeups_woken.1] at hcovered ⊢
      omega
  | leaveQuiet _ =>
      obtain ⟨_, hmem⟩ := sleeper
      exact absurd hmem (Multiset.notMem_zero _)

theorem Step.covered {c c' : GateConfig} (step : GateStep c c') (kept : ¬ LosesWakeup c c')
    (hc : Covered c.shared (c.held Visitor.wakeups)) :
    Covered c'.shared (c'.held Visitor.wakeups) := by
  obtain ⟨rest, h⟩ := step
  simp only [Config.held, Multiset.map_add, Multiset.sum_add] at hc ⊢
  refine gateRule_covered _ _ _ _ h _ hc ?_
  intro htaken hshared hleft sleeper
  subst htaken hshared hleft
  by_contra hfew
  refine kept ⟨by simp, rfl, sleeper, ?_⟩
  simpa [Config.held, Visitor.wakeups] using hfew

/-- No run gets stuck in which no cancellation loses a wakeup. -/
theorem gate_never_stuck {permits : Nat} {c : GateConfig}
    (hc : Reachable (GateStart permits)
      (fun c c' => GateStep c c' ∧ ¬ LosesWakeup c c') c) : ¬ Stuck c := by
  have hcovered : Covered c.shared (c.held Visitor.wakeups) := by
    refine hc.invariant (I := fun c => Covered c.shared (c.held Visitor.wakeups)) ?_ ?_
    · intro c hstart hstuck
      subst hstart
      obtain ⟨_, hmem⟩ := hstuck
      exact absurd hmem (Multiset.notMem_zero _)
    · intro c c' hs hstep
      obtain ⟨step, kept⟩ := hstep
      exact Step.covered step kept hs
  intro stuck
  obtain ⟨waiter, hmem⟩ := Multiset.exists_mem_of_ne_zero stuck.inside
  obtain ⟨owned, rfl⟩ := stuck.asleep waiter hmem
  have hfree := hcovered ⟨owned, hmem⟩
  have hpos := stuck.free
  simp only [Config.held, stuck.quiet, Multiset.map_zero, Multiset.sum_zero] at hfree
  omega

/-- A gate of one whose permit comes back: the wakeup goes to the timed waiter,
not to the caller asleep beside it. -/
theorem wakeup_goes_to_the_timed_waiter :
    Reachable (GateStart 1) (fun c c' => GateStep c c' ∧ ¬ LosesWakeup c c')
      ⟨⟨1, {.asleep false}⟩, {.asking true}⟩ := by
  have quiet : ∀ c c' : GateConfig, .asking true ∉ c.running → ¬ LosesWakeup c c' := by
    intro c c' hnone hcondition
    obtain ⟨hrunning, -⟩ := hcondition
    exact hnone (hrunning ▸ Multiset.mem_cons_self _ _)
  have empty : Reachable (GateStart 1) (fun c c' => GateStep c c' ∧ ¬ LosesWakeup c c')
      ⟨Gate.new 1, 0⟩ := .start rfl
  have first := empty.fire_meeting 0 (.enter false) rfl (quiet _ _ (by decide))
  have out := first.fire_meeting 0 (.pass rfl rfl) rfl (quiet _ _ (by decide))
  have second := out.fire_meeting {.admitted} (.enter false) rfl (quiet _ _ (by decide))
  have asleep := second.fire_meeting {.admitted} (.wait rfl rfl) rfl (quiet _ _ (by decide))
  have third := asleep.fire_meeting {.admitted} .enterUntil rfl (quiet _ _ (by decide))
  have willing := third.fire_meeting {.admitted} .keepWaiting rfl (quiet _ _ (by decide))
  have dozing := willing.fire_meeting {.admitted} (.wait rfl rfl) rfl (quiet _ _ (by decide))
  exact dozing.fire_meeting 0 (.leave rfl) rfl (quiet _ _ (by decide))

theorem gate_never_stuck_after_a_wakeup :
    ¬ Stuck ⟨⟨1, {.asleep false}⟩, {.asking true}⟩ :=
  gate_never_stuck wakeup_goes_to_the_timed_waiter

/-- The timed waiter then gives up, and the wakeup is gone: the other caller
sleeps on before a free permit. -/
theorem gate_can_get_stuck :
    ¬ ∀ (permits : Nat) (c : GateConfig), Reachable (GateStart permits) GateStep c →
      ¬ Stuck c := by
  intro never
  have hwoken := wakeup_goes_to_the_timed_waiter.mono fun _ _ h => h.1
  have hgone : Reachable (GateStart 1) GateStep ⟨⟨1, {.asleep false}⟩, 0⟩ :=
    hwoken.fire 0 .cancel rfl
  refine never 1 _ hgone ⟨by decide, rfl, by decide, ?_⟩
  intro waiter hmem
  exact ⟨false, Multiset.mem_singleton.mp hmem⟩

end GpuInfo
