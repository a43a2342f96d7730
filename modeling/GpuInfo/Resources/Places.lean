import GpuInfo.Budget.AdmissionAccounting
import GpuInfo.Pool.ResourcePoolConservation
import GpuInfo.Resources.Resources
import Mathlib.Data.List.ReduceOption
import Mathlib.Data.Multiset.Range

/-!
Where an allocation is. Every allocation ever made is idle, waits in a remap, belongs to
one owner or to the operation that moves it, or is destroyed; no step loses or copies one.
-/

namespace GpuInfo
open MachineInteger Interleaving

variable {Format : Type}

/-! Slots -/

namespace Slots

@[simp] theorem owners_nil : owners ([] : Slots Format) = [] := rfl

@[simp] theorem owners_none (slots : Slots Format) : owners (none :: slots) = owners slots := rfl

@[simp] theorem owners_some (owned : Owned Format) (slots : Slots Format) :
    owners (some owned :: slots) = owned :: owners slots := rfl

@[simp] theorem owners_append (slots more : Slots Format) :
    owners (slots ++ more) = owners slots ++ owners more :=
  List.reduceOption_append _ _

theorem owners_accepted (slots : Slots Format) :
    owners (accepted slots) = (owners slots).map fun owned => { owned with healthy := true } := by
  induction slots with
  | nil => rfl
  | cons slot slots ih =>
      cases slot with
      | none => exact ih
      | some owned => exact congrArg _ ih

theorem owners_set {slots : Slots Format} {index : Nat} {owned : Owned Format}
    (h : slots[index]? = some (some owned)) :
    (owners slots : Multiset (Owned Format)) =
      owned ::ₘ (owners (slots.set index none) : Multiset (Owned Format)) := by
  induction slots generalizing index with
  | nil => cases h
  | cons slot slots ih =>
      cases index with
      | zero =>
          cases h
          rfl
      | succ index =>
          have htail := ih (show slots[index]? = some (some owned) from h)
          cases slot with
          | none => exact htail
          | some first =>
              simp only [List.set_cons_succ, owners_some, ← Multiset.cons_coe, htail]
              exact Multiset.cons_swap _ _ _

/-- A transfer takes one owner out of the batch. -/
theorem owners_transfer {slots rest : Slots Format} {kind : Kind} {index : Nat}
    {owned : Owned Format} (h : slots.transfer kind index = .ok (owned, rest)) :
    (owners slots : Multiset (Owned Format)) =
      owned ::ₘ (owners rest : Multiset (Owned Format)) := by
  rw [transfer] at h
  split at h
  · rename_i found hslot
    split at h
    · cases h
      exact owners_set hslot
    · cases h
  · cases h
  · cases h

end Slots

section
variable {slots : Slots Format} {todo : List (Option (Owned Format) × Spec Format)}

@[simp] theorem unfinished_nil (slots : Slots Format) : unfinished slots [] = slots.owners := by
  simp [unfinished]

@[simp] theorem unfinished_some (owned : Owned Format) (spec : Spec Format) :
    unfinished slots ((some owned, spec) :: todo) = unfinished (slots ++ [some owned]) todo := by
  simp [unfinished]

@[simp] theorem unfinished_none (spec : Spec Format) :
    unfinished slots ((none, spec) :: todo) = unfinished slots todo := by
  simp [unfinished]

/-- The closure starts with all the slots there are. -/
theorem unfinished_zip {specs : List (Spec Format)} (h : slots.length = specs.length) :
    unfinished [] (slots.zip specs) = slots.owners := by
  rw [unfinished, List.nil_append, List.map_fst_zip h.le]

theorem unfinished_append (owned : Owned Format) :
    (unfinished (slots ++ [some owned]) todo : Multiset (Owned Format)) =
      owned ::ₘ (unfinished slots todo : Multiset (Owned Format)) := by
  simp only [unfinished, Slots.owners_append, Slots.owners_some, Slots.owners_nil,
    ← Multiset.coe_add, Multiset.coe_singleton, ← Multiset.singleton_add]
  ac_rfl

end

/-! Who holds what -/

/-- An allocation with its bytes, whatever else changes about it. -/
def deed (allocation : ChargedAllocation Format) : NativeId × Nat :=
  (allocation.native, allocation.bytes)

@[simp] theorem deed_setMapped (allocation : ChargedAllocation Format) (mapped : Bool) :
    deed (allocation.setMapped mapped) = deed allocation := rfl

def ownedDeeds (owners : List (Owned Format)) : Multiset (NativeId × Nat) :=
  (owners : Multiset (Owned Format)).map (deed ·.allocation)

def remapDeeds (remaps : List (Remap Format)) : Multiset (NativeId × Nat) :=
  (remaps : Multiset (Remap Format)).map (deed ·.allocation)

def Purpose.owners : Purpose Format → List (Owned Format)
  | .evicting _ slots _ => slots.owners
  | .dropping owners _ _ => owners
  | .done | .collecting _ _ _ _ => []

/-- The tracked owners there are: handles, batch slots and the plans of `prepare`. -/
def Activity.owners : Activity Format → List (Owned Format)
  | .owner owned _ => [owned]
  | .batch slots | .prepared _ (.ok slots) | .taking _ _ slots _ | .reserving _ slots _ _
  | .popping _ slots => slots.owners
  | .creating _ todo slots _ => unfinished slots todo
  | .dropping owners _ | .offering _ _ owners _ => owners
  | .calling _ purpose => purpose.owners
  | .foreign _ | .prepared _ (.error _) | .harvesting _ _ | .harvested _
  | .collecting _ _ _ _ => []

def Purpose.completed : Purpose Format → List (Remap Format)
  | .collecting completed _ _ _ => completed
  | .done | .evicting _ _ _ | .dropping _ _ _ => []

/-- The remaps a collect has harvested and not come to yet. -/
def Activity.completed : Activity Format → List (Remap Format)
  | .harvesting _ completed | .harvested completed | .collecting completed _ _ _ => completed
  | .calling _ purpose => purpose.completed
  | _ => []

/-- The allocations that have left their owner or remap, on their way into the pool or to
their destruction. -/
def Activity.moving : Activity Format → Multiset (ChargedAllocation Format)
  | .offering _ allocation _ _ => {allocation}
  | .calling call _ => call.resources
  | _ => 0

def Purpose.deeds : Purpose Format → Multiset (NativeId × Nat)
  | .done => 0
  | .evicting _ slots _ => ownedDeeds slots.owners
  | .dropping owners _ _ => ownedDeeds owners
  | .collecting completed _ _ _ => remapDeeds completed

/-- All the allocations an activity holds. -/
def Activity.deeds : Activity Format → Multiset (NativeId × Nat)
  | .foreign _ | .prepared _ (.error _) => 0
  | .owner owned _ => {deed owned.allocation}
  | .batch slots | .prepared _ (.ok slots) | .taking _ _ slots _ | .reserving _ slots _ _
  | .popping _ slots => ownedDeeds slots.owners
  | .creating _ todo slots _ => ownedDeeds (unfinished slots todo)
  | .dropping owners _ => ownedDeeds owners
  | .offering _ allocation owners _ => deed allocation ::ₘ ownedDeeds owners
  | .calling call purpose => call.resources.map deed + purpose.deeds
  | .harvesting _ completed | .harvested completed | .collecting completed _ _ _ =>
      remapDeeds completed

/-- The allocations that no activity holds. -/
def Inner.deeds (s : Inner Format) : Multiset (NativeId × Nat) :=
  (s.pool.idle.slots : Multiset (ChargedAllocation Format)).map deed + remapDeeds s.remaps +
    s.destroyed

@[simp] theorem ownedDeeds_nil : ownedDeeds ([] : List (Owned Format)) = 0 := rfl

@[simp] theorem ownedDeeds_cons (owned : Owned Format) (owners : List (Owned Format)) :
    ownedDeeds (owned :: owners) = deed owned.allocation ::ₘ ownedDeeds owners := rfl

@[simp] theorem ownedDeeds_append (owners more : List (Owned Format)) :
    ownedDeeds (owners ++ more) = ownedDeeds owners + ownedDeeds more := by
  simp [ownedDeeds, ← Multiset.coe_add]

@[simp] theorem remapDeeds_nil : remapDeeds ([] : List (Remap Format)) = 0 := rfl

@[simp] theorem remapDeeds_cons (remap : Remap Format) (remaps : List (Remap Format)) :
    remapDeeds (remap :: remaps) = deed remap.allocation ::ₘ remapDeeds remaps := rfl

@[simp] theorem remapDeeds_append (remaps more : List (Remap Format)) :
    remapDeeds (remaps ++ more) = remapDeeds remaps + remapDeeds more := by
  simp [remapDeeds, ← Multiset.coe_add]

theorem ownedDeeds_accepted (slots : Slots Format) :
    ownedDeeds (Slots.owners slots.accepted) = ownedDeeds slots.owners := by
  rw [Slots.owners_accepted]
  simp [ownedDeeds, Function.comp_def]

theorem ownedDeeds_unfinished (owned : Owned Format) (slots : Slots Format)
    (todo : List (Option (Owned Format) × Spec Format)) :
    ownedDeeds (unfinished (slots ++ [some owned]) todo) =
      deed owned.allocation ::ₘ ownedDeeds (unfinished slots todo) := by
  rw [ownedDeeds, unfinished_append, Multiset.map_cons]
  rfl

@[simp] theorem discard_deeds (allocation : ChargedAllocation Format) (purpose : Purpose Format) :
    (Activity.discard allocation purpose).deeds = deed allocation ::ₘ purpose.deeds := by
  simp [Activity.discard, Activity.deeds, PoolCall.resources, Resume.resources]

@[simp] theorem resume_deeds (purpose : Purpose Format) :
    (purpose.resume.map Activity.deeds).sum = purpose.deeds := by
  cases purpose <;> simp [Purpose.resume, Purpose.deeds, Activity.deeds]

/-- An allocation of an activity has an owner there, or it is on its way. -/
theorem Activity.deeds_eq (activity : Activity Format) : activity.deeds =
    ownedDeeds activity.owners + activity.moving.map deed + remapDeeds activity.completed := by
  cases activity with
  | prepared _ value => cases value <;> simp [deeds, owners, moving, completed]
  | calling call purpose =>
      cases purpose <;>
        simp [deeds, owners, moving, completed, Purpose.deeds, Purpose.owners, Purpose.completed,
          add_comm]
  | offering _ allocation owners _ =>
      simp only [deeds, Activity.owners, moving, completed, Multiset.map_singleton,
        remapDeeds_nil, add_zero]
      rw [add_comm, Multiset.singleton_add]
  | _ => simp [deeds, owners, moving, completed]

theorem moves_deeds {activity : Activity Format} {left : Multiset (Activity Format)}
    (h : activity.Moves left) : (left.map Activity.deeds).sum = activity.deeds := by
  cases h with
  | transfer htransfer =>
      have howners := congrArg (Multiset.map (deed ·.allocation)) (Slots.owners_transfer htransfer)
      simp only [Multiset.insert_eq_cons, Multiset.map_cons, Multiset.map_singleton,
        Multiset.sum_cons, Multiset.sum_singleton, Activity.deeds]
      rw [Multiset.map_cons, ← Multiset.singleton_add, add_comm] at howners
      exact howners.symm
  | clone _ _ | release _ _ | drop _ | dropBatch _ | dropPrepared _ _ | dropFailed _ _
  | planned _ _ _ | kept _ _ _ _ _ _ | pushUnwinds _ _ _ _ | createUnwinds _ _ _ _ _
  | popped _ _ | popUnwinds _ _ | discard _ _ _ | orphaned _ _ | offer _ _ _ | dropped
  | prepareFailed _ =>
      simp [Activity.deeds, Purpose.deeds, Activity.discard, PoolCall.resources, Resume.resources]

theorem swapRemove_perm {α : Type} {slots : List α} {position : Nat} {slot : α}
    (h : slots[position]? = some slot) :
    (slots : Multiset α) = slot ::ₘ (swapRemove slots position : Multiset α) := by
  cases List.eq_nil_or_concat slots with
  | inl hnil => simp [hnil] at h
  | inr hconcat =>
      obtain ⟨first, last, rfl⟩ := hconcat
      rw [List.concat_eq_append] at h ⊢
      by_cases hlt : position < first.length
      · have hslot : first[position] = slot := by
          simpa [List.getElem?_append_left hlt, hlt] using h
        have hremove : swapRemove (first ++ [last]) position = first.set position last := by
          simp [swapRemove, hlt]
        have herase : first.Perm (slot :: first.eraseIdx position) :=
          hslot ▸ (List.getElem_cons_eraseIdx_perm hlt).symm
        rw [hremove, Multiset.cons_coe, Multiset.coe_eq_coe]
        calc
          (first ++ [last]).Perm (last :: slot :: first.eraseIdx position) :=
            (List.perm_append_singleton _ _).trans (herase.cons _)
          _ |>.Perm (slot :: last :: first.eraseIdx position) := .swap _ _ _
          _ |>.Perm (slot :: first.set position last) :=
            (List.set_perm_cons_eraseIdx hlt last).symm.cons _
      · have hposition : position = first.length := by
          have hle := (List.getElem?_eq_some_iff.mp h).1
          simp only [List.length_append, List.length_singleton] at hle
          omega
        have hslot : last = slot := by
          simpa [hposition] using h
        simp [swapRemove, hposition, hslot]

theorem remapDeeds_swapRemove {remaps : List (Remap Format)} {position : Nat}
    {remap : Remap Format} (h : remaps[position]? = some remap) :
    remapDeeds remaps = deed remap.allocation ::ₘ remapDeeds (swapRemove remaps position) := by
  rw [remapDeeds, swapRemove_perm h, Multiset.map_cons]
  rfl

/-! Plans -/

/-- A plan has a slot for every descriptor. -/
def Purpose.Planned : Purpose Format → Prop
  | .evicting specs slots _ => slots.length = specs.length
  | .done | .dropping _ _ _ | .collecting _ _ _ _ => True

/-- A plan has a slot for every descriptor it has come to, and what `take` answers is not
lost: no thread is between two sections of one. -/
def Activity.Planned : Activity Format → Prop
  | .taking specs todo slots _ => slots.length + todo.length = specs.length
  | .reserving specs slots _ _ => slots.length = specs.length
  | .calling call purpose => (∀ key, call ≠ .take key) ∧ purpose.Planned
  | _ => True

theorem resume_planned {purpose : Purpose Format} (planned : purpose.Planned) :
    ∀ next ∈ purpose.resume, next.Planned := by
  cases purpose with
  | done => exact leaves_none
  | evicting specs slots missing => exact leaves_one planned
  | dropping _ _ _ | collecting _ _ _ _ => exact leaves_one trivial

theorem moves_planned {activity : Activity Format} {left : Multiset (Activity Format)}
    (h : activity.Moves left) (planned : activity.Planned) : ∀ next ∈ left, next.Planned := by
  cases h with
  | planned specs slots missing => exact leaves_one planned
  | dropFailed | dropped | prepareFailed => exact leaves_none
  | transfer => exact leaves_two trivial trivial
  | discard | orphaned => exact leaves_one ⟨nofun, trivial⟩
  | _ => exact leaves_one trivial

/-! Sections of the pool -/

/-- The charge of what a section destroys is released. -/
theorem Inner.observe_spec {s s' : Inner Format} {effect : Effect (ChargedAllocation Format)}
    (h : s.observe effect = .ok s') (silent : ∀ answer, effect ≠ .taken answer) :
    s'.destroyed = effect.resources.map deed + s.destroyed ∧
    s'.memory.allocated + ((effect.resources.map deed).map Prod.snd).sum = s.memory.allocated ∧
    s'.memory.reserved = s.memory.reserved ∧
    s' = { s with memory := s'.memory, destroyed := s'.destroyed } := by
  cases effect with
  | destroyed allocation =>
      cases hrelease : s.memory.release allocation.bytes with
      | error fault => simp [observe, hrelease] at h
      | ok memory =>
          simp only [observe, hrelease, ok_bind] at h
          cases h
          obtain ⟨hle, rfl⟩ := MemoryUsage.release_eq_ok.mp hrelease
          exact ⟨rfl, by simpa [Effect.resources, deed] using Nat.sub_add_cancel hle, rfl, rfl⟩
  | taken answer => exact absurd rfl (silent answer)
  | silent | freed _ =>
      cases h
      exact ⟨(zero_add _).symm, rfl, rfl, rfl⟩

variable [DecidableEq Format]

/-- What a section does to the context apart from the pool. -/
theorem section_spec {s s' : Inner Format} {grow : Bool}
    {call : PoolCall (ChargedAllocation Format) (Spec Format)} {purpose : Purpose Format}
    {after : Progress (ChargedAllocation Format) (Spec Format)}
    (planned : (Activity.calling call purpose).Planned)
    (h : call.advance s.pool grow = .ok after)
    (seen : (s.setPool after.pool).observe after.effect = .ok s') :
    s'.destroyed = after.effect.resources.map deed + s.destroyed ∧
    s'.memory.allocated + ((after.effect.resources.map deed).map Prod.snd).sum =
      s.memory.allocated ∧
    s'.memory.reserved = s.memory.reserved ∧
    s' = { s.setPool after.pool with memory := s'.memory, destroyed := s'.destroyed } := by
  refine Inner.observe_spec seen fun answer heq => ?_
  obtain ⟨key, hkey⟩ := (advance_moves h).answers answer heq
  exact planned.1 key hkey

/-- No section loses an allocation. -/
theorem section_deeds {s s' : Inner Format} {grow : Bool}
    {call : PoolCall (ChargedAllocation Format) (Spec Format)} {purpose : Purpose Format}
    {after : Progress (ChargedAllocation Format) (Spec Format)}
    (planned : (Activity.calling call purpose).Planned)
    (h : call.advance s.pool grow = .ok after)
    (seen : (s.setPool after.pool).observe after.effect = .ok s') :
    s'.deeds + (after.call.elim 0 PoolCall.resources).map deed + s.created =
      s.deeds + call.resources.map deed + s'.created := by
  obtain ⟨hdestroyed, -, -, hs'⟩ := section_spec planned h seen
  have hmoves := congrArg (Multiset.map deed) (advance_moves h).resources
  simp only [Progress.resources, Multiset.map_add] at hmoves
  have hcreated : s'.created = s.created := by
    rw [hs']
    rfl
  rw [hcreated]
  refine congrArg (· + s.created) ?_
  calc
    s'.deeds + (after.call.elim 0 PoolCall.resources).map deed
        = ((after.pool.idle.slots : Multiset (ChargedAllocation Format)).map deed +
              (after.call.elim 0 PoolCall.resources).map deed +
              after.effect.resources.map deed) + remapDeeds s.remaps + s.destroyed := by
          rw [Inner.deeds, hdestroyed, hs']
          simp only [Inner.setPool]
          ac_rfl
    _ = s.deeds + call.resources.map deed := by
          rw [hmoves, Inner.deeds]
          ac_rfl

/-! The rules -/

variable [Wgpu Format] {limits : Limits}

theorem rule_planned (s : Inner Format) (taken : Multiset (Activity Format)) (s' : Inner Format)
    (left : Multiset (Activity Format)) (h : ResourceRule limits s taken s' left)
    (planned : ∀ activity ∈ taken, activity.Planned) : ∀ activity ∈ left, activity.Planned := by
  cases h with
  | move h => exact moves_planned h (planned _ (Multiset.mem_singleton_self _))
  | foreign _ =>
      intro activity hactivity
      obtain ⟨holder, -, rfl⟩ := Multiset.mem_map.mp hactivity
      trivial
  | hit _ _ | miss _ _ =>
      have hslots := planned _ (Multiset.mem_singleton_self _)
      simp only [Activity.Planned, List.length_cons, Multiset.mem_singleton, forall_eq,
        List.length_append, List.length_nil] at hslots ⊢
      omega
  | evict _ =>
      have hslots := planned _ (Multiset.mem_singleton_self _)
      exact leaves_one ⟨nofun, hslots⟩
  | advance grow h _ =>
      have hcall := planned _ (Multiset.mem_singleton_self _)
      exact leaves_one
        ⟨fun key heq => (advance_moves h).begins _ (congrArg some heq) (.take key), hcall.2⟩
  | finish _ _ _ => exact resume_planned (planned _ (Multiset.mem_singleton_self _)).2
  | runMap | markLost | unwound | answer | dropMap | collectedLost | collected =>
      exact leaves_none
  | prepare => exact leaves_one (Nat.zero_add _)
  | setIdleBudget | overBudget | noBudget | lost | put | pushFails | settle | settleLost
  | settleFails => exact leaves_one ⟨nofun, trivial⟩
  | _ => exact leaves_one trivial

theorem rule_deeds (s : Inner Format) (taken : Multiset (Activity Format)) (s' : Inner Format)
    (left : Multiset (Activity Format)) (h : ResourceRule limits s taken s' left)
    (planned : ∀ activity ∈ taken, activity.Planned) :
    s'.deeds + (left.map Activity.deeds).sum + s.created =
      s.deeds + (taken.map Activity.deeds).sum + s'.created := by
  cases h with
  | move h => rw [moves_deeds h, Multiset.map_singleton, Multiset.sum_singleton]
  | foreign _ => simp [Activity.deeds, Inner.deeds, Function.comp_def]
  | hit _ h =>
      have htake := congrArg (Multiset.map deed) (take_conserves h)
      simp only [Effect.resources, Multiset.map_add, Multiset.map_singleton] at htake
      simp only [Inner.deeds, ← htake, Multiset.map_singleton, Multiset.sum_singleton,
        Activity.deeds, Slots.owners_append, Slots.owners_some, Slots.owners_nil,
        ownedDeeds_append, ownedDeeds_cons, ownedDeeds_nil, Multiset.cons_zero]
      ac_rfl
  | reserve _ =>
      have hslots := planned _ (Multiset.mem_singleton_self _)
      simp [Activity.deeds, Inner.deeds, unfinished_zip hslots]
  | create _ _ => simp [Activity.deeds, Inner.deeds, Inner.create, ownedDeeds_unfinished, deed]
  | accept _ => simp [Activity.deeds, Inner.deeds, ownedDeeds_accepted]
  | push _ =>
      simp only [Inner.deeds, Inner.push, Multiset.map_singleton, Multiset.sum_singleton,
        Activity.deeds, remapDeeds_append, remapDeeds_cons, remapDeeds_nil,
        ← Multiset.singleton_add]
      ac_rfl
  | runMap result _ _ => cases result <;> rfl
  | harvest h _ _ =>
      have hremaps := remapDeeds_swapRemove h
      simp only [Inner.deeds, Inner.harvest, Inner.updateRequest, Multiset.map_singleton,
        Multiset.sum_singleton, Activity.deeds, remapDeeds_append, remapDeeds_cons,
        remapDeeds_nil, hremaps, ← Multiset.singleton_add]
      ac_rfl
  | advance _ h seen =>
      have hsection := section_deeds (planned _ (Multiset.mem_singleton_self _)) h seen
      simp only [Option.elim_some] at hsection
      simp only [Multiset.map_singleton, Multiset.sum_singleton, Activity.deeds]
      rw [← add_assoc, add_right_comm, hsection]
      ac_rfl
  | finish _ h seen =>
      have hsection := section_deeds (planned _ (Multiset.mem_singleton_self _)) h seen
      simp only [Option.elim_none, Multiset.map_zero, add_zero] at hsection
      simp only [Multiset.map_singleton, Multiset.sum_singleton, Activity.deeds, resume_deeds]
      refine (add_right_comm _ _ _).trans ((congrArg (· + _) hsection).trans ?_)
      ac_rfl
  | _ => simp [Activity.deeds, Inner.deeds, Purpose.deeds, Activity.discard, PoolCall.resources,
      Resume.resources, Inner.updateNative, Inner.updateRequest, Inner.dropMap, Inner.takeOutcome]

/-- Native objects are numbered in the order of their creation. -/
theorem rule_numbered (s : Inner Format) (taken : Multiset (Activity Format)) (s' : Inner Format)
    (left : Multiset (Activity Format)) (h : ResourceRule limits s taken s' left)
    (numbered : s.created.map Prod.fst = Multiset.range s.nextNative)
    (planned : ∀ activity ∈ taken, activity.Planned) :
    s'.created.map Prod.fst = Multiset.range s'.nextNative := by
  cases h with
  | create _ h =>
      have hnative : _ = s.nextNative := congrArg Allocation.native (charge_ok h).1
      simp only [Inner.create, Multiset.map_cons, Multiset.range_succ, numbered,
        ChargedAllocation.native, hnative]
  | runMap result _ _ => cases result <;> exact numbered
  | advance _ h seen | finish _ h seen =>
      rw [(section_spec (planned _ (Multiset.mem_singleton_self _)) h seen).2.2.2]
      exact numbered
  | _ => exact numbered

end GpuInfo
