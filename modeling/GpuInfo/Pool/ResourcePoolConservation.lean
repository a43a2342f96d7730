import GpuInfo.Pool.ResourcePoolAccounting
import Mathlib.Data.Multiset.AddSub

/-!
No section of the pool loses or copies a resource: what it had idle and what the call
held is afterwards idle, held by the rest of the call, destroyed or with the caller.
Only a resource offered for return becomes idle.
-/

namespace GpuInfo
open MachineInteger ResourcePool
variable {R Key : Type} [Pooled R Key]

section
omit [Pooled R Key]

def Resume.resources : Resume R → Multiset R
  | .putRetry resource _ => {resource}
  | .done | .evictNext _ _ _ => 0

/-- The resources a call holds between two sections. -/
def PoolCall.resources : PoolCall R Key → Multiset R
  | .put resource | .putEnter resource => {resource}
  | .destroying doomed resume => (doomed : Multiset R) + resume.resources
  | .resuming resume => resume.resources
  | .take _ | .setBudget _ | .evict _ => 0

/-- Those of them that may still return to the pool. -/
def PoolCall.offered : PoolCall R Key → Multiset R
  | .put resource | .putEnter resource => {resource}
  | .destroying _ resume | .resuming resume => resume.resources
  | .take _ | .setBudget _ | .evict _ => 0

def Effect.resources : Effect R → Multiset R
  | .taken (some resource) | .destroyed resource => {resource}
  | .silent | .taken none | .freed _ => 0

/-- What is where after a section. -/
def Progress.resources (after : Progress R Key) : Multiset R :=
  (after.pool.idle.slots : Multiset R) + after.call.elim 0 PoolCall.resources +
    after.effect.resources

def Progress.offered (after : Progress R Key) : Multiset R := after.call.elim 0 PoolCall.offered

end

/-- A section neither loses nor copies, and lets in only what is offered; it begins no other
call, and only `take` answers with a resource. -/
structure Progress.Moves (pool : ResourcePool R) (call : PoolCall R Key)
    (after : Progress R Key) : Prop where
  resources : after.resources = (pool.idle.slots : Multiset R) + call.resources
  idle : ∀ resource ∈ after.pool.idle.slots,
    resource ∈ pool.idle.slots ∨ resource ∈ call.offered
  offered : ∀ resource ∈ after.offered, resource ∈ call.offered
  begins : ∀ next, after.call = some next → ¬ next.Entry
  answers : ∀ answer, after.effect = .taken answer → ∃ key, call = .take key

theorem removeAt_slots {idle rest : Idle R} {position : Nat} {slot : R}
    (h : removeAt idle position = .ok (slot, rest)) :
    idle.slots[position]? = some slot ∧ rest.slots = idle.slots.eraseIdx position := by
  cases hslot : idle.slots[position]? with
  | none => simp [removeAt, hslot] at h
  | some found =>
      cases hbytes : sub64 idle.bytes (Pooled.bytes found) with
      | error fault => simp [removeAt, hslot, hbytes] at h
      | ok bytes =>
          simp only [removeAt, hslot, hbytes, ok_bind] at h
          cases h
          exact ⟨rfl, rfl⟩

theorem coe_eraseIdx {slots : List R} {position : Nat} {slot : R}
    (h : slots[position]? = some slot) :
    (slots : Multiset R) = slot ::ₘ (slots.eraseIdx position : Multiset R) := by
  obtain ⟨hlt, rfl⟩ := List.getElem?_eq_some_iff.mp h
  exact (Multiset.coe_eq_coe.mpr (List.getElem_cons_eraseIdx_perm hlt)).symm

theorem removeAt_conserves {idle rest : Idle R} {position : Nat} {slot : R}
    (h : removeAt idle position = .ok (slot, rest)) :
    (idle.slots : Multiset R) = slot ::ₘ (rest.slots : Multiset R) := by
  obtain ⟨hslot, hrest⟩ := removeAt_slots h
  rw [hrest]
  exact coe_eraseIdx hslot

/-! What a section can do -/

inductive TakeSection [BEq Key] (pool : ResourcePool R) (key : Key) :
    ResourcePool R → Option R → Prop
  | nothing (h : rposition (fun slot => Pooled.key slot == key) pool.idle.slots = none) :
      TakeSection pool key pool none
  | takes (position : Nat) (slot : R) (rest : Idle R)
      (h : rposition (fun slot => Pooled.key slot == key) pool.idle.slots = some position)
      (hremove : removeAt pool.idle position = .ok (slot, rest)) :
      TakeSection pool key (pool.setIdle rest) (some slot)

theorem take_cases [BEq Key] {pool after : ResourcePool R} {key : Key} {answer : Option R}
    (h : pool.take key = .ok (after, answer)) : TakeSection pool key after answer := by
  rw [take] at h
  split at h
  · cases h
    exact .nothing ‹_›
  · rename_i position hposition
    cases hremove : removeAt pool.idle position with
    | error fault => simp [hremove] at h
    | ok result =>
        obtain ⟨slot, rest⟩ := result
        rw [hremove] at h
        cases h
        exact .takes position slot rest hposition hremove

/-- The sections of `put` once it has entered: its resource is refused or becomes idle, or
the oldest idle resource makes room for it. -/
inductive PutSection (pool : ResourcePool R) (resource : R) : Progress R Key → Prop
  | refused : PutSection pool resource (PoolCall.refuse pool resource)
  | kept (rest : Idle R) (h : rest.slots = pool.idle.slots ++ [resource]) :
      PutSection pool resource ⟨pool.setIdle rest, none, .silent⟩
  | makesRoom (old : R) (rest : Idle R) (attempts : Nat)
      (h : removeAt pool.idle 0 = .ok (old, rest)) :
      PutSection pool resource
        ⟨pool.setIdle rest, some (.destroying [old] (.putRetry resource attempts)), .silent⟩

/-- The sections of `evict` once it has entered. -/
inductive EvictSection (pool : ResourcePool R) (bytes freed : Nat) : Progress R Key → Prop
  | answers : EvictSection pool bytes freed ⟨pool, none, .freed freed⟩
  | evicts (old : R) (rest : Idle R) (attempts : Nat)
      (h : removeAt pool.idle 0 = .ok (old, rest)) :
      EvictSection pool bytes freed ⟨pool.setIdle rest, some (.destroying [old]
        (.evictNext bytes (saturatingAdd freed (Pooled.bytes old)) attempts)), .silent⟩

theorem insertIdle_cases {pool : ResourcePool R} {resource : R} {grow : Bool}
    {kept : Option (ResourcePool R)} (h : insertIdle pool resource grow = .ok kept) :
    kept = none ∨
      ∃ bytes, kept = some (pool.setIdle ⟨pool.idle.slots ++ [resource], bytes⟩) := by
  simp only [insertIdle] at h
  split at h
  · cases h
    exact .inl rfl
  · cases hfits : fits pool (Pooled.bytes resource) with
    | error fault => simp [hfits] at h
    | ok room =>
        rw [hfits, ok_bind] at h
        split at h
        · cases h
          exact .inl rfl
        · cases hadd : add64 pool.idle.bytes (Pooled.bytes resource) with
          | error fault => simp [hadd] at h
          | ok bytes =>
              rw [hadd, ok_bind] at h
              cases h
              exact .inr ⟨bytes, rfl⟩

theorem finishPut_cases {pool : ResourcePool R} {resource : R} {grow : Bool}
    {after : Progress R Key} (h : PoolCall.finishPut pool resource grow = .ok after) :
    PutSection pool resource after := by
  cases hinsert : insertIdle pool resource grow with
  | error fault => simp [PoolCall.finishPut, hinsert] at h
  | ok kept =>
      simp only [PoolCall.finishPut, hinsert, ok_bind] at h
      cases insertIdle_cases hinsert with
      | inl hnone =>
          subst hnone
          cases h
          exact .refused
      | inr hsome =>
          obtain ⟨bytes, rfl⟩ := hsome
          cases h
          exact .kept _ rfl

theorem putLoop_cases {pool : ResourcePool R} {resource : R} {attempts : Nat} {grow : Bool}
    {after : Progress R Key} (h : PoolCall.putLoop pool resource attempts grow = .ok after) :
    PutSection pool resource after := by
  cases attempts with
  | zero => exact finishPut_cases h
  | succ attempts =>
      simp only [PoolCall.putLoop] at h
      split at h
      · exact finishPut_cases h
      · cases hfits : fits pool (Pooled.bytes resource) with
        | error fault => simp [hfits] at h
        | ok room =>
            rw [hfits, ok_bind] at h
            split at h
            · exact finishPut_cases h
            · cases hremove : removeAt pool.idle 0 with
              | error fault => simp [hremove] at h
              | ok result =>
                  obtain ⟨old, rest⟩ := result
                  rw [hremove] at h
                  cases h
                  exact .makesRoom old rest attempts hremove

theorem evictLoop_cases {pool : ResourcePool R} {bytes freed attempts : Nat}
    {after : Progress R Key} (h : PoolCall.evictLoop pool bytes freed attempts = .ok after) :
    EvictSection pool bytes freed after := by
  cases attempts with
  | zero =>
      cases h
      exact .answers
  | succ attempts =>
      simp only [PoolCall.evictLoop] at h
      split at h
      · cases h
        exact .answers
      · split at h
        · cases h
          exact .answers
        · cases hremove : removeAt pool.idle 0 with
          | error fault => simp [hremove] at h
          | ok result =>
              obtain ⟨old, rest⟩ := result
              rw [hremove] at h
              cases h
              exact .evicts old rest attempts hremove

theorem setBudget_slots {pool after : ResourcePool R} {bytes : Nat} {evicted : List R}
    (h : pool.setBudget bytes = .ok (after, evicted)) :
    evicted ++ after.idle.slots = pool.idle.slots := by
  cases hover : overBudget bytes pool.idle.slots 0 pool.idle.bytes with
  | error fault => simp [ResourcePool.setBudget, hover] at h
  | ok passed =>
      simp only [ResourcePool.setBudget, hover, ok_bind] at h
      cases h
      exact List.take_append_drop _ _

theorem take_conserves [BEq Key] {pool after : ResourcePool R} {key : Key} {answer : Option R}
    (h : pool.take key = .ok (after, answer)) :
    (after.idle.slots : Multiset R) + (Effect.taken answer).resources = pool.idle.slots := by
  cases take_cases h with
  | nothing _ => exact add_zero _
  | takes position slot rest _ hremove =>
      rw [removeAt_conserves hremove, ← Multiset.singleton_add, add_comm]
      rfl

theorem mem_of_take [BEq Key] {pool after : ResourcePool R} {key : Key} {answer : Option R}
    (h : pool.take key = .ok (after, answer)) :
    (∀ resource ∈ after.idle.slots, resource ∈ pool.idle.slots) ∧
      ∀ resource, answer = some resource → resource ∈ pool.idle.slots := by
  have hconserves := take_conserves h
  refine ⟨fun resource hmem => ?_, fun resource heq => ?_⟩
  · rw [← Multiset.mem_coe, ← hconserves]
    exact Multiset.mem_add.mpr (.inl hmem)
  · rw [← Multiset.mem_coe, ← hconserves, heq]
    exact Multiset.mem_add.mpr (.inr (Multiset.mem_singleton_self resource))

namespace Progress.Moves
variable {pool : ResourcePool R} {resource : R} {call : PoolCall R Key}

omit [Pooled R Key] in
theorem refuse (holds : call.resources = {resource}) :
    Progress.Moves pool call (PoolCall.refuse pool resource : Progress R Key) := by
  refine ⟨?_, fun _ h => .inl h, fun _ h => absurd h (Multiset.notMem_zero _),
    by rintro _ ⟨⟩ ⟨⟩, by simp [PoolCall.refuse]⟩
  rw [holds]
  exact add_zero _

/-- One idle resource is removed, to be destroyed outside the lock. -/
theorem removeFirst {rest : Idle R} {old : R} {resume : Resume R}
    (h : removeAt pool.idle 0 = .ok (old, rest)) (holds : call.resources = resume.resources)
    (offers : call.offered = resume.resources) :
    Progress.Moves pool call
      (⟨pool.setIdle rest, some (.destroying [old] resume), .silent⟩ : Progress R Key) := by
  have hidle := removeAt_conserves h
  refine ⟨?_, fun found hfound => ?_, fun found hfound => ?_, by rintro _ ⟨⟩ ⟨⟩, by simp⟩
  · rw [hidle, holds, ← Multiset.singleton_add]
    simp only [Progress.resources, setIdle, Option.elim_some, PoolCall.resources,
      Multiset.coe_singleton, Effect.resources, add_zero]
    ac_rfl
  · refine .inl (Multiset.mem_coe.mp ?_)
    rw [hidle]
    exact Multiset.mem_cons_of_mem hfound
  · rw [offers]
    exact hfound

omit [Pooled R Key] in
/-- The resource of a `put` becomes idle. -/
theorem keep {rest : Idle R} (h : rest.slots = pool.idle.slots ++ [resource])
    (holds : call.resources = {resource}) (offers : call.offered = {resource}) :
    Progress.Moves pool call (⟨pool.setIdle rest, none, .silent⟩ : Progress R Key) := by
  refine ⟨?_, fun found hfound => ?_, fun _ h => absurd h (Multiset.notMem_zero _), nofun,
    by simp⟩
  · simp [Progress.resources, setIdle, h, holds, Effect.resources, ← Multiset.coe_add]
  · simp only [setIdle, h, List.mem_append, List.mem_singleton] at hfound
    rw [offers, Multiset.mem_singleton]
    exact hfound

theorem putLoop {attempts : Nat} {grow : Bool} {after : Progress R Key}
    (holds : call.resources = {resource}) (offers : call.offered = {resource})
    (h : PoolCall.putLoop pool resource attempts grow = .ok after) :
    Progress.Moves pool call after := by
  cases putLoop_cases h with
  | refused => exact .refuse holds
  | kept rest hslots => exact .keep hslots holds offers
  | makesRoom old rest attempts hremove => exact .removeFirst hremove holds offers

theorem evictLoop {bytes freed attempts : Nat} {after : Progress R Key}
    (holds : call.resources = 0) (offers : call.offered = 0)
    (h : PoolCall.evictLoop pool bytes freed attempts = .ok after) :
    Progress.Moves pool call after := by
  cases evictLoop_cases h with
  | answers =>
      refine ⟨?_, fun _ h => .inl h, fun _ h => absurd h (Multiset.notMem_zero _), nofun,
        by simp⟩
      rw [holds]
      exact add_zero _
  | evicts old rest attempts hremove => exact .removeFirst hremove holds offers

end Progress.Moves

/-- Every section of a call. -/
theorem advance_moves [BEq Key] {pool : ResourcePool R} {call : PoolCall R Key} {grow : Bool}
    {after : Progress R Key} (h : call.advance pool grow = .ok after) :
    after.Moves pool call := by
  have untouched : ∀ (call' : Option (PoolCall R Key)) (effect : Effect R),
      call'.elim 0 PoolCall.resources + effect.resources = call.resources →
      (∀ resource ∈ call'.elim 0 PoolCall.offered, resource ∈ call.offered) →
      (∀ next, call' = some next → ¬ next.Entry) → (∀ answer, effect ≠ .taken answer) →
      Progress.Moves pool call ⟨pool, call', effect⟩ := by
    intro call' effect hresources hoffered hcall heffect
    refine ⟨?_, fun _ h => .inl h, hoffered, hcall,
      fun answer heq => absurd heq (heffect answer)⟩
    rw [← hresources, ← add_assoc]
    rfl
  cases call with
  | take key =>
      cases htake : pool.take key with
      | error fault => simp [PoolCall.advance, htake] at h
      | ok result =>
          obtain ⟨pool', answer⟩ := result
          simp only [PoolCall.advance, htake, ok_bind] at h
          cases h
          refine ⟨?_, fun resource hmem => .inl ((mem_of_take htake).1 resource hmem),
            fun _ h => absurd h (Multiset.notMem_zero _), fun _ heq => (by cases heq),
            fun _ _ => ⟨key, rfl⟩⟩
          simp only [Progress.resources, Option.elim_none, add_zero, PoolCall.resources]
          exact take_conserves htake
  | setBudget bytes =>
      cases hrun : pool.setBudget bytes with
      | error fault => simp [PoolCall.advance, hrun] at h
      | ok result =>
          obtain ⟨pool', evicted⟩ := result
          simp only [PoolCall.advance, hrun, ok_bind] at h
          cases h
          have hslots := setBudget_slots hrun
          refine ⟨?_, fun resource hmem => .inl ?_, fun _ h => absurd h (Multiset.notMem_zero _),
            by rintro _ ⟨⟩ ⟨⟩, by simp⟩
          · simp only [Progress.resources, Option.elim_some, PoolCall.resources, Resume.resources,
              Effect.resources, add_zero]
            rw [← hslots, ← Multiset.coe_add, add_comm]
          · rw [← hslots]
            exact List.mem_append_right _ hmem
  | put resource =>
      simp only [PoolCall.advance] at h
      split at h
      · cases h
        exact .refuse rfl
      · cases h
        exact untouched _ _ (add_zero _) (fun _ h => h) (by rintro _ ⟨⟩ ⟨⟩) (by simp)
  | putEnter resource =>
      cases grow with
      | true =>
          simp only [PoolCall.advance, if_true] at h
          exact .putLoop rfl rfl h
      | false =>
          simp only [PoolCall.advance, Bool.false_eq_true, if_false] at h
          cases h
          exact .refuse rfl
  | evict bytes =>
      cases h
      exact untouched _ _ (add_zero _) (fun _ h => h) (by rintro _ ⟨⟩ ⟨⟩) (by simp)
  | destroying doomed resume =>
      cases doomed with
      | nil =>
          cases h
          refine untouched _ _ ?_ (fun _ h => h) (by rintro _ ⟨⟩ ⟨⟩) (by simp)
          simp [PoolCall.resources, Effect.resources]
      | cons old doomed =>
          cases h
          refine untouched _ _ ?_ (fun _ h => h) (by rintro _ ⟨⟩ ⟨⟩) (by simp)
          simp only [Option.elim_some, PoolCall.resources, Effect.resources,
            ← Multiset.cons_coe, ← Multiset.singleton_add]
          ac_rfl
  | resuming resume =>
      cases resume with
      | done =>
          cases h
          exact untouched _ _ (add_zero _) (fun _ h => h) (by rintro _ ⟨⟩ ⟨⟩) (by simp)
      | putRetry resource attempts => exact .putLoop rfl rfl h
      | evictNext bytes freed attempts => exact .evictLoop rfl rfl h

end GpuInfo
