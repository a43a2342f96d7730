import GpuInfo.Pool.ResourcePoolAccounting
import Mathlib.Order.Bounds.Basic

/-!
A call of the pool that nothing interrupts, against what it is for. Where every host
allocation is granted, `put`, `set_budget` and `evict` each remove the oldest idle
resources and no more of them than they must, and `put` then adds its own as the latest.
-/

namespace GpuInfo
open MachineInteger ResourcePool Interleaving
variable {R Key : Type} [Pooled R Key]

/-- A call that has ended: what was destroyed, oldest first, and what its last section
showed. -/
structure PoolEnd (R : Type) where
  pool : ResourcePool R
  destroyed : List R
  answer : Effect R

section
omit [Pooled R Key]

def Effect.destroyedNow : Effect R → List R
  | .destroyed resource => [resource]
  | .silent | .taken _ | .freed _ => []

def PoolEnd.afterwards (ended : PoolEnd R) (effect : Effect R) : PoolEnd R :=
  { ended with destroyed := effect.destroyedNow ++ ended.destroyed }

end

/-- Section after section of one call, every host allocation granted. -/
def PoolCall.alone [BEq Key] : Nat → ResourcePool R → PoolCall R Key →
    Except Fault (Option (PoolEnd R))
  | 0, _, _ => .ok none
  | fuel + 1, pool, call => do
      let after ← call.advance pool true
      match after.call with
      | none => .ok (some ⟨after.pool, after.effect.destroyedNow, after.effect⟩)
      | some call => do
          let ended ← call.alone fuel after.pool
          .ok (ended.map (·.afterwards after.effect))

/-- The call ends, without a fault, and leaves exactly this. -/
def PoolCall.EndsAs [BEq Key] (call : PoolCall R Key) (pool : ResourcePool R)
    (ended : PoolEnd R) : Prop :=
  ∃ fuel, ∀ more, call.alone (fuel + more) pool = .ok (some ended)

/-- The pool with other idle resources, counted exactly. -/
def ResourcePool.holding (pool : ResourcePool R) (slots : List R) : ResourcePool R :=
  pool.setIdle ⟨slots, totalBytes slots⟩

/-- `count` is how many of the oldest slots it takes to reach `bytes`, or all of them where
they never do. -/
def Reaches (slots : List R) (bytes count : Nat) : Prop :=
  IsLeast {count | bytes ≤ totalBytes (slots.take count)} count ∨
    (∀ count, totalBytes (slots.take count) < bytes) ∧ count = slots.length

/-! The least number of steps -/

theorem isLeast_zero {P : Nat → Prop} (h : P 0) : IsLeast {count | P count} 0 :=
  ⟨h, fun _ _ => Nat.zero_le _⟩

theorem isLeast_succ {P : Nat → Prop} (h : ¬ P 0) {count : Nat}
    (least : IsLeast {count | P (count + 1)} count) : IsLeast {count | P count} (count + 1) := by
  refine ⟨least.1, fun other hother => ?_⟩
  cases other with
  | zero => exact absurd hother h
  | succ other => exact Nat.succ_le_succ (least.2 hother)

theorem reaches_zero (slots : List R) : Reaches slots 0 0 := .inl (isLeast_zero (Nat.zero_le _))

theorem reaches_nil (bytes : Nat) : Reaches ([] : List R) bytes 0 := by
  cases bytes with
  | zero => exact reaches_zero []
  | succ bytes =>
      exact .inr ⟨fun _ => by simp [totalBytes], rfl⟩

theorem reaches_cons {slot : R} {slots : List R} {bytes count : Nat} (hbytes : 0 < bytes)
    (h : Reaches slots (bytes - Pooled.bytes slot) count) :
    Reaches (slot :: slots) bytes (count + 1) := by
  cases h with
  | inl least =>
      refine .inl (isLeast_succ (by simpa [totalBytes] using hbytes.ne') ?_)
      refine ⟨?_, fun other hother => least.2 ?_⟩
      · have hreach := least.1
        simp only [Set.mem_ofPred_eq, List.take_succ_cons, totalBytes_cons] at hreach ⊢
        omega
      · simp only [Set.mem_ofPred_eq, List.take_succ_cons, totalBytes_cons] at hother ⊢
        omega
  | inr all =>
      obtain ⟨hnever, hcount⟩ := all
      refine .inr ⟨fun other => ?_, by simp [hcount]⟩
      cases other with
      | zero => simpa [totalBytes] using hbytes
      | succ other =>
          have := hnever other
          simp only [List.take_succ_cons, totalBytes_cons]
          omega

/-! Runs of one call -/

namespace PoolCall.EndsAs
variable [BEq Key] {call : PoolCall R Key} {pool : ResourcePool R}

theorem last {after : ResourcePool R} {effect : Effect R}
    (h : call.advance pool true = .ok ⟨after, none, effect⟩) (quiet : effect.destroyedNow = []) :
    call.EndsAs pool ⟨after, [], effect⟩ := by
  refine ⟨1, fun more => ?_⟩
  rw [Nat.add_comm]
  simp [PoolCall.alone, h, quiet]

theorem next {after : ResourcePool R} {next : PoolCall R Key} {effect : Effect R}
    {ended : PoolEnd R} (h : call.advance pool true = .ok ⟨after, some next, effect⟩)
    (rest : next.EndsAs after ended) : call.EndsAs pool (ended.afterwards effect) := by
  obtain ⟨fuel, hrun⟩ := rest
  refine ⟨fuel + 1, fun more => ?_⟩
  rw [Nat.add_right_comm]
  simp [PoolCall.alone, h, hrun more]

theorem silently {after : ResourcePool R} {next : PoolCall R Key} {ended : PoolEnd R}
    (h : call.advance pool true = .ok ⟨after, some next, .silent⟩)
    (rest : next.EndsAs after ended) : call.EndsAs pool ended :=
  EndsAs.next h rest

/-- The destructors run one after another before the call goes on. -/
theorem destroying {resume : Resume R} {ended : PoolEnd R}
    (rest : (PoolCall.resuming resume : PoolCall R Key).EndsAs pool ended) (doomed : List R) :
    (PoolCall.destroying doomed resume : PoolCall R Key).EndsAs pool
      { ended with destroyed := doomed ++ ended.destroyed } := by
  induction doomed with
  | nil => exact .silently rfl rest
  | cons old doomed ih =>
      have drops : (PoolCall.destroying (old :: doomed) resume : PoolCall R Key).advance pool true =
          .ok ⟨pool, some (.destroying doomed resume), .destroyed old⟩ := rfl
      exact EndsAs.next drops ih

theorem refuse {resource : R}
    (h : call.advance pool true = .ok (PoolCall.refuse pool resource)) :
    call.EndsAs pool ⟨pool, [resource], .silent⟩ := by
  have ended : (PoolCall.resuming .done : PoolCall R Key).EndsAs pool ⟨pool, [], .silent⟩ :=
    .last rfl rfl
  exact .silently h (ended.destroying [resource])

end PoolCall.EndsAs

theorem Represented.holding_self {pool : ResourcePool R} (hp : Represented pool) :
    pool.holding pool.idle.slots = pool := by
  have hexact := hp.exact
  rw [Idle.Exact] at hexact
  rw [ResourcePool.holding, ← hexact]
  rfl

theorem totalBytes_sublist {slots more : List R} (h : slots.Sublist more) :
    totalBytes slots ≤ totalBytes more :=
  (h.map Pooled.bytes).sum_le_sum fun _ _ => Nat.zero_le _

theorem totalBytes_perm {slots more : List R} (h : slots.Perm more) :
    totalBytes slots = totalBytes more :=
  (h.map Pooled.bytes).sum_eq

/-- Some of the idle resources, in their order. -/
theorem Represented.holding {pool : ResourcePool R} (hp : Represented pool) {slots : List R}
    (h : slots.Sublist pool.idle.slots) : Represented (pool.holding slots) := by
  have hbytes : totalBytes slots ≤ pool.budget := by
    refine (totalBytes_sublist h).trans ?_
    rw [← hp.exact]
    exact hp.within
  exact ⟨rfl, hbytes, h.length_le.trans hp.entries, hp.budget_le⟩

theorem removeAt_holding (pool : ResourcePool R) (slot : R) (slots : List R) :
    removeAt (pool.holding (slot :: slots)).idle 0 = .ok (slot, (pool.holding slots).idle) := by
  simp [removeAt, ResourcePool.holding, setIdle, totalBytes_cons]

/-- A round of `put` that finds room keeps the resource. -/
theorem putLoop_keeps {pool : ResourcePool R} {resource : R} (hbudget : pool.budget ≤ u64Max)
    {slots : List R} (room : totalBytes slots + Pooled.bytes resource ≤ pool.budget)
    (entries : slots.length < pool.maxEntries) :
    (PoolCall.putLoop (pool.holding slots) resource slots.length true :
      Except Fault (Progress R Key)) =
      .ok ⟨pool.holding (slots ++ [resource]), none, .silent⟩ := by
  have hover : ¬ (pool.holding slots).budget < Pooled.bytes resource :=
    Nat.not_lt.mpr ((Nat.le_add_left _ _).trans room)
  obtain ⟨found, hfits, hroom⟩ := fits_of_le (Nat.not_lt.mp hover)
  have hfound : found = true := hroom.mpr ⟨Nat.le_sub_of_add_le room, entries⟩
  subst hfound
  have hsum : (pool.holding slots).idle.bytes + Pooled.bytes resource ≤ u64Max :=
    room.trans hbudget
  have hfinish : (PoolCall.finishPut (pool.holding slots) resource true :
      Except Fault (Progress R Key)) =
      .ok ⟨pool.holding (slots ++ [resource]), none, .silent⟩ := by
    simp [PoolCall.finishPut, insertIdle, hover, hfits, hsum]
    simp [ResourcePool.holding, setIdle, totalBytes]
  cases slots with
  | nil => exact hfinish
  | cons slot slots =>
      rw [List.length_cons]
      simpa [PoolCall.putLoop, hover, hfits] using hfinish

/-- A round that finds none removes the oldest: what is left of the attempts is again the idle
count. -/
theorem putLoop_evicts {pool : ResourcePool R} {resource slot : R} {slots : List R}
    (hsize : Pooled.bytes resource ≤ pool.budget)
    (full : ¬ (totalBytes (slot :: slots) + Pooled.bytes resource ≤ pool.budget ∧
      (slot :: slots).length < pool.maxEntries)) :
    (PoolCall.putLoop (pool.holding (slot :: slots)) resource (slot :: slots).length true :
      Except Fault (Progress R Key)) =
      .ok ⟨pool.holding slots, some (.destroying [slot] (.putRetry resource slots.length)),
        .silent⟩ := by
  have hover : ¬ (pool.holding (slot :: slots)).budget < Pooled.bytes resource :=
    Nat.not_lt.mpr hsize
  obtain ⟨found, hfits, hroom⟩ := fits_of_le (Nat.not_lt.mp hover)
  have hremove := removeAt_holding pool slot slots
  cases found with
  | true =>
      obtain ⟨hbytes, entries⟩ := hroom.mp rfl
      exact absurd ⟨Nat.add_le_of_le_sub hsize hbytes, entries⟩ full
  | false =>
      rw [List.length_cons]
      simp [PoolCall.putLoop, hover, hfits, hremove]
      rfl

/-- `put` from the moment it has counted its attempts: it makes room and keeps the resource. -/
theorem putLoop_alone [BEq Key] {pool : ResourcePool R} {resource : R}
    (hbudget : pool.budget ≤ u64Max) (hsize : Pooled.bytes resource ≤ pool.budget)
    (entries : 0 < pool.maxEntries) (slots : List R) {call : PoolCall R Key}
    (hcall : call.advance (pool.holding slots) true =
      PoolCall.putLoop (pool.holding slots) resource slots.length true) :
    ∃ count, IsLeast {count | totalBytes (slots.drop count) + Pooled.bytes resource ≤ pool.budget ∧
        (slots.drop count).length < pool.maxEntries} count ∧
      call.EndsAs (pool.holding slots)
        ⟨pool.holding (slots.drop count ++ [resource]), slots.take count, .silent⟩ := by
  induction slots generalizing call with
  | nil =>
      have hroom : totalBytes ([] : List R) + Pooled.bytes resource ≤ pool.budget := by
        simpa [totalBytes] using hsize
      exact ⟨0, isLeast_zero ⟨hroom, entries⟩,
        .last (hcall.trans (putLoop_keeps hbudget hroom entries)) rfl⟩
  | cons slot slots ih =>
      by_cases hfit : totalBytes (slot :: slots) + Pooled.bytes resource ≤ pool.budget ∧
          (slot :: slots).length < pool.maxEntries
      · exact ⟨0, isLeast_zero hfit,
          .last (hcall.trans (putLoop_keeps hbudget hfit.1 hfit.2)) rfl⟩
      · have hretry : (PoolCall.resuming (.putRetry resource slots.length) :
            PoolCall R Key).advance (pool.holding slots) true =
              PoolCall.putLoop (pool.holding slots) resource slots.length true := rfl
        obtain ⟨count, hleast, hends⟩ := ih hretry
        have hnext := hcall.trans (putLoop_evicts hsize hfit)
        exact ⟨count + 1, isLeast_succ hfit hleast, .silently hnext (hends.destroying [slot])⟩

/-- The loop of `set_budget` stops at the first slot from which the rest is within the
budget. -/
theorem overBudget_least (bytes : Nat) (slots : List R) (excess : Nat) :
    ∃ count, IsLeast {count | totalBytes (slots.drop count) ≤ bytes} count ∧
      overBudget bytes slots excess (totalBytes slots) =
        .ok (excess + count, totalBytes (slots.drop count)) := by
  induction slots generalizing excess with
  | nil => exact ⟨0, isLeast_zero (Nat.zero_le _), rfl⟩
  | cons slot slots ih =>
      by_cases hover : bytes < totalBytes (slot :: slots)
      · obtain ⟨count, hleast, hrun⟩ := ih (excess + 1)
        have hmore : ¬ totalBytes ((slot :: slots).drop 0) ≤ bytes := Nat.not_le.mpr hover
        refine ⟨count + 1, isLeast_succ hmore hleast, ?_⟩
        have hkept : totalBytes (slot :: slots) - Pooled.bytes slot = totalBytes slots := by
          rw [totalBytes_cons]
          omega
        have hle : Pooled.bytes slot ≤ totalBytes (slot :: slots) := by
          rw [totalBytes_cons]
          omega
        simp only [overBudget, hover, if_true, sub64_of_le hle, ok_bind, hkept, hrun,
          List.drop_succ_cons]
        rw [Nat.add_assoc, Nat.add_comm 1]
      · exact ⟨0, isLeast_zero (Nat.le_of_not_lt hover), by simp [overBudget, hover]⟩

/-- `evict` from the end of one eviction on: no fewer and no more of the oldest than reach
what is still asked for. -/
theorem evictLoop_alone [BEq Key] {pool : ResourcePool R} {bytes : Nat} (slots : List R)
    (freed : Nat) (hfreed : freed + totalBytes slots ≤ u64Max) :
    ∃ count, Reaches slots (bytes - freed) count ∧
      (PoolCall.resuming (.evictNext bytes freed slots.length) : PoolCall R Key).EndsAs
        (pool.holding slots) ⟨pool.holding (slots.drop count), slots.take count,
          .freed (freed + totalBytes (slots.take count))⟩ := by
  induction slots generalizing freed with
  | nil => exact ⟨0, reaches_nil _, .last rfl rfl⟩
  | cons slot slots ih =>
      by_cases hdone : bytes ≤ freed
      · refine ⟨0, ?_, .last ?_ rfl⟩
        · rw [Nat.sub_eq_zero_of_le hdone]
          exact reaches_zero _
        · simp [PoolCall.advance, PoolCall.evictLoop, hdone, totalBytes]
      · rw [totalBytes_cons] at hfreed
        have hsaturating : saturatingAdd freed (Pooled.bytes slot) = freed + Pooled.bytes slot :=
          Nat.min_eq_left (by omega)
        have hnext : (PoolCall.resuming (.evictNext bytes freed (slot :: slots).length) :
            PoolCall R Key).advance (pool.holding (slot :: slots)) true =
            .ok ⟨pool.holding slots, some (.destroying [slot]
              (.evictNext bytes (freed + Pooled.bytes slot) slots.length)), .silent⟩ := by
          have hsome : (pool.holding (slot :: slots)).idle.slots.isEmpty = false := rfl
          have hremove := removeAt_holding pool slot slots
          simp [PoolCall.advance, PoolCall.evictLoop, hdone, hsome, hremove, hsaturating]
          rfl
        obtain ⟨count, hreaches, hends⟩ := ih (freed + Pooled.bytes slot) (by omega)
        refine ⟨count + 1, reaches_cons (by omega) (by rwa [Nat.sub_sub]), ?_⟩
        have hrun := PoolCall.EndsAs.silently hnext (hends.destroying [slot])
        rw [List.take_succ_cons, totalBytes_cons, ← Nat.add_assoc]
        exact hrun

/-- `put` of a resource that the limits admit. -/
theorem put_alone [BEq Key] {pool : ResourcePool R} (hp : Represented pool) {resource : R}
    (hsize : Pooled.bytes resource ≤ pool.budget) (entries : 0 < pool.maxEntries) :
    ∃ count, IsLeast {count | totalBytes (pool.idle.slots.drop count) + Pooled.bytes resource ≤
        pool.budget ∧ (pool.idle.slots.drop count).length < pool.maxEntries} count ∧
      (PoolCall.put resource : PoolCall R Key).EndsAs pool
        ⟨pool.holding (pool.idle.slots.drop count ++ [resource]), pool.idle.slots.take count,
          .silent⟩ := by
  have henter : (PoolCall.putEnter resource : PoolCall R Key).advance
      (pool.holding pool.idle.slots) true =
        PoolCall.putLoop (pool.holding pool.idle.slots) resource pool.idle.slots.length true := by
    simp [PoolCall.advance, ResourcePool.holding, setIdle]
  obtain ⟨count, hleast, hends⟩ := putLoop_alone hp.budget_le hsize entries pool.idle.slots henter
  rw [hp.holding_self] at hends
  refine ⟨count, hleast, .silently ?_ hends⟩
  simp [PoolCall.advance, Nat.not_lt.mpr hsize, entries.ne']

/-- Any other `put` leaves the pool alone and destroys its resource. -/
theorem put_alone_refused [BEq Key] {pool : ResourcePool R} {resource : R}
    (h : ¬ (Pooled.bytes resource ≤ pool.budget ∧ 0 < pool.maxEntries)) :
    (PoolCall.put resource : PoolCall R Key).EndsAs pool ⟨pool, [resource], .silent⟩ := by
  apply PoolCall.EndsAs.refuse
  have hrefused : pool.budget < Pooled.bytes resource ∨ pool.maxEntries = 0 := by omega
  simp [PoolCall.advance, hrefused]

theorem setBudget_alone [BEq Key] {pool : ResourcePool R} (hp : Represented pool)
    (bytes : Nat) :
    ∃ count, IsLeast {count | totalBytes (pool.idle.slots.drop count) ≤ bytes} count ∧
      (PoolCall.setBudget bytes : PoolCall R Key).EndsAs pool
        ⟨{ pool.holding (pool.idle.slots.drop count) with budget := bytes },
          pool.idle.slots.take count, .silent⟩ := by
  obtain ⟨count, hleast, hrun⟩ := overBudget_least bytes pool.idle.slots 0
  rw [Nat.zero_add] at hrun
  have hexact : pool.idle.bytes = totalBytes pool.idle.slots := hp.exact
  have hset : pool.setBudget bytes =
      .ok ({ pool.holding (pool.idle.slots.drop count) with budget := bytes },
        pool.idle.slots.take count) := by
    simp [ResourcePool.setBudget, hexact, hrun, ResourcePool.holding, setIdle]
  have ended : (PoolCall.resuming .done : PoolCall R Key).EndsAs
      { pool.holding (pool.idle.slots.drop count) with budget := bytes } ⟨_, [], .silent⟩ :=
    .last rfl rfl
  have hrest := ended.destroying (pool.idle.slots.take count)
  rw [List.append_nil] at hrest
  exact ⟨count, hleast, .silently (by simp [PoolCall.advance, hset]) hrest⟩

theorem evict_alone [BEq Key] {pool : ResourcePool R} (hp : Represented pool) (bytes : Nat) :
    ∃ count, Reaches pool.idle.slots bytes count ∧
      (PoolCall.evict bytes : PoolCall R Key).EndsAs pool
        ⟨pool.holding (pool.idle.slots.drop count), pool.idle.slots.take count,
          .freed (totalBytes (pool.idle.slots.take count))⟩ := by
  have hfits : totalBytes pool.idle.slots ≤ u64Max := by
    have hexact : pool.idle.bytes = totalBytes pool.idle.slots := hp.exact
    rw [← hexact]
    exact hp.within.trans hp.budget_le
  have hloop : ∃ count, Reaches pool.idle.slots (bytes - 0) count ∧
      (PoolCall.resuming (.evictNext bytes 0 pool.idle.slots.length) : PoolCall R Key).EndsAs
        (pool.holding pool.idle.slots) _ := evictLoop_alone pool.idle.slots 0 (by omega)
  obtain ⟨count, hreaches, hends⟩ := hloop
  rw [Nat.zero_add, hp.holding_self] at hends
  exact ⟨count, hreaches, .silently rfl hends⟩

/-! Taking the latest -/

/-- The latest slot with this key, and the others. -/
def latest [BEq Key] (key : Key) : List R → Option (R × List R)
  | [] => none
  | slot :: slots =>
      match latest key slots with
      | some (found, others) => some (found, slot :: others)
      | none => if Pooled.key slot == key then some (slot, slots) else none

theorem rposition_of_latest [BEq Key] (key : Key) (slots : List R) :
    (latest key slots = none → rposition (fun slot => Pooled.key slot == key) slots = none) ∧
    ∀ slot others, latest key slots = some (slot, others) →
      ∃ position, rposition (fun slot => Pooled.key slot == key) slots = some position ∧
        slots[position]? = some slot ∧ slots.eraseIdx position = others := by
  induction slots with
  | nil => exact ⟨fun _ => rfl, fun _ _ h => nomatch h⟩
  | cons first slots ih =>
      obtain ⟨hnone, hsome⟩ := ih
      cases hlater : latest key slots with
      | some later =>
          obtain ⟨position, hposition, hslot, herase⟩ := hsome later.1 later.2 hlater
          refine ⟨fun h => ?_, fun slot others h => ?_⟩
          · simp [latest, hlater] at h
          · simp only [latest, hlater] at h
            cases h
            exact ⟨position + 1, by simp [rposition, hposition], hslot, by simp [herase]⟩
      | none =>
          have hrest := hnone hlater
          by_cases hfound : (Pooled.key first == key) = true
          · refine ⟨fun h => ?_, fun slot others h => ?_⟩
            · simp [latest, hlater, hfound] at h
            · simp only [latest, hlater, hfound, if_true] at h
              cases h
              exact ⟨0, by simp [rposition, hrest, hfound], rfl, rfl⟩
          · refine ⟨fun _ => by simp [rposition, hrest, hfound], fun slot others h => ?_⟩
            simp [latest, hlater, hfound] at h

theorem latest_spec [BEq Key] {key : Key} {slots others : List R} {slot : R}
    (h : latest key slots = some (slot, others)) :
    (Pooled.key slot == key) = true ∧ slots.Perm (slot :: others) ∧ others.Sublist slots := by
  induction slots generalizing slot others with
  | nil => cases h
  | cons first slots ih =>
      cases hlater : latest key slots with
      | some later =>
          obtain ⟨found, rest⟩ := later
          simp only [latest, hlater] at h
          cases h
          obtain ⟨hkey, hperm, hsublist⟩ := ih hlater
          exact ⟨hkey, (hperm.cons first).trans (.swap _ _ _), hsublist.cons_cons first⟩
      | none =>
          by_cases hfound : (Pooled.key first == key) = true
          · simp only [latest, hlater, hfound, if_true] at h
            cases h
            exact ⟨hfound, .refl _, List.sublist_cons_self _ _⟩
          · simp [latest, hlater, hfound] at h

theorem take_alone [BEq Key] {pool : ResourcePool R} (hp : Represented pool) {key : Key}
    {slot : R} {others : List R} (h : latest key pool.idle.slots = some (slot, others)) :
    pool.take key = .ok (pool.holding others, some slot) := by
  obtain ⟨position, hposition, hslot, herase⟩ :=
    (rposition_of_latest key pool.idle.slots).2 slot others h
  obtain ⟨rest, hremove, hslots, hexact, -⟩ := removeAt_of_exact hp.exact hslot
  have hrest : rest = ⟨others, totalBytes others⟩ := by
    rw [Idle.Exact, hslots, herase] at hexact
    rw [← hexact, ← herase, ← hslots]
  simp [ResourcePool.take, hposition, hremove, hrest, ResourcePool.holding]

theorem take_nothing [BEq Key] {pool : ResourcePool R} {key : Key}
    (h : latest key pool.idle.slots = none) : pool.take key = .ok (pool, none) := by
  simp [ResourcePool.take, (rposition_of_latest key pool.idle.slots).1 h]

/-- In every state the pool can be in, a call that runs alone with every allocation granted
ends as its reference definition says: `put` drops the fewest of the oldest that make room
for its resource and adds it last, or is refused and changes nothing; `set_budget` drops the
fewest that bring the rest within the budget; `evict` drops the fewest whose bytes reach
what is asked for, or all, and answers with their bytes. -/
theorem undisturbed_calls_meet_reference [BEq Key] {c : PoolConfig R Key}
    (hc : Reachable PoolStart PoolStep c) :
    (∀ resource, Pooled.bytes resource ≤ c.shared.budget ∧ 0 < c.shared.maxEntries →
      ∃ count, IsLeast {count | totalBytes (c.shared.idle.slots.drop count) +
          Pooled.bytes resource ≤ c.shared.budget ∧
          (c.shared.idle.slots.drop count).length < c.shared.maxEntries} count ∧
        (PoolCall.put resource : PoolCall R Key).EndsAs c.shared
          ⟨c.shared.holding (c.shared.idle.slots.drop count ++ [resource]),
            c.shared.idle.slots.take count, .silent⟩) ∧
    (∀ resource, ¬ (Pooled.bytes resource ≤ c.shared.budget ∧ 0 < c.shared.maxEntries) →
      (PoolCall.put resource : PoolCall R Key).EndsAs c.shared
        ⟨c.shared, [resource], .silent⟩) ∧
    (∀ bytes, ∃ count,
      IsLeast {count | totalBytes (c.shared.idle.slots.drop count) ≤ bytes} count ∧
      (PoolCall.setBudget bytes : PoolCall R Key).EndsAs c.shared
        ⟨{ c.shared.holding (c.shared.idle.slots.drop count) with budget := bytes },
          c.shared.idle.slots.take count, .silent⟩) ∧
    ∀ bytes, ∃ count, Reaches c.shared.idle.slots bytes count ∧
      (PoolCall.evict bytes : PoolCall R Key).EndsAs c.shared
        ⟨c.shared.holding (c.shared.idle.slots.drop count), c.shared.idle.slots.take count,
          .freed (totalBytes (c.shared.idle.slots.take count))⟩ := by
  have hp := (pool_reachable_sound hc).1
  exact ⟨fun resource h => put_alone hp h.1 h.2, fun resource => put_alone_refused,
    fun bytes => setBudget_alone hp bytes, fun bytes => evict_alone hp bytes⟩

/-- One resource is idle, and five bytes are asked for. -/
theorem undisturbed_calls_meet_reference_one_idle :
    ∃ c : PoolConfig Fake Nat, Reachable PoolStart PoolStep c ∧
      c.shared = ⟨⟨[⟨1, 10⟩], 10⟩, 30, 4⟩ ∧
      ∃ count, Reaches c.shared.idle.slots 5 count ∧
        (PoolCall.evict 5 : PoolCall Fake Nat).EndsAs c.shared
          ⟨c.shared.holding (c.shared.idle.slots.drop count), c.shared.idle.slots.take count,
            .freed (totalBytes (c.shared.idle.slots.take count))⟩ := by
  have fresh : Reachable PoolStart PoolStep
      (⟨ResourcePool.withLimits 30 4, 0⟩ : PoolConfig Fake Nat) := .start (.new 4 (by decide))
  have entered := fresh.fire 0 (.enter (.put ⟨1, 10⟩)) rfl
  have looked := entered.fire 0 (.advance true rfl) rfl
  have kept := looked.fire 0 (.advance true rfl) rfl
  exact ⟨_, kept, rfl, (undisturbed_calls_meet_reference kept).2.2.2 5⟩

end GpuInfo
