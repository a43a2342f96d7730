import GpuInfo.Pool.ResourcePool
import Mathlib.Algebra.BigOperators.Group.List.Basic
import Mathlib.Logic.Relation

/-!
Representation invariant of the resource pool. Any number of threads call it,
their sections in any order; a destructor that runs between two sections may
start calls of its own. In every state in which the lock is free the byte count
is exact and within the budget, and the section each call is about to run
reaches no arithmetic fault and no removal from an empty list.
-/

namespace GpuInfo
open MachineInteger ResourcePool Interleaving
variable {R Key : Type} [Pooled R Key]

/-! Exact byte counts -/

theorem totalBytes_cons (slot : R) (slots : List R) :
    totalBytes (slot :: slots) = Pooled.bytes slot + totalBytes slots := by
  simp [totalBytes]

theorem totalBytes_append (slots more : List R) :
    totalBytes (slots ++ more) = totalBytes slots + totalBytes more := by
  simp [totalBytes]

theorem totalBytes_eraseIdx {slots : List R} {position : Nat} {slot : R}
    (h : slots[position]? = some slot) :
    Pooled.bytes slot + totalBytes (slots.eraseIdx position) = totalBytes slots := by
  induction slots generalizing position with
  | nil => simp at h
  | cons first slots ih =>
      cases position with
      | zero =>
          simp only [List.getElem?_cons_zero, Option.some.injEq] at h
          simp [h, totalBytes_cons]
      | succ position =>
          have hslot : slots[position]? = some slot := by simpa using h
          have hrest := ih hslot
          simp only [List.eraseIdx_cons_succ, totalBytes_cons]
          omega

def Idle.Exact (idle : Idle R) : Prop := idle.bytes = totalBytes idle.slots

/-- Exact accounting makes the removal of any slot safe. -/
theorem removeAt_of_exact {idle : Idle R} (exact : idle.Exact) {position : Nat} {slot : R}
    (h : idle.slots[position]? = some slot) :
    ∃ rest : Idle R, removeAt idle position = .ok (slot, rest) ∧
      rest.slots = idle.slots.eraseIdx position ∧ rest.Exact ∧
      Pooled.bytes slot + rest.bytes = idle.bytes := by
  have hsplit := totalBytes_eraseIdx h
  rw [← exact] at hsplit
  refine ⟨⟨idle.slots.eraseIdx position, idle.bytes - Pooled.bytes slot⟩, ?_, rfl, ?_, ?_⟩
  · simp [removeAt, h, sub64_of_le (show Pooled.bytes slot ≤ idle.bytes by omega)]
  · simp only [Idle.Exact]
    omega
  · dsimp only
    omega

/-- A return that does not fit meets a slot to evict: bytes above zero, or as
many entries as the (positive) limit, are both impossible on an empty list. -/
theorem exists_oldest {pool : ResourcePool R} (exact : pool.idle.Exact)
    (entries : 0 < pool.maxEntries) {size : Nat}
    (h : ¬ (pool.idle.bytes ≤ pool.budget - size ∧
      pool.idle.slots.length < pool.maxEntries)) :
    ∃ slot, pool.idle.slots[0]? = some slot := by
  cases hs : pool.idle.slots with
  | nil =>
      have hb : pool.idle.bytes = 0 := by rw [exact, hs]; rfl
      simp [hs, hb, entries] at h
  | cons slot slots => exact ⟨slot, rfl⟩

theorem rposition_lt {found : R → Bool} {slots : List R} {position : Nat}
    (h : rposition found slots = some position) :
    ∃ slot, slots[position]? = some slot ∧ found slot = true := by
  induction slots generalizing position with
  | nil => simp [rposition] at h
  | cons first slots ih =>
      cases hr : rposition found slots with
      | some later =>
          simp only [rposition, hr, Option.some.injEq] at h
          subst h
          simpa using ih hr
      | none =>
          by_cases hf : found first = true
          · simp only [rposition, hr, hf, if_true, Option.some.injEq] at h
            subst h
            exact ⟨first, rfl, hf⟩
          · simp [rposition, hr, hf] at h

/-- The loop of `set_budget` counts the bytes of exactly the slots it keeps. -/
theorem overBudget_of_exact (bytes : Nat) (slots : List R) (excess kept : Nat)
    (exact : kept = totalBytes slots) :
    ∃ passed rest : Nat, overBudget bytes slots excess kept = .ok (excess + passed, rest) ∧
      rest = totalBytes (slots.drop passed) ∧ rest ≤ bytes ∧ passed ≤ slots.length := by
  induction slots generalizing excess kept with
  | nil =>
      have hk : kept = 0 := exact
      exact ⟨0, kept, rfl, by simpa using exact, by omega, by simp⟩
  | cons slot slots ih =>
      rw [totalBytes_cons] at exact
      by_cases hover : bytes < kept
      · obtain ⟨passed, rest, hrun, htotal, hle, hlen⟩ :=
          ih (excess + 1) (kept - Pooled.bytes slot) (by omega)
        refine ⟨passed + 1, rest, ?_, by simpa using htotal, hle, by simpa using hlen⟩
        simp [overBudget, hover, sub64_of_le (show Pooled.bytes slot ≤ kept by omega), hrun]
        omega
      · exact ⟨0, kept, by simp [overBudget, hover], by simpa [totalBytes_cons] using exact,
          by omega, by simp⟩

/-! The invariant and the facts a call carries across its sections -/

/-- The pool whenever its lock is free. -/
structure Represented (pool : ResourcePool R) : Prop where
  exact : pool.idle.Exact
  within : pool.idle.bytes ≤ pool.budget
  entries : pool.idle.slots.length ≤ pool.maxEntries
  budget_le : pool.budget ≤ u64Max

theorem Represented.withLimits {budget maxEntries : Nat} (h : budget ≤ u64Max) :
    Represented (ResourcePool.withLimits budget maxEntries : ResourcePool R) :=
  ⟨rfl, Nat.zero_le _, Nat.zero_le _, h⟩

/-- A `put` that has looked at the pool knows that retention is not disabled. -/
def Resume.Sound (maxEntries : Nat) : Resume R → Prop
  | .putRetry _ _ => 0 < maxEntries
  | _ => True

def PoolCall.Sound (maxEntries : Nat) : PoolCall R Key → Prop
  | .setBudget bytes => bytes ≤ u64Max
  | .putEnter _ => 0 < maxEntries
  | .destroying _ resume | .resuming resume => resume.Sound maxEntries
  | _ => True

/-- Only `set_budget` changes the budget. -/
def PoolCall.budgetAfter (pool : ResourcePool R) : PoolCall R Key → Nat
  | .setBudget bytes => bytes
  | _ => pool.budget

/-- What a section leaves behind. -/
structure Progress.Sound (maxEntries budget : Nat) (after : Progress R Key) : Prop where
  represented : Represented after.pool
  limit : after.pool.maxEntries = maxEntries
  budget : after.pool.budget = budget
  call : ∀ call, after.call = some call → call.Sound maxEntries

/-- Removing the oldest slot and destroying it outside the lock. -/
theorem removeFirst_sound {pool : ResourcePool R} (hp : Represented pool) {slot : R}
    (h : pool.idle.slots[0]? = some slot) :
    ∃ rest : Idle R, removeAt pool.idle 0 = .ok (slot, rest) ∧
      Represented (pool.setIdle rest) := by
  obtain ⟨rest, hrun, hslots, hexact, hbytes⟩ := removeAt_of_exact hp.exact h
  have hw := hp.within
  have he := hp.entries
  refine ⟨rest, hrun, hexact, ?_, ?_, hp.budget_le⟩
  · simp only [setIdle]
    omega
  · have hlen := List.length_eraseIdx_le pool.idle.slots 0
    simp only [setIdle, hslots]
    omega

theorem take_sound [BEq Key] {pool : ResourcePool R} (hp : Represented pool) (key : Key) :
    ∃ after answer, pool.take key = .ok (after, answer) ∧ Represented after ∧
      after.maxEntries = pool.maxEntries ∧ after.budget = pool.budget := by
  simp only [take]
  cases hr : rposition (fun slot => Pooled.key slot == key) pool.idle.slots with
  | none => exact ⟨pool, none, rfl, hp, rfl, rfl⟩
  | some position =>
      obtain ⟨slot, hslot, _⟩ := rposition_lt hr
      obtain ⟨rest, hrun, hslots, hexact, hbytes⟩ := removeAt_of_exact hp.exact hslot
      have hw := hp.within
      have he := hp.entries
      refine ⟨pool.setIdle rest, some slot, by simp [hrun],
        ⟨hexact, ?_, ?_, hp.budget_le⟩, rfl, rfl⟩
      · simp only [setIdle]
        omega
      · have hlen := List.length_eraseIdx_le pool.idle.slots position
        simp only [setIdle, hslots]
        omega

theorem setBudget_sound {pool : ResourcePool R} (hp : Represented pool) {bytes : Nat}
    (hb : bytes ≤ u64Max) :
    ∃ after evicted, pool.setBudget bytes = .ok (after, evicted) ∧ Represented after ∧
      after.budget = bytes ∧ after.maxEntries = pool.maxEntries := by
  obtain ⟨passed, rest, hrun, htotal, hle, _⟩ :=
    overBudget_of_exact bytes pool.idle.slots 0 pool.idle.bytes hp.exact
  rw [Nat.zero_add] at hrun
  refine ⟨⟨⟨pool.idle.slots.drop passed, rest⟩, bytes, pool.maxEntries⟩,
    pool.idle.slots.take passed, by simp [setBudget, hrun], ⟨htotal, hle, ?_, hb⟩, rfl, rfl⟩
  have he := hp.entries
  simp only [List.length_drop]
  omega

theorem fits_of_le {pool : ResourcePool R} {size : Nat} (h : size ≤ pool.budget) :
    ∃ room, pool.fits size = .ok room ∧ (room = true ↔
      pool.idle.bytes ≤ pool.budget - size ∧ pool.idle.slots.length < pool.maxEntries) := by
  refine ⟨_, by simp [fits, h]; rfl, ?_⟩
  simp

theorem refuse_sound {pool : ResourcePool R} (hp : Represented pool) (resource : R) :
    (PoolCall.refuse pool resource : Progress R Key).Sound pool.maxEntries pool.budget :=
  ⟨hp, rfl, rfl, by intro call hcall; cases hcall; trivial⟩

/-- The last section of `put` adds a resource only into room it has just seen. -/
theorem finishPut_sound {pool : ResourcePool R} (hp : Represented pool) (resource : R)
    (grow : Bool) :
    ∃ after : Progress R Key, PoolCall.finishPut pool resource grow = .ok after ∧
      after.Sound pool.maxEntries pool.budget := by
  have refused : (PoolCall.refuse pool resource : Progress R Key).Sound pool.maxEntries
      pool.budget := refuse_sound hp resource
  by_cases hover : pool.budget < Pooled.bytes resource
  · exact ⟨_, by simp [PoolCall.finishPut, insertIdle, hover], refused⟩
  have hsize : Pooled.bytes resource ≤ pool.budget := Nat.le_of_not_lt hover
  obtain ⟨room, hfit, hroom⟩ := fits_of_le hsize
  cases room with
  | false => exact ⟨_, by simp [PoolCall.finishPut, insertIdle, hover, hfit], refused⟩
  | true =>
      cases grow with
      | false => exact ⟨_, by simp [PoolCall.finishPut, insertIdle, hover, hfit], refused⟩
      | true =>
          obtain ⟨hbytes, hlen⟩ := hroom.mp rfl
          have hexact := hp.exact
          have hsum : pool.idle.bytes + Pooled.bytes resource ≤ u64Max := by
            have := hp.budget_le
            omega
          refine ⟨⟨pool.setIdle ⟨pool.idle.slots ++ [resource],
            pool.idle.bytes + Pooled.bytes resource⟩, none, .silent⟩, ?_,
            ⟨?_, ?_, ?_, hp.budget_le⟩, rfl, rfl, by intro call hcall; cases hcall⟩
          · simp [PoolCall.finishPut, insertIdle, hover, hfit, hsum]
          · simpa [setIdle, Idle.Exact, totalBytes_append, totalBytes] using hexact
          · simp only [setIdle]
            omega
          · simp only [setIdle, List.length_append, List.length_singleton]
            omega

theorem putLoop_sound {pool : ResourcePool R} (hp : Represented pool)
    (entries : 0 < pool.maxEntries) (resource : R) (attempts : Nat) (grow : Bool) :
    ∃ after : Progress R Key, PoolCall.putLoop pool resource attempts grow = .ok after ∧
      after.Sound pool.maxEntries pool.budget := by
  have finish : ∃ after : Progress R Key, PoolCall.finishPut pool resource grow = .ok after ∧
      after.Sound pool.maxEntries pool.budget := finishPut_sound hp resource grow
  cases attempts with
  | zero => exact finish
  | succ attempts =>
      by_cases hover : pool.budget < Pooled.bytes resource
      · simpa [PoolCall.putLoop, hover] using finish
      have hsize : Pooled.bytes resource ≤ pool.budget := Nat.le_of_not_lt hover
      obtain ⟨room, hfit, hroom⟩ := fits_of_le hsize
      cases room with
      | true => simpa [PoolCall.putLoop, hover, hfit] using finish
      | false =>
          obtain ⟨old, hold⟩ := exists_oldest hp.exact entries (mt hroom.mpr (by simp))
          obtain ⟨rest, hrun, hrest⟩ := removeFirst_sound hp hold
          refine ⟨⟨pool.setIdle rest, some (.destroying [old] (.putRetry resource attempts)),
            .silent⟩, ?_, hrest, rfl, rfl, ?_⟩
          · simp [PoolCall.putLoop, hover, hfit, hrun]
          · intro call hcall
            cases hcall
            exact entries

theorem evictLoop_sound {pool : ResourcePool R} (hp : Represented pool)
    (bytes freed attempts : Nat) :
    ∃ after : Progress R Key, PoolCall.evictLoop pool bytes freed attempts = .ok after ∧
      after.Sound pool.maxEntries pool.budget := by
  have unchanged : (⟨pool, none, .freed freed⟩ : Progress R Key).Sound pool.maxEntries
      pool.budget := ⟨hp, rfl, rfl, by intro call hcall; cases hcall⟩
  cases attempts with
  | zero => exact ⟨_, rfl, unchanged⟩
  | succ attempts =>
      by_cases hdone : bytes ≤ freed
      · exact ⟨_, by simp [PoolCall.evictLoop, hdone], unchanged⟩
      cases hslots : pool.idle.slots with
      | nil => exact ⟨_, by simp [PoolCall.evictLoop, hdone, hslots], unchanged⟩
      | cons old slots =>
          have hfirst : pool.idle.slots[0]? = some old := by simp [hslots]
          obtain ⟨rest, hrun, hrest⟩ := removeFirst_sound hp hfirst
          refine ⟨_, by simp [PoolCall.evictLoop, hdone, hslots, hrun]; rfl, hrest, rfl, rfl, ?_⟩
          intro call hcall
          cases hcall
          trivial

/-- Every section of a sound call succeeds and keeps the representation. -/
theorem advance_sound [BEq Key] {pool : ResourcePool R} (hp : Represented pool)
    (grow : Bool) {call : PoolCall R Key} (hc : call.Sound pool.maxEntries) :
    ∃ after, call.advance pool grow = .ok after ∧
      after.Sound pool.maxEntries (call.budgetAfter pool) := by
  cases call with
  | take key =>
      obtain ⟨after, answer, hrun, hafter, hmax, hbudget⟩ := take_sound hp key
      exact ⟨⟨after, none, .taken answer⟩, by simp [PoolCall.advance, hrun], hafter, hmax, hbudget,
        by intro call hcall; cases hcall⟩
  | setBudget bytes =>
      obtain ⟨after, evicted, hrun, hafter, hbudget, hmax⟩ := setBudget_sound hp hc
      exact ⟨⟨after, some (.destroying evicted .done), .silent⟩, by simp [PoolCall.advance, hrun],
        hafter, hmax, hbudget, by intro call hcall; cases hcall; trivial⟩
  | put resource =>
      by_cases hrefused : pool.budget < Pooled.bytes resource ∨ pool.maxEntries = 0
      · exact ⟨_, by simp [PoolCall.advance, hrefused], refuse_sound hp resource⟩
      · refine ⟨_, by simp [PoolCall.advance, hrefused]; rfl, hp, rfl, rfl, ?_⟩
        intro call hcall
        cases hcall
        exact Nat.pos_of_ne_zero fun h => hrefused (.inr h)
  | putEnter resource =>
      cases grow with
      | true =>
          simpa [PoolCall.advance, PoolCall.budgetAfter] using putLoop_sound hp hc resource _ true
      | false => exact ⟨_, by simp [PoolCall.advance], refuse_sound hp resource⟩
  | evict bytes => exact ⟨_, rfl, hp, rfl, rfl, by intro call hcall; cases hcall; trivial⟩
  | destroying doomed resume =>
      cases doomed with
      | nil => exact ⟨_, rfl, hp, rfl, rfl, by intro call hcall; cases hcall; exact hc⟩
      | cons old doomed => exact ⟨_, rfl, hp, rfl, rfl, by intro call hcall; cases hcall; exact hc⟩
  | resuming resume =>
      cases resume with
      | done => exact ⟨_, rfl, hp, rfl, rfl, by intro call hcall; cases hcall⟩
      | putRetry resource attempts => exact putLoop_sound hp hc resource attempts grow
      | evictNext bytes freed attempts => exact evictLoop_sound hp bytes freed attempts

/-! Every interleaving -/

omit [Pooled R Key] in
theorem PoolCall.Entry.sound {call : PoolCall R Key} (h : call.Entry) (maxEntries : Nat) :
    call.Sound maxEntries := by
  cases h with
  | setBudget h => exact h
  | take _ | put _ | evict _ => trivial

theorem poolRule_keeps [BEq Key] (pool : ResourcePool R) (taken : Multiset (PoolCall R Key))
    (pool' : ResourcePool R) (left : Multiset (PoolCall R Key))
    (h : PoolRule pool taken pool' left) (hp : Represented pool)
    (hc : ∀ call ∈ taken, call.Sound pool.maxEntries) :
    Represented pool' ∧ (∀ call ∈ left, call.Sound pool'.maxEntries) ∧
      ∀ call : PoolCall R Key, call.Sound pool.maxEntries → call.Sound pool'.maxEntries := by
  cases h with
  | enter h =>
      exact ⟨hp, leaves_one (h.sound _), fun _ h => h⟩
  | @advance _ call after grow h =>
      obtain ⟨after', hrun, hafter⟩ := advance_sound hp grow (hc call (by simp))
      rw [h] at hrun
      cases hrun
      refine ⟨hafter.represented, fun next hnext => ?_, fun call hcall => ?_⟩
      · rw [hafter.limit]
        cases hcall : after.call with
        | none => simp [hcall] at hnext
        | some call =>
            have : next = call := by simpa [hcall] using hnext
            exact this ▸ hafter.call call hcall
      · rwa [hafter.limit]

theorem pool_reachable_sound [BEq Key] {c : PoolConfig R Key}
    (hc : Reachable PoolStart PoolStep c) :
    Represented c.shared ∧ ∀ call ∈ c.running, call.Sound c.shared.maxEntries := by
  refine Reachable.keeps (J := fun pool call => call.Sound pool.maxEntries) ?_ poolRule_keeps hc
  intro c hstart
  obtain ⟨maxEntries, hbudget⟩ := hstart
  exact ⟨Represented.withLimits hbudget, by simp⟩

/-- A step that is not a `set_budget` above `bytes` leaves the budget at most `bytes`. -/
theorem budget_of_not_raised [BEq Key] {c c' : PoolConfig R Key} {bytes : Nat}
    (hc : Reachable PoolStart PoolStep c) (step : PoolStep c c')
    (notRaised : ∀ more, bytes < more → ¬ SetsBudget more c c')
    (h : c.shared.budget ≤ bytes) : c'.shared.budget ≤ bytes := by
  obtain ⟨hp, hcalls⟩ := pool_reachable_sound hc
  obtain ⟨rest, rule⟩ := step
  cases rule with
  | enter _ => exact h
  | @advance _ call after grow hrun =>
      obtain ⟨after', hrun', hafter⟩ := advance_sound hp grow (hcalls call (by simp))
      rw [hrun] at hrun'
      cases hrun'
      rw [hafter.budget]
      cases call with
      | setBudget more =>
          by_contra hmore
          exact notRaised more (Nat.lt_of_not_le hmore) ⟨grow, after, rest, hrun, rfl, rfl⟩
      | take _ | put _ | putEnter _ | evict _ | destroying _ _ | resuming _ => exact h

theorem setsBudget_budget [BEq Key] {c c' : PoolConfig R Key} {bytes : Nat}
    (hc : Reachable PoolStart PoolStep c) (h : SetsBudget bytes c c') :
    PoolStep c c' ∧ c'.shared.budget = bytes := by
  obtain ⟨hp, hcalls⟩ := pool_reachable_sound hc
  obtain ⟨grow, after, rest, hrun, hrunning, rfl⟩ := h
  have hsound := hcalls (.setBudget bytes) (by rw [hrunning]; simp)
  obtain ⟨after', hrun', hafter⟩ := advance_sound hp grow hsound
  rw [hrun] at hrun'
  cases hrun'
  exact ⟨.of_rule rest (.advance grow hrun) hrunning rfl, hafter.budget⟩

/-- Whatever the threads do, whenever the lock is free the byte count is the
exact sum of the idle resources' bytes, at most the budget, and at most
`maxEntries` resources are idle; the next section of every running call runs
without fault; and once `set_budget` has set the budget to `bytes`, the idle
bytes stay within `bytes` until another `set_budget` raises it. -/
theorem resource_pool_represented [BEq Key] {c : PoolConfig R Key}
    (hc : Reachable PoolStart PoolStep c) :
    c.shared.idle.bytes = totalBytes c.shared.idle.slots ∧
    c.shared.idle.bytes ≤ c.shared.budget ∧
    c.shared.idle.slots.length ≤ c.shared.maxEntries ∧
    (∀ call ∈ c.running, ∀ grow, ∃ after, call.advance c.shared grow = .ok after) ∧
    ∀ bytes lowered, SetsBudget bytes c lowered → ∀ later,
      Relation.ReflTransGen
        (fun d d' => PoolStep d d' ∧ ∀ more, bytes < more → ¬ SetsBudget more d d') lowered later →
      later.shared.idle.bytes ≤ bytes := by
  obtain ⟨hp, hcalls⟩ := pool_reachable_sound hc
  refine ⟨hp.exact, hp.within, hp.entries, fun call hcall grow => ?_, ?_⟩
  · obtain ⟨after, hrun, _⟩ := advance_sound hp grow (hcalls call hcall)
    exact ⟨after, hrun⟩
  · intro bytes lowered hset later run
    obtain ⟨step, hbudget⟩ := setsBudget_budget hc hset
    have hlater : Reachable PoolStart PoolStep later ∧ later.shared.budget ≤ bytes := by
      induction run with
      | refl => exact ⟨hc.next step, hbudget.le⟩
      | tail _ h ih =>
          obtain ⟨hreach, hle⟩ := ih
          exact ⟨hreach.next h.1, budget_of_not_raised hreach h.1 h.2 hle⟩
    exact (pool_reachable_sound hlater.1).1.within.trans hlater.2

private def afterOnePut : PoolConfig Fake Nat :=
  ⟨⟨⟨[⟨1, 10⟩], 10⟩, 30, 4⟩, {.setBudget 5}⟩

private theorem afterOnePut_reachable : Reachable PoolStart PoolStep afterOnePut := by
  have fresh : Reachable PoolStart PoolStep
      (⟨ResourcePool.withLimits 30 4, 0⟩ : PoolConfig Fake Nat) := .start (.new 4 (by decide))
  have entered := fresh.fire 0 (.enter (.put ⟨1, 10⟩)) rfl
  have looked := entered.fire 0 (.advance true rfl) rfl
  have kept := looked.fire 0 (.advance true rfl) rfl
  exact kept.fire 0 (.enter (.setBudget (show 5 ≤ u64Max by decide))) rfl

theorem resource_pool_represented_after_one_put :
    ∃ lowered : PoolConfig Fake Nat, SetsBudget 5 afterOnePut lowered ∧
      lowered.shared.idle.bytes ≤ 5 := by
  have lowering : SetsBudget 5 afterOnePut
      ⟨⟨⟨[], 0⟩, 5, 4⟩, {.destroying [⟨1, 10⟩] .done} + 0⟩ := ⟨true, _, 0, rfl, rfl, rfl⟩
  exact ⟨_, lowering,
    (resource_pool_represented afterOnePut_reachable).2.2.2.2 5 _ lowering _ .refl⟩

end GpuInfo
