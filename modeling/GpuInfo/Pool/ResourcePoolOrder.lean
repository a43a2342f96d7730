import GpuInfo.Interleaving
import GpuInfo.Pool.ResourcePoolAlone
import GpuInfo.Pool.ResourcePoolConservation
import Mathlib.Data.Multiset.AddSub

/-!
Where the resources given to a pool are, and in what order they leave it. Beside the pool
runs a record of what it was given, of the order in which it took resources in, and of what
each call has removed. The record reads the idle list before and after a section and decides
nothing; every run of the pool is the run of some recorded pool.
-/

namespace GpuInfo
open MachineInteger ResourcePool Interleaving
variable {R Key : Type} [Pooled R Key]

structure PoolRecord (R : Type) where
  given : Multiset R
  /-- In the order in which they became idle. -/
  admitted : List R
  /-- The idle resources, by their place among the admitted. -/
  idle : List Nat
  destroyed : Multiset R
  taken : Multiset R

structure RecordedPool (R : Type) where
  pool : ResourcePool R
  record : PoolRecord R

/-- A call and the resources that its own eviction has removed so far. -/
structure RecordedCall (R Key : Type) where
  call : PoolCall R Key
  removed : List R

section
omit [Pooled R Key]

/-- The resources a call holds in order to destroy them. -/
def PoolCall.doomed : PoolCall R Key → Multiset R
  | .destroying doomed _ => doomed
  | .take _ | .setBudget _ | .put _ | .putEnter _ | .evict _ | .resuming _ => 0

def PoolCall.gives : PoolCall R Key → Multiset R
  | .put resource => {resource}
  | .take _ | .setBudget _ | .putEnter _ | .evict _ | .destroying _ _ | .resuming _ => 0

def Effect.takenNow : Effect R → Multiset R
  | .taken (some resource) => {resource}
  | .taken none | .silent | .destroyed _ | .freed _ => 0

/-- The resources that a section adds at the end of the idle list. -/
def Progress.admitted (pool : ResourcePool R) (after : Progress R Key) : List R :=
  after.pool.idle.slots.drop pool.idle.slots.length

/-- The resources that a section of any call but `take` removes from the idle list. -/
def PoolCall.evicted (pool after : ResourcePool R) : PoolCall R Key → List R
  | .take _ => []
  | .setBudget _ | .put _ | .putEnter _ | .evict _ | .destroying _ _ | .resuming _ =>
      pool.idle.slots.take (pool.idle.slots.length - after.idle.slots.length)

end

/-- The places of those that a section leaves idle. -/
def PoolCall.survivors [BEq Key] (pool after : ResourcePool R) (places : List Nat) :
    PoolCall R Key → List Nat
  | .take key =>
      match rposition (fun slot => Pooled.key slot == key) pool.idle.slots with
      | none => places
      | some position => places.eraseIdx position
  | .setBudget _ | .put _ | .putEnter _ | .evict _ | .destroying _ _ | .resuming _ =>
      places.drop (pool.idle.slots.length - after.idle.slots.length)

def PoolRecord.after [BEq Key] (record : PoolRecord R) (pool : ResourcePool R)
    (call : PoolCall R Key) (after : Progress R Key) : PoolRecord R where
  given := record.given
  admitted := record.admitted ++ after.admitted pool
  idle := call.survivors pool after.pool record.idle ++
    List.range' record.admitted.length (after.admitted pool).length
  destroyed := record.destroyed + (after.effect.destroyedNow : Multiset R)
  taken := record.taken + after.effect.takenNow

inductive RecordedRule [BEq Key] : Rule (RecordedPool R) (RecordedCall R Key)
  | enter {s : RecordedPool R} {call : PoolCall R Key} (h : call.Entry) :
      RecordedRule s 0
        ⟨s.pool, { s.record with given := s.record.given + call.gives }⟩ {⟨call, []⟩}
  | advance {s : RecordedPool R} {recorded : RecordedCall R Key} {after : Progress R Key}
      (grow : Bool) (h : recorded.call.advance s.pool grow = .ok after) :
      RecordedRule s {recorded} ⟨after.pool, s.record.after s.pool recorded.call after⟩
        (after.call.elim 0 fun call =>
          {⟨call, recorded.removed ++ recorded.call.evicted s.pool after.pool⟩})

abbrev RecordedConfig (R Key : Type) := Config (RecordedPool R) (RecordedCall R Key)

abbrev RecordedStep [BEq Key] : RecordedConfig R Key → RecordedConfig R Key → Prop :=
  Step RecordedRule

inductive RecordedStart : RecordedConfig R Key → Prop
  | new {budget : Nat} (maxEntries : Nat) (h : budget ≤ u64Max) :
      RecordedStart ⟨⟨ResourcePool.withLimits budget maxEntries, 0, [], [], 0, 0⟩, 0⟩

/-- Every run of the pool is one of a recorded pool. -/
theorem pool_run_recorded [BEq Key] {c : PoolConfig R Key} (hc : Reachable PoolStart PoolStep c) :
    ∃ c' : RecordedConfig R Key, Reachable RecordedStart RecordedStep c' ∧
      c = ⟨c'.shared.pool, c'.running.map RecordedCall.call⟩ := by
  refine hc.recorded (fun c hstart => ?_) fun s' taken' pool left rule => ?_
  · obtain ⟨maxEntries, hbudget⟩ := hstart
    exact ⟨_, .new maxEntries hbudget, rfl⟩
  · generalize htaken : taken'.map RecordedCall.call = taken at rule
    cases rule with
    | enter h =>
        rw [Multiset.map_eq_zero.mp htaken]
        exact ⟨_, _, .enter h, rfl, rfl⟩
    | @advance _ call after grow h =>
        obtain ⟨recorded, rfl, rfl⟩ := Multiset.map_eq_singleton.mp htaken
        refine ⟨_, _, .advance grow h, rfl, ?_⟩
        cases after.call with
        | none => rfl
        | some call => rfl

/-! The idle list through one section -/

/-- The idle resources are the admitted ones at these places, in the order of admission. -/
structure AdmittedAt (places : List Nat) (admitted idle : List R) : Prop where
  increasing : places.Pairwise (· < ·)
  idle : places.map (admitted[·]?) = idle.map some

/-- A section of any call but `take` removes a number of the oldest idle resources, to be
destroyed, or else adds one that was offered. -/
inductive SectionSlots (pool : ResourcePool R) (call : PoolCall R Key) (after : Progress R Key) :
    Prop
  | stays (h : after.pool.idle.slots = pool.idle.slots)
  | admits (resource : R) (offered : resource ∈ call.offered)
      (h : after.pool.idle.slots = pool.idle.slots ++ [resource])
  | evicts (evicted : List R) (resume : Resume R)
      (h : pool.idle.slots = evicted ++ after.pool.idle.slots)
      (hcall : after.call = some (.destroying evicted resume))

theorem removeAt_zero {idle rest : Idle R} {old : R} (h : removeAt idle 0 = .ok (old, rest)) :
    idle.slots = [old] ++ rest.slots := by
  obtain ⟨hslot, hrest⟩ := removeAt_slots h
  cases hslots : idle.slots with
  | nil => simp [hslots] at hslot
  | cons first slots =>
      have hfirst : first = old := by simpa [hslots] using hslot
      have hslots' : rest.slots = slots := by simpa [hslots] using hrest
      rw [hfirst, hslots']
      rfl

theorem PutSection.slots {pool : ResourcePool R} {resource : R} {call : PoolCall R Key}
    {after : Progress R Key} (offers : call.offered = {resource})
    (h : PutSection pool resource after) : SectionSlots pool call after := by
  cases h with
  | refused => exact .stays rfl
  | kept rest hslots =>
      exact .admits resource (by rw [offers]; exact Multiset.mem_singleton_self _) hslots
  | makesRoom old rest attempts hremove => exact .evicts [old] _ (removeAt_zero hremove) rfl

theorem advance_slots [BEq Key] {pool : ResourcePool R} {call : PoolCall R Key} {grow : Bool}
    {after : Progress R Key} (h : call.advance pool grow = .ok after)
    (other : ∀ key, call ≠ .take key) : SectionSlots pool call after := by
  cases call with
  | take key => exact absurd rfl (other key)
  | setBudget bytes =>
      cases hrun : pool.setBudget bytes with
      | error fault => simp [PoolCall.advance, hrun] at h
      | ok result =>
          obtain ⟨pool', evicted⟩ := result
          simp only [PoolCall.advance, hrun, ok_bind] at h
          cases h
          exact .evicts evicted .done (setBudget_slots hrun).symm rfl
  | put resource =>
      simp only [PoolCall.advance] at h
      split at h <;> cases h <;> exact .stays rfl
  | putEnter resource =>
      cases grow with
      | true => exact (putLoop_cases h).slots rfl
      | false =>
          cases h
          exact .stays rfl
  | evict bytes =>
      cases h
      exact .stays rfl
  | destroying doomed resume => cases doomed <;> cases h <;> exact .stays rfl
  | resuming resume =>
      cases resume with
      | done =>
          cases h
          exact .stays rfl
      | putRetry resource attempts => exact (putLoop_cases h).slots rfl
      | evictNext bytes freed attempts =>
          cases evictLoop_cases h with
          | answers => exact .stays rfl
          | evicts old rest attempts hremove =>
              exact .evicts [old] _ (removeAt_zero hremove) rfl

theorem take_slots [BEq Key] {pool : ResourcePool R} {key : Key} {grow : Bool}
    {after : Progress R Key} (h : (PoolCall.take key).advance pool grow = .ok after) :
    ∃ answer, after.effect = .taken answer ∧ after.call = none ∧
      TakeSection pool key after.pool answer := by
  cases htake : pool.take key with
  | error fault => simp [PoolCall.advance, htake] at h
  | ok result =>
      obtain ⟨pool', answer⟩ := result
      simp only [PoolCall.advance, htake, ok_bind] at h
      cases h
      exact ⟨answer, rfl, rfl, take_cases htake⟩

theorem rposition_none {found : R → Bool} {slots : List R} (h : rposition found slots = none) :
    ∀ slot ∈ slots, found slot = false := by
  induction slots with
  | nil => simp
  | cons first slots ih =>
      cases hrest : rposition found slots with
      | some position => simp [rposition, hrest] at h
      | none =>
          have hfirst : found first = false := by simpa [rposition, hrest] using h
          simpa [hfirst] using ih hrest

/-- `rposition` finds the last of its kind. -/
theorem rposition_last {found : R → Bool} {slots : List R} {position : Nat}
    (h : rposition found slots = some position) {later : Nat} (hlater : position < later)
    {slot : R} (hslot : slots[later]? = some slot) : found slot = false := by
  induction slots generalizing position later with
  | nil => simp at hslot
  | cons first slots ih =>
      cases later with
      | zero => exact absurd hlater (Nat.not_lt_zero _)
      | succ later =>
          rw [List.getElem?_cons_succ] at hslot
          cases hrest : rposition found slots with
          | some position' =>
              simp only [rposition, hrest, Option.some.injEq] at h
              exact ih hrest (by omega) hslot
          | none => exact rposition_none hrest slot (List.mem_of_getElem? hslot)

/-! The order of admission -/

namespace AdmittedAt
omit [Pooled R Key]
variable {places : List Nat} {admitted idle : List R}

theorem lt_length (h : AdmittedAt places admitted idle) {place : Nat} (hplace : place ∈ places) :
    place < admitted.length := by
  have hmem : admitted[place]? ∈ idle.map some := by
    rw [← h.idle]
    exact List.mem_map_of_mem hplace
  obtain ⟨resource, -, hsome⟩ := List.mem_map.mp hmem
  exact (List.getElem?_eq_some_iff.mp hsome.symm).1

theorem nil : AdmittedAt [] [] ([] : List R) := ⟨List.Pairwise.nil, rfl⟩

theorem eraseIdx (h : AdmittedAt places admitted idle) (position : Nat) :
    AdmittedAt (places.eraseIdx position) admitted (idle.eraseIdx position) := by
  refine ⟨h.increasing.sublist (List.eraseIdx_sublist places position), ?_⟩
  rw [← List.eraseIdx_map, ← List.eraseIdx_map, h.idle]

theorem drop (h : AdmittedAt places admitted idle) (count : Nat) :
    AdmittedAt (places.drop count) admitted (idle.drop count) := by
  refine ⟨h.increasing.sublist (List.drop_sublist count places), ?_⟩
  rw [List.map_drop, List.map_drop, h.idle]

theorem push (h : AdmittedAt places admitted idle) (resource : R) :
    AdmittedAt (places ++ [admitted.length]) (admitted ++ [resource]) (idle ++ [resource]) := by
  constructor
  · rw [List.pairwise_append]
    refine ⟨h.increasing, List.pairwise_singleton _ _, fun place hplace last hlast => ?_⟩
    rw [List.mem_singleton.mp hlast]
    exact h.lt_length hplace
  · have hbefore : places.map ((admitted ++ [resource])[·]?) = places.map (admitted[·]?) := by
      apply List.map_congr_left
      intro place hplace
      exact List.getElem?_append_left (h.lt_length hplace)
    rw [List.map_append, List.map_append, hbefore, h.idle]
    simp

end AdmittedAt

omit [Pooled R Key] in
theorem admitted_of_le {pool : ResourcePool R} {after : Progress R Key}
    (h : after.pool.idle.slots.length ≤ pool.idle.slots.length) : after.admitted pool = [] :=
  List.drop_eq_nil_of_le h

/-- One section keeps the record in step with the idle list. -/
theorem AdmittedAt.after [BEq Key] {pool : ResourcePool R} {record : PoolRecord R}
    (hrecord : AdmittedAt record.idle record.admitted pool.idle.slots) {call : PoolCall R Key}
    {grow : Bool} {after : Progress R Key} (h : call.advance pool grow = .ok after) :
    AdmittedAt (record.after pool call after).idle (record.after pool call after).admitted
      after.pool.idle.slots := by
  by_cases hother : ∀ key, call ≠ .take key
  · have hsurvivors : call.survivors pool after.pool record.idle =
        record.idle.drop (pool.idle.slots.length - after.pool.idle.slots.length) := by
      cases call with
      | take key => exact absurd rfl (hother key)
      | setBudget _ | put _ | putEnter _ | evict _ | destroying _ _ | resuming _ => rfl
    simp only [PoolRecord.after, hsurvivors]
    cases advance_slots h hother with
    | stays hslots =>
        rw [admitted_of_le (by rw [hslots]), hslots, Nat.sub_self]
        simpa using hrecord
    | admits resource _ hslots =>
        have hadmitted : after.admitted pool = [resource] := by simp [Progress.admitted, hslots]
        have hnone : pool.idle.slots.length - after.pool.idle.slots.length = 0 := by simp [hslots]
        rw [hadmitted, hnone, hslots]
        exact hrecord.push resource
    | evicts evicted resume hslots _ =>
        have hcount : pool.idle.slots.length - after.pool.idle.slots.length = evicted.length := by
          simp [hslots]
        have hrest := hrecord.drop evicted.length
        rw [hslots, List.drop_left] at hrest
        rw [admitted_of_le (by simp [hslots]), hcount]
        simpa using hrest
  · obtain ⟨key, rfl⟩ : ∃ key, call = .take key := by simpa using hother
    obtain ⟨answer, -, -, hsection⟩ := take_slots h
    generalize hpool : after.pool = pool' at hsection
    cases hsection with
    | nothing hnone =>
        rw [PoolRecord.after, admitted_of_le (by rw [hpool])]
        simpa [PoolCall.survivors, hnone] using hrecord
    | takes position slot rest hposition hremove =>
        obtain ⟨-, hslots⟩ := removeAt_slots hremove
        have hlength := List.length_eraseIdx_le pool.idle.slots position
        rw [PoolRecord.after, admitted_of_le (by simpa [hpool, setIdle, hslots] using hlength)]
        simpa [PoolCall.survivors, hposition, setIdle, hslots] using hrecord.eraseIdx position

/-! Where everything is -/

omit [Pooled R Key] in
theorem PoolCall.resources_split (call : PoolCall R Key) :
    call.resources = call.offered + call.doomed := by
  cases call with
  | destroying doomed resume => exact add_comm _ _
  | take _ | setBudget _ | put _ | putEnter _ | evict _ | resuming _ => exact (add_zero _).symm

omit [Pooled R Key] in
theorem PoolCall.Entry.gives {call : PoolCall R Key} (h : call.Entry) :
    call.gives = call.resources := by
  cases h <;> rfl

omit [Pooled R Key] in
theorem Effect.resources_split (effect : Effect R) :
    effect.resources = (effect.destroyedNow : Multiset R) + effect.takenNow := by
  cases effect with
  | taken answer => cases answer <;> simp [resources, destroyedNow, takenNow]
  | silent | destroyed _ | freed _ => simp [resources, destroyedNow, takenNow]

/-- Idle, held by a call, destroyed or taken: what a rule changes is what was given. -/
theorem recordedRule_balances [BEq Key] (s : RecordedPool R)
    (taken : Multiset (RecordedCall R Key)) (s' : RecordedPool R)
    (left : Multiset (RecordedCall R Key)) (h : RecordedRule s taken s' left) :
    (s'.pool.idle.slots + s'.record.destroyed + s'.record.taken : Multiset R) +
        (left.map (·.call.resources)).sum + s.record.given =
      (s.pool.idle.slots + s.record.destroyed + s.record.taken : Multiset R) +
        (taken.map (·.call.resources)).sum + s'.record.given := by
  cases h with
  | enter hentry =>
      rw [hentry.gives]
      simp only [Multiset.map_singleton, Multiset.sum_singleton, Multiset.map_zero,
        Multiset.sum_zero]
      ac_rfl
  | @advance _ recorded after grow hadvance =>
      have hmoves := (advance_moves hadvance).resources
      have hleft : ((after.call.elim 0 fun call => ({⟨call, recorded.removed ++
          recorded.call.evicted s.pool after.pool⟩} : Multiset (RecordedCall R Key))).map
          (·.call.resources)).sum = after.call.elim 0 PoolCall.resources := by
        cases after.call <;> simp
      rw [hleft]
      simp only [Progress.resources, Effect.resources_split] at hmoves
      simp only [PoolRecord.after, Multiset.map_singleton, Multiset.sum_singleton]
      calc
        (after.pool.idle.slots : Multiset R) +
              (s.record.destroyed + (after.effect.destroyedNow : Multiset R)) +
              (s.record.taken + after.effect.takenNow) + after.call.elim 0 PoolCall.resources +
              s.record.given
            = ((after.pool.idle.slots : Multiset R) + after.call.elim 0 PoolCall.resources +
              ((after.effect.destroyedNow : Multiset R) + after.effect.takenNow)) +
              s.record.destroyed + s.record.taken + s.record.given := by ac_rfl
        _ = _ := by
            rw [hmoves]
            ac_rfl

/-! What `evict` has counted -/

/-- The count that an `evict` in progress keeps. -/
def PoolCall.counting : PoolCall R Key → Option Nat
  | .evict _ => some 0
  | .destroying _ (.evictNext _ freed _) | .resuming (.evictNext _ freed _) => some freed
  | _ => none

/-- An `evict` has counted the bytes it has removed, saturated. -/
def RecordedCall.Counted (recorded : RecordedCall R Key) : Prop :=
  ∀ freed, recorded.call.counting = some freed →
    freed = min (totalBytes recorded.removed) u64Max

theorem saturatingAdd_min (bytes size : Nat) :
    saturatingAdd (min bytes u64Max) size = min (bytes + size) u64Max := by
  unfold saturatingAdd
  omega

/-- What a section makes of the count: it answers with it or hands it on. -/
structure RecordedCall.Counts (pool : ResourcePool R) (recorded : RecordedCall R Key)
    (after : Progress R Key) : Prop where
  answer : ∀ bytes, after.effect = .freed bytes →
    bytes = min (totalBytes recorded.removed) u64Max
  next : ∀ call, after.call = some call →
    RecordedCall.Counted ⟨call, recorded.removed ++ recorded.call.evicted pool after.pool⟩

namespace RecordedCall.Counts
variable {pool : ResourcePool R} {recorded : RecordedCall R Key}

/-- A section in which no `evict` takes part. -/
theorem uncounted {after : Progress R Key} (silent : ∀ bytes, after.effect ≠ .freed bytes)
    (h : ∀ call, after.call = some call → call.counting = none) :
    RecordedCall.Counts pool recorded after := by
  refine ⟨fun bytes hfreed => absurd hfreed (silent bytes), fun call hcall freed hfreed => ?_⟩
  rw [h call hcall] at hfreed
  cases hfreed

theorem putSection {resource : R} {after : Progress R Key}
    (h : PutSection pool resource after) : RecordedCall.Counts pool recorded after := by
  cases h with
  | refused =>
      exact uncounted (by simp [PoolCall.refuse]) (by intro call hcall; cases hcall; rfl)
  | kept rest hslots => exact uncounted (by simp) (by simp)
  | makesRoom old rest attempts hremove =>
      exact uncounted (by simp) (by intro call hcall; cases hcall; rfl)

/-- The idle list stays as it is, and the count is handed on. -/
theorem untouched {next : PoolCall R Key} {effect : Effect R} (hcounted : recorded.Counted)
    (silent : ∀ bytes, effect ≠ .freed bytes) (same : next.counting = recorded.call.counting) :
    RecordedCall.Counts pool recorded ⟨pool, some next, effect⟩ := by
  refine ⟨fun bytes hfreed => absurd hfreed (silent bytes), fun call hcall freed hfreed => ?_⟩
  cases hcall
  have hevicted : recorded.call.evicted pool pool = [] := by
    cases recorded.call <;> simp [PoolCall.evicted]
  rw [hevicted, List.append_nil]
  exact hcounted freed (same ▸ hfreed)

theorem evictSection {bytes freed : Nat} {after : Progress R Key}
    (hcounted : recorded.Counted) (hfreed : recorded.call.counting = some freed)
    (notTake : recorded.call.evicted pool after.pool =
      pool.idle.slots.take (pool.idle.slots.length - after.pool.idle.slots.length))
    (h : EvictSection pool bytes freed after) : RecordedCall.Counts pool recorded after := by
  have hcount := hcounted freed hfreed
  cases h with
  | answers =>
      refine ⟨fun answer hanswer => ?_, by simp⟩
      cases hanswer
      exact hcount
  | evicts old rest attempts hremove =>
      refine ⟨by simp, fun call hcall freed' hfreed' => ?_⟩
      cases hcall
      cases hfreed'
      have hevicted : recorded.call.evicted pool (pool.setIdle rest) = [old] := by
        rw [notTake, removeAt_zero hremove]
        simp [setIdle]
      rw [hevicted, totalBytes_append, hcount, saturatingAdd_min]
      simp [totalBytes]

end RecordedCall.Counts

theorem advance_counts [BEq Key] {pool : ResourcePool R} {recorded : RecordedCall R Key}
    (hcounted : recorded.Counted) {grow : Bool} {after : Progress R Key}
    (h : recorded.call.advance pool grow = .ok after) :
    RecordedCall.Counts pool recorded after := by
  obtain ⟨before, removed⟩ := recorded
  cases before with
  | take key =>
      obtain ⟨answer, heffect, hnone, _⟩ := take_slots h
      exact .uncounted (by simp [heffect]) (by simp [hnone])
  | setBudget bytes =>
      cases hrun : pool.setBudget bytes with
      | error fault => simp [PoolCall.advance, hrun] at h
      | ok result =>
          simp only [PoolCall.advance, hrun, ok_bind] at h
          cases h
          exact .uncounted (by simp) (by intro call hcall; cases hcall; rfl)
  | put resource =>
      simp only [PoolCall.advance] at h
      split at h <;> cases h <;> exact .untouched hcounted (by simp) rfl
  | putEnter resource =>
      cases grow with
      | true => exact .putSection (putLoop_cases h)
      | false =>
          cases h
          exact .untouched hcounted (by simp) rfl
  | evict bytes =>
      cases h
      exact .untouched hcounted (by simp) rfl
  | destroying doomed resume =>
      cases doomed <;> cases h <;> exact .untouched hcounted (by simp) (by cases resume <;> rfl)
  | resuming resume =>
      cases resume with
      | done =>
          cases h
          exact .uncounted (by simp) (by simp)
      | putRetry resource attempts => exact .putSection (putLoop_cases h)
      | evictNext bytes freed attempts =>
          exact .evictSection hcounted rfl rfl (evictLoop_cases h)

/-! Every interleaving -/

/-- The answer of `take`: the latest idle resource of its key, or none where no idle
resource has the key. -/
inductive TakesLatest [BEq Key] (pool : ResourcePool R) (key : Key) (after : Progress R Key) :
    Prop
  | nothing (answer : after.effect = .taken none)
      (same : after.pool.idle.slots = pool.idle.slots)
      (none : ∀ slot ∈ pool.idle.slots, (Pooled.key slot == key) = false)
  | latest (position : Nat) (resource : R) (answer : after.effect = .taken (some resource))
      (here : pool.idle.slots[position]? = some resource)
      (its : (Pooled.key resource == key) = true)
      (leaves : after.pool.idle.slots = pool.idle.slots.eraseIdx position)
      (last : ∀ later slot, position < later → pool.idle.slots[later]? = some slot →
        (Pooled.key slot == key) = false)

theorem take_latest [BEq Key] {pool : ResourcePool R} {key : Key} {grow : Bool}
    {after : Progress R Key} (h : (PoolCall.take key).advance pool grow = .ok after) :
    TakesLatest pool key after := by
  obtain ⟨answer, heffect, _, hsection⟩ := take_slots h
  generalize hpool : after.pool = pool' at hsection
  cases hsection with
  | nothing hnone => exact .nothing heffect (by rw [hpool]) (rposition_none hnone)
  | takes position slot rest hposition hremove =>
      obtain ⟨hslot, hrest⟩ := removeAt_slots hremove
      obtain ⟨found, hfound, hits⟩ := rposition_lt hposition
      cases hslot.symm.trans hfound
      refine .latest position slot heffect hslot hits ?_ fun later other hlater hother =>
        rposition_last hposition hlater hother
      rw [hpool]
      exact hrest

theorem recorded_reachable [BEq Key] {c : RecordedConfig R Key}
    (hc : Reachable RecordedStart RecordedStep c) :
    AdmittedAt c.shared.record.idle c.shared.record.admitted c.shared.pool.idle.slots ∧
      ∀ recorded ∈ c.running, recorded.Counted := by
  refine Reachable.keeps
    (I := fun s : RecordedPool R => AdmittedAt s.record.idle s.record.admitted s.pool.idle.slots)
    (J := fun _ (recorded : RecordedCall R Key) => recorded.Counted) ?_ ?_ hc
  · intro c hstart
    obtain ⟨maxEntries, hbudget⟩ := hstart
    exact ⟨.nil, by simp⟩
  · intro s taken s' left rule hadmitted hcounted
    cases rule with
    | enter hentry =>
        refine ⟨hadmitted, fun recorded hrecorded freed hfreed => ?_, fun _ h => h⟩
        rw [Multiset.mem_singleton.mp hrecorded] at hfreed ⊢
        cases hentry <;> cases hfreed
        simp [totalBytes]
    | @advance _ recorded after grow hadvance =>
        refine ⟨hadmitted.after hadvance, fun next hnext => ?_, fun _ h => h⟩
        have hcounts := advance_counts (hcounted recorded (Multiset.mem_singleton_self _)) hadvance
        cases hcall : after.call with
        | none => simp [hcall] at hnext
        | some call =>
            rw [hcall] at hnext
            rw [Multiset.mem_singleton.mp hnext]
            exact hcounts.next call hcall

/-- Whatever the threads do, every resource given to the pool is idle, still with the `put`
it was given to, about to be destroyed, destroyed, or with the caller of one `take`; the idle
resources are in the order of their admission. The next section of every running call takes
the latest idle resource of its key or none if there is none, or removes the oldest idle
resources, or adds one at the end; and `evict` answers with the bytes of what it has
removed, or with the largest `u64` if they come to more. -/
theorem resource_pool_orderly [BEq Key] {c : RecordedConfig R Key}
    (hc : Reachable RecordedStart RecordedStep c) :
    c.shared.record.given = (c.shared.pool.idle.slots : Multiset R) + c.held (·.call.offered) +
      c.held (·.call.doomed) + c.shared.record.destroyed + c.shared.record.taken ∧
    AdmittedAt c.shared.record.idle c.shared.record.admitted c.shared.pool.idle.slots ∧
    ∀ recorded ∈ c.running, ∀ grow after,
      recorded.call.advance c.shared.pool grow = .ok after →
      (∀ key, recorded.call = .take key → TakesLatest c.shared.pool key after) ∧
      ((∀ key, recorded.call ≠ .take key) →
        SectionSlots c.shared.pool recorded.call after) ∧
      ∀ bytes, after.effect = .freed bytes →
        bytes = min (totalBytes recorded.removed) u64Max := by
  have hplaces : (c.shared.pool.idle.slots + c.shared.record.destroyed + c.shared.record.taken :
      Multiset R) + c.held (·.call.resources) = c.shared.record.given := by
    refine hc.invariant (I := fun c : RecordedConfig R Key => (c.shared.pool.idle.slots +
      c.shared.record.destroyed + c.shared.record.taken : Multiset R) +
      c.held (·.call.resources) = c.shared.record.given) ?_ ?_
    · intro c hstart
      obtain ⟨maxEntries, hbudget⟩ := hstart
      rfl
    · intro c c' hbalance step
      exact step.balances (J := fun _ _ => True)
        (fun s taken s' left h _ => recordedRule_balances s taken s' left h)
        (fun _ _ => trivial) hbalance
  obtain ⟨hadmitted, hcounted⟩ := recorded_reachable hc
  refine ⟨?_, hadmitted, fun recorded hrecorded grow after hadvance => ⟨?_, ?_, ?_⟩⟩
  · have hsplit : c.held (·.call.resources) = c.held (·.call.offered) + c.held (·.call.doomed) := by
      simp only [PoolCall.resources_split]
      exact Config.held_add _ _ c
    rw [← hplaces, hsplit]
    ac_rfl
  · intro key hkey
    rw [hkey] at hadvance
    exact take_latest hadvance
  · exact advance_slots hadvance
  · exact fun bytes => (advance_counts (hcounted recorded hrecorded) hadvance).answer bytes

/-- One resource is idle, and an `evict` begins. -/
def recordedOneIdle (resource : Fake) : RecordedConfig Fake Nat :=
  ⟨⟨⟨⟨[resource], resource.bytes⟩, 30, 4⟩, {resource}, [resource], [0], 0, 0⟩, {⟨.evict 5, []⟩}⟩

theorem resource_pool_orderly_one_idle :
    (recordedOneIdle ⟨1, 10⟩).shared.record.given = {⟨1, 10⟩} +
      (recordedOneIdle ⟨1, 10⟩).held (·.call.offered) +
      (recordedOneIdle ⟨1, 10⟩).held (·.call.doomed) + 0 + 0 ∧
    AdmittedAt [0] [(⟨1, 10⟩ : Fake)] [⟨1, 10⟩] := by
  have fresh : Reachable RecordedStart RecordedStep
      (⟨⟨ResourcePool.withLimits 30 4, 0, [], [], 0, 0⟩, 0⟩ : RecordedConfig Fake Nat) :=
    .start (.new 4 (by decide))
  have entered := fresh.fire 0 (.enter (.put ⟨1, 10⟩)) rfl
  have looked := entered.fire 0 (.advance true rfl) rfl
  have kept := looked.fire 0 (.advance true rfl) rfl
  have evicting : Reachable RecordedStart RecordedStep (recordedOneIdle ⟨1, 10⟩) :=
    kept.fire 0 (.enter (.evict (show 5 ≤ u64Max by decide))) rfl
  have h := resource_pool_orderly evicting
  exact ⟨h.1, h.2.1⟩

/-- A resource of the largest size. -/
def largestFake : Fake := ⟨3, ⟨u64Max, by decide⟩⟩

theorem putEnter_largestFake :
    (PoolCall.putEnter largestFake : PoolCall Fake Nat).advance ⟨⟨[], 0⟩, u64Max, 8⟩ true =
      .ok ⟨⟨⟨[largestFake], u64Max⟩, u64Max, 8⟩, none, .silent⟩ := by
  have hbytes : Pooled.bytes largestFake = u64Max := rfl
  simp [PoolCall.advance, PoolCall.putLoop, PoolCall.finishPut, insertIdle, fits, hbytes, setIdle]

/-- Between two removals of an `evict` another thread takes the next resource and returns
one of the largest size. -/
theorem evict_can_answer_less_than_it_removed :
    ¬ ∀ c : RecordedConfig Fake Nat, Reachable RecordedStart RecordedStep c →
      ∀ recorded ∈ c.running, ∀ grow after,
        recorded.call.advance c.shared.pool grow = .ok after →
        ∀ bytes, after.effect = .freed bytes → bytes = totalBytes recorded.removed := by
  intro exact
  have fresh : Reachable RecordedStart RecordedStep
      (⟨⟨ResourcePool.withLimits u64Max 8, 0, [], [], 0, 0⟩, 0⟩ : RecordedConfig Fake Nat) :=
    .start (.new 8 (by decide))
  have small := ((fresh.fire 0 (.enter (.put ⟨1, 1⟩)) rfl).fire 0 (.advance true rfl) rfl).fire 0
    (.advance true rfl) rfl
  have two := ((small.fire 0 (.enter (.put ⟨2, 0⟩)) rfl).fire 0 (.advance true rfl) rfl).fire 0
    (.advance true rfl) rfl
  have evicting := (two.fire 0 (.enter (.evict (show 2 ≤ u64Max by decide))) rfl).fire 0
    (.advance true rfl) rfl
  have removed := evicting.fire 0 (.advance true rfl) rfl
  have taken := (removed.fire {⟨.destroying [⟨1, 1⟩] (.evictNext 2 1 1), [⟨1, 1⟩]⟩}
    (.enter (.take 2)) rfl).fire _ (.advance true rfl) rfl
  have largest := ((taken.fire {⟨.destroying [⟨1, 1⟩] (.evictNext 2 1 1), [⟨1, 1⟩]⟩}
    (.enter (.put largestFake)) rfl).fire _ (.advance true rfl) rfl).fire _
    (.advance true putEnter_largestFake) rfl
  have goesOn := (largest.fire 0 (.advance true rfl) rfl).fire 0 (.advance true rfl) rfl
  have both := goesOn.fire 0 (.advance true rfl) rfl
  have destroyed := (both.fire 0 (.advance true rfl) rfl).fire 0 (.advance true rfl) rfl
  have answered := exact _ destroyed _ (Multiset.mem_singleton_self _) true _ rfl _ rfl
  revert answered
  decide

end GpuInfo
