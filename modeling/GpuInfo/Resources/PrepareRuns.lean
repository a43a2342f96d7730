import Mathlib.Data.List.ReduceOption
import GpuInfo.Pool.ResourcePoolConservation
import GpuInfo.Resources.Prepare

/-!
An undisturbed `prepare` is one of the runs of the rules: its sections are fired one after
another, with nothing in between. So whatever holds in every run holds after it.
-/

namespace GpuInfo
open MachineInteger FuelProgram
variable {Format : Type} [DecidableEq Format] [Wgpu Format]
variable {limits : Limits} {s s' : Inner Format} {rest : Multiset (Activity Format)}

omit [DecidableEq Format] [Wgpu Format] in
theorem Inner.setPool_self (s : Inner Format) : s.setPool s.pool = s := by
  have stays : ∀ native, s.entering s.pool native = false := fun native => by
    simp [Inner.entering]
  have hnatives : (fun native => (s.natives native).map fun object =>
      if s.entering s.pool native then { object with lateReturn := s.loss.isSome }
      else object) = s.natives := by
    funext native
    simp [stays]
  rw [Inner.setPool, hnatives]

omit [DecidableEq Format] [Wgpu Format] in
theorem observe_remapsLocked {effect : Effect (ChargedAllocation Format)}
    (h : s.observe effect = .ok s') : s'.remapsLocked = s.remapsLocked := by
  cases effect with
  | destroyed allocation =>
      cases hrelease : s.memory.release allocation.bytes with
      | error fault => simp [Inner.observe, hrelease] at h
      | ok memory =>
          simp only [Inner.observe, hrelease, ok_bind] at h
          cases h
          rfl
  | silent | taken _ | freed _ =>
      cases h
      rfl

abbrev ResourceReachable (limits : Limits) (c : ResourceConfig Format) : Prop :=
  Interleaving.Reachable ResourceStart (ResourceStep limits) c

omit [Wgpu Format] in
/-- The first section of a call, and what follows it. -/
theorem callFor_succ {fuel : Nat} {call : PoolCall (ChargedAllocation Format) (Spec Format)}
    (h : s.callFor (fuel + 1) call = .ok (some s')) :
    ∃ after s₁, call.advance s.pool true = .ok after ∧
      (s.setPool after.pool).observe after.effect = .ok s₁ ∧
      (after.call = none ∧ s₁ = s' ∨
        ∃ next, after.call = some next ∧ s₁.callFor fuel next = .ok (some s')) := by
  rw [Inner.callFor] at h
  cases hadvance : call.advance s.pool true with
  | error fault => simp [hadvance] at h
  | ok after =>
      cases hseen : (s.setPool after.pool).observe after.effect with
      | error fault => simp [hadvance, hseen] at h
      | ok s₁ =>
          simp only [hadvance, hseen, ok_bind] at h
          refine ⟨after, s₁, rfl, hseen, ?_⟩
          cases hnext : after.call with
          | none =>
              rw [hnext] at h
              cases h
              exact .inl ⟨rfl, rfl⟩
          | some next =>
              rw [hnext] at h
              exact .inr ⟨next, rfl, h⟩

theorem callFor_reachable {fuel : Nat}
    {call : PoolCall (ChargedAllocation Format) (Spec Format)} {purpose : Purpose Format}
    (h : s.callFor fuel call = .ok (some s'))
    (hs : ResourceReachable limits ⟨s, {.calling call purpose} + rest⟩) :
    ResourceReachable limits
      ⟨{ s' with returning := s'.returning - purpose.returned }, purpose.resume + rest⟩ := by
  induction fuel generalizing s call with
  | zero => cases h
  | succ fuel ih =>
      obtain ⟨⟨pool, next, effect⟩, s₁, hadvance, hseen, hrest⟩ := callFor_succ h
      cases hrest with
      | inl last =>
          obtain ⟨rfl, rfl⟩ := last
          exact hs.fire rest (.finish true hadvance hseen) rfl
      | inr more =>
          obtain ⟨next, rfl, hrun⟩ := more
          exact ih hrun (hs.fire rest (.advance true hadvance hseen) rfl)

omit [Wgpu Format] in
theorem callFor_remapsLocked {fuel : Nat}
    {call : PoolCall (ChargedAllocation Format) (Spec Format)}
    (h : s.callFor fuel call = .ok (some s')) : s'.remapsLocked = s.remapsLocked := by
  induction fuel generalizing s call with
  | zero => cases h
  | succ fuel ih =>
      obtain ⟨after, s₁, -, hseen, hrest⟩ := callFor_succ h
      have hsame : s₁.remapsLocked = s.remapsLocked :=
        observe_remapsLocked (s := s.setPool after.pool) hseen
      cases hrest with
      | inl last => exact last.2 ▸ hsame
      | inr more =>
          obtain ⟨next, -, hrun⟩ := more
          exact (ih hrun).trans hsame

omit [Wgpu Format] in
/-- The destructor of one allocation takes three sections. -/
theorem destroy_call {allocation : ChargedAllocation Format} (h : s.destroy allocation = .ok s') :
    s.callFor 3 (.destroying [allocation] .done) = .ok (some s') := by
  have hseen : (s.setPool s.pool).observe (.destroyed allocation) = .ok s' := by
    rw [Inner.setPool_self]
    exact h
  have quiet : (s'.setPool s'.pool).observe .silent = .ok s' := by
    rw [Inner.setPool_self]
    rfl
  simp only [Inner.callFor, PoolCall.advance, ok_bind, hseen, quiet]

theorem discard_reachable {allocation : ChargedAllocation Format} {owners : List (Owned Format)}
    {ending : Ending Format} (h : s.destroy allocation = .ok s')
    (hs : ResourceReachable limits
      ⟨s, {.discard allocation (.dropping owners ending false)} + rest⟩) :
    ResourceReachable limits ⟨s', {.dropping owners ending} + rest⟩ :=
  callFor_reachable (destroy_call h) hs

theorem dropOwned_reachable {fuel : Nat} {owned : Owned Format} {owners : List (Owned Format)}
    {ending : Ending Format} (unlocked : s.remapsLocked = false)
    (h : AnswersWith fuel (s.dropOwned owned) s')
    (hs : ResourceReachable limits ⟨s, {.dropping (owned :: owners) ending} + rest⟩) :
    ResourceReachable limits ⟨s', {.dropping owners ending} + rest⟩ ∧
      s'.remapsLocked = false := by
  have discarded : ∀ {s₁ : Inner Format}, s.destroy owned.allocation = .ok s₁ →
      ResourceReachable limits
        ⟨s, {.discard owned.allocation (.dropping owners ending false)} + rest⟩ →
      ResourceReachable limits ⟨s₁, {.dropping owners ending} + rest⟩ ∧
        s₁.remapsLocked = false :=
    fun hdestroy hdiscard => ⟨discard_reachable hdestroy hdiscard,
      (observe_remapsLocked hdestroy).trans unlocked⟩
  unfold Inner.dropOwned at h
  simp only at h
  split at h
  · rename_i kept
    have discards : (owned.healthy && owned.allocation.resource.spec.reusable) = false := by
      cases hhealthy : owned.healthy <;> simp_all
    exact discarded h.of_lift (hs.fire rest (.move (.discard owners ending discards)) rfl)
  · rename_i kept
    have offers : (owned.healthy && owned.allocation.resource.spec.reusable) = true := by
      simpa using kept
    have offered := hs.fire rest (.move (.offer owners ending offers)) rfl
    split at h
    · rename_i refused
      by_cases hsize : s.pool.budget < owned.allocation.bytes
      · exact discarded h.of_lift (offered.fire rest (.overBudget hsize) rfl)
      · have hbudget : s.pool.budget = 0 := by simpa [hsize] using refused
        have small := offered.fire rest (.withinBudget (Nat.not_lt.mp hsize)) rfl
        exact discarded h.of_lift (small.fire rest (.noBudget hbudget) rfl)
    · rename_i retained
      simp only [Bool.or_eq_true, decide_eq_true_eq, not_or, Nat.not_lt] at retained
      have small := offered.fire rest (.withinBudget retained.1) rfl
      have wanted := small.fire rest (.someBudget retained.2) rfl
      split at h
      · rename_i lost
        have hloss : s.loss ≠ none := Option.isSome_iff_ne_none.mp lost
        exact discarded h.of_lift (wanted.fire rest (.lost hloss) rfl)
      · rename_i safe
        have hloss : s.loss = none := by simpa using safe
        split at h
        · rename_i unmapped
          have pushing := wanted.fire rest (.remap hloss unmapped) rfl
          cases h.of_pure
          exact ⟨pushing.fire rest (.push unlocked) rfl, unlocked⟩
        · rename_i mapped
          have putting := wanted.fire rest (.put hloss (by simpa using mapped)) rfl
          obtain ⟨s₁, hcall, hrest⟩ := h.of_bind
          cases hrest.of_pure
          exact ⟨callFor_reachable hcall putting, (callFor_remapsLocked hcall).trans unlocked⟩

theorem dropOwners_reachable {fuel : Nat} {owners : List (Owned Format)} {ending : Ending Format}
    (unlocked : s.remapsLocked = false) (h : AnswersWith fuel (s.dropOwners owners) s')
    (hs : ResourceReachable limits ⟨s, {.dropping owners ending} + rest⟩) :
    ResourceReachable limits ⟨s', {.dropping [] ending} + rest⟩ := by
  induction owners generalizing s with
  | nil =>
      cases h.of_pure
      exact hs
  | cons owned owners ih =>
      obtain ⟨s₁, hdrop, hrest⟩ := AnswersWith.of_bind h
      have dropped := dropOwned_reachable unlocked hdrop hs
      exact ih dropped.2 hrest dropped.1

/-- What the loop over the descriptors leaves to do. -/
def taken (specs : List (Spec Format)) (slots : Slots Format) :
    Except (ResourceError Format) Nat → Activity Format
  | .ok missing => .reserving specs slots missing false
  | .error error => .dropping slots.owners (.prepareFails error)

theorem takeMatches_reachable {pool pool' : ResourcePool (ChargedAllocation Format)}
    {specs todo : List (Spec Format)} {slots slots' : Slots Format} {missing : Nat}
    {answer : Except (ResourceError Format) Nat}
    (h : takeMatches limits pool todo slots missing = .ok (pool', slots', answer))
    (hs : ResourceReachable limits ⟨{ s with pool }, {.taking specs todo slots missing} + rest⟩) :
    ResourceReachable limits ⟨{ s with pool := pool' }, {taken specs slots' answer} + rest⟩ := by
  induction todo generalizing pool slots missing with
  | nil =>
      cases h
      exact hs.fire rest (.move (.planned _ _ _)) rfl
  | cons spec todo ih =>
      have misses : (spec.normalized.reusable = true →
            pool.take spec.normalized = .ok (pool, none)) →
          ResourceReachable limits
            ⟨{ s with pool := pool' }, {taken specs slots' answer} + rest⟩ := by
        intro absent
        cases hadd : addMissing limits missing spec with
        | error error =>
            rw [takeMatches_missFails absent hadd] at h
            cases h
            exact hs.fire rest (.missFails absent hadd) rfl
        | ok more =>
            rw [takeMatches_miss absent hadd] at h
            exact ih h (hs.fire rest (.miss absent hadd) rfl)
      by_cases hreusable : spec.normalized.reusable = true
      · cases htake : pool.take spec.normalized with
        | error fault => simp [takeMatches, hreusable, htake] at h
        | ok result =>
            obtain ⟨pool₁, found⟩ := result
            cases found with
            | some allocation =>
                rw [takeMatches_hit hreusable htake] at h
                exact ih h (hs.fire rest (.hit hreusable htake) rfl)
            | none =>
                cases take_cases htake
                exact misses fun _ => htake
      · exact misses fun hpositive => absurd hpositive hreusable

/-- What the admission leaves to do, with the error scopes pushed if it succeeds. -/
def admitted (s : Inner Format) (specs : List (Spec Format)) (slots : Slots Format) :
    Except AdmissionError Nat → ResourceConfig Format
  | .ok remaining => ⟨{ s with nextCreation := s.nextCreation + 1 },
      {.creating s.nextCreation (slots.zip specs) [] remaining}⟩
  | .error error => ⟨s, {.dropping slots.owners (.prepareFails (.admission error))}⟩

theorem reserve_reachable {specs : List (Spec Format)} {slots : Slots Format} {missing : Nat}
    {evicted : Bool} {memory : MemoryUsage} {answer : Except AdmissionError Nat}
    (h : s.memory.reserve missing = .ok (memory, answer))
    (final : evicted = true ∨
      ∀ requested used limit, answer ≠ .error (.capacity requested used limit))
    (hs : ResourceReachable limits ⟨s, {.reserving specs slots missing evicted} + rest⟩) :
    ResourceReachable limits ⟨(admitted { s with memory } specs slots answer).shared,
      (admitted { s with memory } specs slots answer).running + rest⟩ := by
  cases answer with
  | ok remaining => exact hs.fire rest (.reserve h) rfl
  | error error =>
      refine hs.fire rest (.reserveFails h (final.imp id ?_)) rfl
      intro other requested used limit heq
      exact other requested used limit (congrArg Except.error heq)

theorem reserveMissing_reachable {fuel : Nat} {specs : List (Spec Format)} {slots : Slots Format}
    {missing : Nat} {answer : Except AdmissionError Nat}
    (h : AnswersWith fuel (s.reserveMissing missing) (s', answer))
    (hs : ResourceReachable limits ⟨s, {.reserving specs slots missing false} + rest⟩) :
    ResourceReachable limits ⟨(admitted s' specs slots answer).shared,
      (admitted s' specs slots answer).running + rest⟩ ∧ s'.remapsLocked = s.remapsLocked := by
  obtain ⟨⟨memory, first⟩, hfirst, hrest⟩ := h.of_bind
  have hreserve := hfirst.of_lift
  have settled : (∀ requested used limit, first ≠ .error (.capacity requested used limit)) →
      (s', answer) = ({ s with memory }, first) →
      ResourceReachable limits ⟨(admitted s' specs slots answer).shared,
        (admitted s' specs slots answer).running + rest⟩ ∧ s'.remapsLocked = s.remapsLocked := by
    intro other heq
    cases heq
    exact ⟨reserve_reachable hreserve (.inr other) hs, rfl⟩
  cases first with
  | ok remaining => exact settled nofun hrest.of_pure
  | error error =>
      cases error with
      | capacity requested used limit =>
          obtain ⟨s₁, hcall, hagain⟩ := AnswersWith.of_bind hrest
          obtain ⟨⟨memory₂, second⟩, hsecond, hpure⟩ := hagain.of_bind
          cases hpure.of_pure
          have evicted := callFor_reachable hcall (hs.fire rest (.evict hreserve) rfl)
          have unchanged := callFor_remapsLocked hcall
          exact ⟨reserve_reachable hsecond.of_lift (.inl rfl) evicted, unchanged⟩
      | unconfigured | overflow | reservationTooSmall _ _ =>
          exact settled (by simp) hrest.of_pure

/-- What the closure of `prepare` leaves to do. -/
def created (creation : CreationId) (slots : Slots Format) (remaining : Nat) :
    Except (ResourceError Format) Unit → Activity Format
  | .ok () => .creating creation [] slots remaining
  | .error error => .dropping slots.owners (.creationFails creation remaining error)

omit [DecidableEq Format] [Wgpu Format] in
theorem owners_unfinished (slots : Slots Format)
    (todo : List (Option (Owned Format) × Spec Format)) :
    Slots.owners (slots ++ none :: todo.map (·.1)) = unfinished slots todo := by
  rw [unfinished, Slots.owners, Slots.owners, List.reduceOption_append, List.reduceOption_append,
    List.reduceOption_cons_of_none]

theorem createMissing_reachable {creation : CreationId}
    {todo : List (Option (Owned Format) × Spec Format)} {slots slots' : Slots Format}
    {remaining remaining' : Nat} {answer : Except (ResourceError Format) Unit}
    (h : createMissing limits creation s todo slots remaining =
      .ok (s', slots', remaining', answer))
    (hs : ResourceReachable limits ⟨s, {.creating creation todo slots remaining} + rest⟩) :
    ResourceReachable limits ⟨s', {created creation slots' remaining' answer} + rest⟩ ∧
      s'.remapsLocked = s.remapsLocked := by
  induction todo generalizing s slots remaining with
  | nil =>
      cases h
      exact ⟨hs, rfl⟩
  | cons next todo ih =>
      obtain ⟨found, spec⟩ := next
      cases found with
      | some owned => exact ih h (hs.fire rest (.move (.kept _ _ _ _ _ _)) rfl)
      | none =>
          rw [createMissing] at h
          split at h
          · rename_i error hbytes
            cases h
            rw [created, owners_unfinished]
            exact ⟨hs.fire rest (.createInvalid hbytes) rfl, rfl⟩
          · rename_i bytes hbytes
            cases hcharge : charge s.memory remaining (newAllocation s.nextNative hbytes) with
            | error fault => simp [hcharge] at h
            | ok result =>
                obtain ⟨memory, left, charged⟩ := result
                rw [hcharge, ok_bind] at h
                cases charged with
                | error error =>
                    cases h
                    rw [created, owners_unfinished]
                    exact ⟨hs.fire rest (.chargeFails hbytes hcharge) rfl, rfl⟩
                | ok allocation =>
                    have made := ih h (hs.fire rest (.create hbytes hcharge) rfl)
                    exact made

/-- What an ended `prepare` has handed out. -/
def prepared : Except (ResourceError Format)
    (CreationId × Except (ResourceError Format) (Slots Format)) → Multiset (Activity Format)
  | .ok (creation, value) => {.prepared creation value}
  | .error _ => 0

theorem prepareFails_reachable {fuel : Nat} {owners : List (Owned Format)}
    {error : ResourceError Format} {answer} (unlocked : s.remapsLocked = false)
    (h : AnswersWith fuel (do
      let s ← s.dropOwners owners
      pure (s, .error error)) (s', answer))
    (hs : ResourceReachable limits ⟨s, {.dropping owners (.prepareFails error)} + rest⟩) :
    ResourceReachable limits ⟨s', prepared answer + rest⟩ := by
  obtain ⟨s₁, hdrop, hpure⟩ := h.of_bind
  cases hpure.of_pure
  have dropped := dropOwners_reachable unlocked hdrop hs
  exact dropped.fire rest (.move (.prepareFailed error)) rfl

/-- A run of `prepare` that nothing interrupts is a run of the rules. -/
theorem prepare_reachable {specs : List (Spec Format)} {answer}
    (unlocked : s.remapsLocked = false) (h : Ends (s.prepare limits specs) (s', answer))
    (hs : ResourceReachable limits ⟨s, rest⟩) :
    ResourceReachable limits ⟨s', prepared answer + rest⟩ := by
  obtain ⟨fuel, hrun⟩ := h.answersWith
  obtain ⟨⟨s₁, slots, planned⟩, hplan, hrest⟩ := hrun.of_bind
  rw [Inner.plan] at hplan
  cases hcheck : prepareCheck limits s.loss specs with
  | error error =>
      rw [hcheck] at hplan
      cases hplan.of_pure
      obtain ⟨s₂, hdrop, hpure⟩ := AnswersWith.of_bind hrest
      cases hdrop.of_pure
      cases hpure.of_pure
      rw [prepared, zero_add]
      exact hs
  | ok _ =>
      rw [hcheck] at hplan
      obtain ⟨⟨pool, slots₁, missing⟩, htake, hmore⟩ := AnswersWith.of_bind hplan
      have begun := hs.fire rest (.prepare hcheck) (zero_add _).symm
      have matched := takeMatches_reachable (s := s) htake.of_lift begun
      cases missing with
      | error error =>
          cases hmore.of_pure
          have unlocked₁ : ({ s with pool } : Inner Format).remapsLocked = false := unlocked
          exact prepareFails_reachable unlocked₁ hrest matched
      | ok missing =>
          obtain ⟨⟨s₂, admission⟩, hadmit, hpure⟩ := AnswersWith.of_bind hmore
          obtain ⟨answered, hsame⟩ := reserveMissing_reachable hadmit matched
          have unlocked₂ : s₂.remapsLocked = false := hsame.trans unlocked
          cases hpure.of_pure
          cases admission with
          | error error => exact prepareFails_reachable unlocked₂ hrest answered
          | ok remaining =>
              obtain ⟨⟨s₃, slots₃, remaining₃, outcome⟩, hcreate, hend⟩ := AnswersWith.of_bind hrest
              obtain ⟨made, hsame₃⟩ := createMissing_reachable hcreate.of_lift answered
              cases outcome with
              | ok _ =>
                  obtain ⟨memory, hcancel, hpure⟩ := AnswersWith.of_bind hend
                  cases hpure.of_pure
                  have popping := made.fire rest (.created hcancel.of_lift) rfl
                  exact popping.fire rest (.move (.popped _ _)) rfl
              | error error =>
                  obtain ⟨s₄, hdrop, hfinish⟩ := AnswersWith.of_bind hend
                  obtain ⟨memory, hcancel, hpure⟩ := hfinish.of_bind
                  cases hpure.of_pure
                  have dropped := dropOwners_reachable (hsame₃.trans unlocked₂) hdrop made
                  exact dropped.fire rest (.creationFailed hcancel.of_lift) rfl

end GpuInfo
