import GpuInfo.LockedThreads
import GpuInfo.Pool.ResourcePoolAccounting
import GpuInfo.Resources.LockedRoutines
import GpuInfo.Resources.TextureBytes

/-!
No destructor runs under a metadata lock (`src/pool.rs`, `src/budget/admission.rs`,
`src/resources.rs`). Each function is gone through in the order of its text, with what its
locals hold at each point and with every way out of it. In a pool section a panic would drop
what has just been removed before the guard; exact byte counts, to which every section returns
the pool, exclude it. The other sections may find any data and may unwind.
-/

namespace GpuInfo
open MachineInteger OwnedScopes Code Interleaving
variable {R Key Format : Type} [Pooled R Key]

/-- The data of a lock that no thread holds. -/
@[simp] def Lock.Invariant : (l : Lock) → l.Data R Format → Prop
  | .pool _, idle => idle.Exact
  | .budget, _ | .remaps, _ | .loss, _ | .signal _, _ => True

namespace Locked

abbrev Sheds (R Format : Type) {Key : Type} [Pooled R Key] :
    Locals R Format → List Lock → Prop :=
  Stack.Sheds (S := lockedResources R Format) Lock.Invariant

abbrev Scoped {α : Type} (post : α → Locals R Format → List Lock → Prop) (a : α) :
    Locals R Format → List Lock → Prop :=
  Stack.Scoped (S := lockedResources R Format) Lock.Invariant post a

theorem sheds_guard {post : List Lock → Prop} (x : Local) (l : Lock) {data : l.Data R Format}
    {frame : Frame (lockedResources R Format) Local} {held : List Lock} (hdata : l.Invariant data)
    (h : Frame.Sheds (S := lockedResources R Format) Lock.Invariant post frame held) :
    Frame.Sheds (S := lockedResources R Format) Lock.Invariant post
      ((x, some (guard l data)) :: frame) (l :: held) :=
  .guard x hdata h

/-- A block that ends with one guard. -/
theorem scoped_guard {α : Type}
    {post : α → Locals R Format → List Lock → Prop} {a : α} (x : Local)
    (l : Lock) {data : l.Data R Format} {frames : Locals R Format}
    {held : List Lock} (hdata : l.Invariant data) (h : post a frames held)
    (leave : Sheds R Format frames held) :
    Scoped post a
      ([(x, some (guard l data))] :: frames) (l :: held) :=
  sheds_guard x l hdata ⟨h, leave⟩

abbrev Function.Clean {α : Type} (routine : Function R Format α) : Prop :=
  Routine.Clean (S := lockedResources R Format) Lock.Invariant routine

theorem destroy_clean (resource : Destructible R Format) : Function.Clean (.destroy resource) :=
  .destroy resource

variable (build : Build)

theorem dropReservation_clean (remaining : Nat) :
    (dropReservation build remaining : Function R Format Unit).Clean := by
  refine Meets.body (Meets.scope (Meets.bind (Meets.lock (by simp) fun usage _ => ?_)))
  refine Meets.bind (Meets.checked (by simp) fun reserved => Meets.write ?_)
  simp

theorem dropCharge_clean (bytes : Nat) :
    (dropCharge build bytes : Function R Format Unit).Clean := by
  refine Meets.body (Meets.scope (Meets.bind (Meets.lock (by simp) fun usage _ => ?_)))
  refine Meets.bind (Meets.checked (by simp) fun allocated => Meets.write ?_)
  simp

theorem dropCharged_clean {V VKey : Type} [Pooled V VKey]
    (destructible : V → Destructible R Format) (charged : Charged V) :
    (dropCharged build destructible charged).Clean :=
  .both (.destroy _) (dropCharge_clean build charged.bytes)

theorem dropValue_clean (shelf : Shelf) (value : shelf.Value R Format) :
    (dropValue build shelf value).Clean := by
  cases shelf with
  | host => exact .destroy _
  | context => exact dropCharged_clean build .allocation value

theorem reserve_clean (bytes : Nat) :
    (reserve build bytes : Function R Format (Except AdmissionError Nat)).Clean := by
  refine Meets.body (Meets.bind (Meets.lock (by simp) fun usage _ => ?_))
  refine Meets.bind (Meets.checked (by simp) fun used => ?_)
  cases checkedAdd used bytes with
  | none => exact Meets.pure (by simp)
  | some total =>
      dsimp only
      cases usage.admission bytes used total with
      | error error => exact Meets.pure (by simp)
      | ok accepted =>
          cases accepted
          refine Meets.bind (Meets.checked (by simp) fun reserved => ?_)
          refine Meets.bind (Meets.write (Meets.bind (Meets.write ?_)))
          refine Meets.bind (Meets.unlock rfl trivial (Meets.pure ?_))
          simp

theorem charge_clean {V VKey : Type} [Pooled V VKey] (destructible : V → Destructible R Format)
    (remaining : Nat) (resource : V) :
    (charge build destructible remaining resource).Clean := by
  refine Meets.body (Meets.bind (Meets.own ?_))
  have hresource : Function.Clean (.destroy (destructible resource)) :=
    .destroy _
  cases chargeCheck remaining resource with
  | error error => exact Meets.pure (by simp [hresource])
  | ok accepted =>
      cases accepted
      refine Meets.bind (Meets.lock (by simp) fun usage _ => ?_)
      refine Meets.bind (Meets.checked (by simp [hresource]) fun reserved => ?_)
      refine Meets.bind (Meets.write (Meets.bind (Meets.checked (by simp [hresource]) ?_)))
      refine fun allocated => Meets.bind (Meets.write ?_)
      refine Meets.bind (Meets.checked (by simp [hresource]) fun remaining => ?_)
      refine Meets.bind (Meets.unlock rfl trivial ?_)
      exact Meets.bind (Meets.moveOut (Meets.pure (by simp)))

section Pool
variable {shelf : Shelf} {idle : Idle (shelf.Value R Format)} {position : Nat}
  {slot : shelf.Value R Format}

theorem removeAt_meets {x : Local} (exact : idle.Exact) (h : idle.slots[position]? = some slot)
    {post : shelf.Value R Format × Idle (shelf.Value R Format) →
      Locals R Format → List Lock → Prop}
    {stack : Locals R Format} {held : List Lock}
    (goOn : ∀ half rest : Idle (shelf.Value R Format), rest.Exact → post (slot, rest)
      (Stack.replace .idle (some (guard (.pool shelf) rest))
        (Stack.replace .idle (some (guard (.pool shelf) half))
          (stack.push x (.owned (dropValue build shelf slot)))).2).2 held) :
    (removeAt build shelf x idle position).Meets Lock.Invariant post stack held := by
  have hsplit := totalBytes_eraseIdx h
  rw [← exact] at hsplit
  rw [removeAt, h]
  refine Meets.bind (Meets.own (Meets.bind (Meets.write (Meets.bind ?_))))
  refine Meets.exact (sub64_of_le (by omega)) (Meets.bind (Meets.write (Meets.pure ?_)))
  refine goOn _ _ ?_
  show idle.bytes - Pooled.bytes slot = totalBytes (idle.slots.eraseIdx position)
  omega

variable (shelf) in
theorem take_clean [BEq (shelf.Key Key Format)] (key : shelf.Key Key Format) :
    (take build shelf key : Function R Format (Option (shelf.Value R Format))).Clean := by
  refine Meets.body (Meets.bind (Meets.lock (by simp) fun idle exact => ?_))
  generalize hat : ResourcePool.rposition (fun slot => Pooled.key slot == key) idle.slots = at?
  cases at? with
  | none => exact Meets.pure (by simpa using exact)
  | some position =>
      obtain ⟨slot, hslot, -⟩ := rposition_lt hat
      refine Meets.bind (removeAt_meets build exact hslot fun half rest hrest => ?_)
      refine Meets.bind (Meets.moveOut (Meets.pure ?_))
      simpa using hrest

theorem setBudget_clean (bytes : UInt64) :
    (setBudget build shelf bytes : Function R Format Unit).Clean := by
  refine Meets.body (Meets.bind (Meets.scope (Meets.bind (Meets.lock (by simp)
    fun idle exact => ?_))))
  obtain ⟨passed, rest, hrun, hrest, -⟩ := overBudget_of_exact bytes.toNat idle.slots 0 idle.bytes
    exact
  refine Meets.bind (Meets.ask fun _ => Meets.bind (Meets.exact hrun ?_))
  refine Meets.bind (Meets.write (Meets.bind (Meets.write (Meets.pure ?_))))
  have hexact : Idle.Exact (R := shelf.Value R Format) ⟨idle.slots.drop (0 + passed), rest⟩ := by
    rw [zero_add]
    exact hrest
  have hevicted : Function.Clean (.dropAll ((idle.slots.take (0 + passed)).map
      (dropValue build shelf))) := by
    refine .dropAll fun glue hglue => ?_
    obtain ⟨value, -, rfl⟩ := List.mem_map.mp hglue
    exact dropValue_clean build shelf value
  refine scoped_guard .idle (.pool shelf) hexact ?_ rfl
  refine Meets.bind (Meets.own (Meets.dropOwned rfl hevicted (by simp) (by simp) ?_))
  simp

theorem evictLoop_meets (bytes attempts freed : Nat)
    {post : Nat → Locals R Format → List Lock → Prop}
    {stack : Locals R Format}
    (leave : Sheds R Format stack [])
    (goOn : ∀ freed, post freed stack []) :
    (evictLoop build shelf bytes attempts freed).Meets Lock.Invariant post stack [] := by
  induction attempts generalizing freed with
  | zero => exact Meets.pure (goOn freed)
  | succ attempts ih =>
      rw [evictLoop]
      split
      · exact Meets.pure (goOn freed)
      · refine Meets.bind (Meets.scope (Meets.bind (Meets.scope (Meets.bind ?_))))
        refine Meets.lock (by simp) fun idle exact => ?_
        split
        · refine Meets.pure (scoped_guard .idle (.pool shelf) exact ?_ leave)
          exact Meets.pure ⟨Meets.pure (goOn freed), leave⟩
        · rename_i nonempty
          obtain ⟨slot, hslot⟩ : ∃ slot, idle.slots[0]? = some slot := by
            cases hslots : idle.slots with
            | nil => exact absurd (by rw [hslots]; rfl) nonempty
            | cons slot slots => exact ⟨slot, rfl⟩
          refine Meets.bind (removeAt_meets build exact hslot fun half rest hrest => ?_)
          refine Meets.bind (Meets.moveOut (Meets.pure ?_))
          refine scoped_guard .idle (.pool shelf) hrest ?_ leave
          refine Meets.bind (Meets.own (Meets.bind ?_))
          refine Meets.dropOwned rfl (dropValue_clean build shelf slot) rfl leave ?_
          exact Meets.pure ⟨ih _, leave⟩

theorem evict_clean (bytes : Nat) :
    (evict build shelf bytes : Function R Format Nat).Clean := by
  refine Meets.body (Meets.bind (Meets.scope (Meets.bind ?_)))
  refine Meets.lock (by simp) fun idle exact => ?_
  refine Meets.pure (scoped_guard .temporary (.pool shelf) exact ?_ rfl)
  exact evictLoop_meets build bytes _ 0 rfl fun _ => rfl

theorem fits_idle (idle : Idle (shelf.Value R Format)) {budget : UInt64} (maxEntries : Nat)
    {size : Nat} (h : ¬ budget.toNat < size) :
    ∃ fits, ResourcePool.fits ⟨idle, budget.toNat, maxEntries⟩ size = .ok fits ∧
      (fits = true ↔ idle.bytes ≤ budget.toNat - size ∧ idle.slots.length < maxEntries) :=
  fits_of_le (Nat.le_of_not_lt h)

section Put
variable {maxEntries : Nat} {resource : shelf.Value R Format}

/-- The locals of `put` while it holds the lock. -/
abbrev putStack (build : Build) (resource : shelf.Value R Format)
    (idle : Idle (shelf.Value R Format)) : Locals R Format :=
  [[(.idle, some (guard (.pool shelf) idle)),
    (.resource, some (.owned (dropValue build shelf resource)))]]

theorem putStack_sheds (exact : idle.Exact) :
    Sheds R Format (putStack build resource idle) [Lock.pool shelf] :=
  sheds_guard .idle (.pool shelf) exact ⟨rfl, dropValue_clean build shelf resource, rfl⟩

theorem insertIdle_meets (exact : idle.Exact) :
    (insertIdle shelf maxEntries resource idle).Meets Lock.Invariant
      (fun _ => Sheds R Format) (putStack build resource idle) [Lock.pool shelf] := by
  refine Meets.bind (Meets.ask fun budget => ?_)
  have leave : Sheds R Format (putStack build resource idle) [Lock.pool shelf] :=
    putStack_sheds build exact
  split
  · exact Meets.pure leave
  · rename_i hsize
    obtain ⟨fits, hrun, hfits⟩ := fits_idle idle maxEntries hsize
    refine Meets.bind (Meets.exact hrun ?_)
    split
    · exact Meets.pure leave
    · rename_i hfull
      refine Meets.bind (Meets.ask fun grown => ?_)
      split
      · exact Meets.pure leave
      · have hle := (hfits.mp (by simpa using hfull)).1
        have hmax : idle.bytes + Pooled.bytes resource ≤ u64Max := by
          have hbudget := UInt64.toNat_lt budget
          simp only [u64Max] at hle hbudget ⊢
          omega
        refine Meets.bind (Meets.exact (add64_of_le hmax) ?_)
        refine Meets.bind (Meets.write (Meets.bind (Meets.moveOut (Meets.write ?_))))
        refine sheds_guard .idle (.pool shelf) ?_ rfl
        show idle.bytes + Pooled.bytes resource = totalBytes (idle.slots ++ [resource])
        rw [totalBytes_append, ← exact]
        simp [totalBytes]

theorem putLoop_meets (entries : 0 < maxEntries) (attempts : Nat) (exact : idle.Exact) :
    (putLoop build shelf maxEntries resource attempts idle).Meets Lock.Invariant
      (fun _ => Sheds R Format) (putStack build resource idle) [Lock.pool shelf] := by
  induction attempts generalizing idle with
  | zero => exact insertIdle_meets build exact
  | succ attempts ih =>
      refine Meets.bind (Meets.ask fun budget => ?_)
      split
      · exact insertIdle_meets build exact
      · rename_i hsize
        obtain ⟨fits, hrun, hfits⟩ := fits_idle idle maxEntries hsize
        refine Meets.bind (Meets.exact hrun ?_)
        split
        · exact insertIdle_meets build exact
        · rename_i hfull
          let pool : ResourcePool (shelf.Value R Format) := ⟨idle, UInt64.toNat budget, maxEntries⟩
          have hold : ∃ old, pool.idle.slots[0]? = some old :=
            exists_oldest exact entries fun h => hfull (hfits.mpr h)
          obtain ⟨old, hold⟩ := hold
          refine Meets.bind (Meets.scope (Meets.bind ?_))
          refine removeAt_meets build exact hold fun half rest hrest => ?_
          have hresource := dropValue_clean build shelf resource
          refine Meets.bind (Meets.unlock rfl hrest (Meets.bind ?_))
          refine Meets.dropOwned rfl (dropValue_clean build shelf old) rfl ⟨rfl, hresource, rfl⟩ ?_
          refine Meets.relock (by simp) fun idle' exact' => ?_
          exact ⟨ih exact', putStack_sheds build exact'⟩

theorem put_clean : (put build shelf maxEntries resource : Function R Format Unit).Clean := by
  have hresource := dropValue_clean build shelf resource
  refine Meets.body (Meets.bind (Meets.own (Meets.bind (Meets.ask fun budget => ?_))))
  split
  · exact Meets.pure ⟨rfl, hresource, rfl⟩
  · rename_i hentries
    refine Meets.bind (Meets.lock (by simp) fun idle exact => ?_)
    refine Meets.bind (Meets.ask fun grown => ?_)
    split
    · exact Meets.pure (putStack_sheds build exact)
    · refine putLoop_meets build (Nat.pos_of_ne_zero fun h => hentries ?_) _ exact
      simp [h]

end Put

end Pool

section Context
variable (maxEntries : Nat)

theorem finish_clean (signal : SignalId) (result : Outcome) :
    (finish signal result : Function R Format Unit).Clean := by
  refine Meets.body (Meets.bind (Meets.lock (by simp) fun outcome _ => ?_))
  split
  · exact Meets.write (sheds_guard .outcome (.signal signal) trivial rfl)
  · exact Meets.pure (sheds_guard .outcome (.signal signal) trivial rfl)

theorem notify_clean (signal : SignalId) (called : Option (Option Outcome)) :
    (notify signal called : Function R Format Unit).Clean := by
  cases called with
  | none => exact .done (some ())
  | some called =>
      cases called with
      | none => exact finish_clean signal (.error .dropped)
      | some result => exact .both (finish_clean signal result) (finish_clean signal _)

theorem dropAll_clean {α : Type} {glue : α → Function R Format Unit} (values : List α)
    (h : ∀ value, (glue value).Clean) : Function.Clean (.dropAll (values.map glue)) := by
  refine .dropAll fun routine hroutine => ?_
  obtain ⟨value, -, rfl⟩ := List.mem_map.mp hroutine
  exact h value

theorem dropRemap_clean (remap : Remap Format) :
    (dropRemap build remap : Function R Format Unit).Clean :=
  dropValue_clean build .context remap.allocation

theorem dropHandle_clean : (dropHandle build : Function R Format Unit).Clean := by
  refine Meets.body (Meets.bind (Meets.ask fun content => ?_))
  cases content with
  | none => exact Meets.pure rfl
  | some content =>
      have hidle := dropAll_clean content.1 (dropValue_clean (R := R) build .context)
      have hremaps := dropAll_clean content.2 (dropRemap_clean (R := R) build)
      exact Meets.call (.both hidle hremaps) rfl rfl fun _ => rfl

/-- The locals of `Drop for Owned` with a handle of the context. -/
abbrev ownedStack (allocation : Option (Item (lockedResources R Format))) : Locals R Format :=
  [[(.pool, some (.owned (dropHandle build))), (.allocation, allocation)]]

theorem dropOwned_clean (owned : Owned Format) :
    (dropOwned build maxEntries owned : Function R Format Unit).Clean := by
  have hallocation : (dropValue build .context owned.allocation : Function R Format Unit).Clean :=
    dropValue_clean build .context owned.allocation
  have hhandle : (dropHandle build : Function R Format Unit).Clean := dropHandle_clean build
  have leave : Sheds R Format
      (ownedStack build (some (.owned (dropValue build .context owned.allocation)))) [] :=
    ⟨rfl, hhandle, rfl, hallocation, rfl⟩
  have moved : Sheds R Format (ownedStack build none) [] := ⟨rfl, hhandle, rfl⟩
  refine Meets.body (Meets.bind (Meets.own ?_))
  split
  · exact Meets.pure ⟨rfl, hallocation, rfl⟩
  refine Meets.bind (Meets.ask fun alive => ?_)
  split
  · exact Meets.pure ⟨rfl, hallocation, rfl⟩
  refine Meets.bind (Meets.own (Meets.bind (Meets.ask fun budget => ?_)))
  split
  · exact Meets.pure leave
  refine Meets.bind (Meets.ask fun budget => ?_)
  split
  · exact Meets.pure leave
  refine Meets.bind (Meets.scope (Meets.lock (by simp) fun loss _ => ?_))
  refine scoped_guard .temporary .loss trivial ?_ leave
  split
  · exact Meets.pure leave
  split
  · refine Meets.scope (Meets.bind (Meets.ask fun signal => ?_))
    refine Meets.bind (Meets.lock (by simp) fun remaps _ => Meets.bind (Meets.ask fun grown => ?_))
    split
    · exact Meets.pure (scoped_guard .remaps .remaps trivial leave leave)
    · refine Meets.bind (Meets.moveOut (Meets.bind (Meets.write (Meets.bind (Meets.own ?_)))))
      refine Meets.bind (Meets.unlock rfl trivial (Meets.bind (Meets.ask fun called => ?_)))
      refine Meets.bind (Meets.catchUnwind (notify_clean signal called) rfl fun _ => ?_)
      have hbuffer := destroy_clean (.buffer owned.allocation.native : Destructible R Format)
      refine Meets.pure ?_
      exact ⟨rfl, hbuffer, moved, moved⟩
  · refine Meets.bind (Meets.moveOut ?_)
    exact Meets.call (put_clean build) rfl moved fun _ => moved

abbrev completedFrame (completed : List (Remap Format)) : Frame (lockedResources R Format) Local :=
  [(.completed, some (.owned (.dropAll (completed.map (dropRemap build)))))]

/-- The locals of `collect` while it holds the lock of the remaps. -/
abbrev harvestStack (completed remaps : List (Remap Format)) : Locals R Format :=
  [[(.remaps, some (guard .remaps remaps))], completedFrame build completed]

theorem completed_sheds (completed : List (Remap Format)) :
    Sheds R Format [completedFrame build completed] [] :=
  ⟨rfl, dropAll_clean completed (dropRemap_clean build), rfl⟩

theorem harvest_meets {post : List (Remap Format) → Locals R Format → List Lock → Prop}
    (completed remaps : List (Remap Format)) (position : Nat)
    (goOn : ∀ completed remaps,
      post completed (harvestStack build completed remaps) [Lock.remaps]) :
    (harvest build completed remaps position).Meets Lock.Invariant post
      (harvestStack build completed remaps) [Lock.remaps] := by
  induction hleft : remaps.length - position using Nat.strong_induction_on
    generalizing completed remaps position with
  | _ left ih =>
  rw [harvest]
  split
  · rename_i hposition
    refine Meets.bind (Meets.scope (Meets.lock (by simp [Lock.rank]) fun outcome _ => ?_))
    have leave : Sheds R Format (harvestStack build completed remaps) [Lock.remaps] :=
      sheds_guard .remaps .remaps trivial (completed_sheds build completed)
    refine scoped_guard .temporary (.signal _) trivial ?_ leave
    split
    · exact ih _ (by omega) completed remaps (position + 1) rfl
    · have hlength := swapRemove_length hposition
      refine Meets.bind (Meets.write (Meets.bind (Meets.reown ?_)))
      exact ih _ (by omega) _ _ position rfl
  · exact Meets.pure (goOn completed remaps)

/-- The locals of `collect` in its second loop. -/
abbrev settleStack (rest : List (Remap Format)) : Locals R Format :=
  [[(.remaining, some (.owned (.dropAll (rest.map (dropRemap build))))), (.completed, none)]]

theorem settle_sheds (rest : List (Remap Format)) : Sheds R Format (settleStack build rest) [] :=
  ⟨rfl, dropAll_clean rest (dropRemap_clean build), rfl⟩

theorem settle_meets {post : Option WaitError → Locals R Format → List Lock → Prop}
    (lost : Bool) (before completed : List (Remap Format))
    (failure : Option WaitError)
    (goOn : ∀ rest failure, post failure (settleStack build rest) []) :
    (settle build maxEntries lost completed failure).Meets Lock.Invariant post
      (settleStack build before) [] := by
  induction completed generalizing before failure with
  | nil => exact Meets.pure (goOn before failure)
  | cons remap rest ih =>
      have hremap : (dropRemap build remap : Function R Format Unit).Clean :=
        dropRemap_clean build remap
      have leave : Sheds R Format (settleStack build rest) [] := settle_sheds build rest
      refine Meets.bind (Meets.reown (Meets.bind (Meets.scope (Meets.bind (Meets.own ?_)))))
      refine Meets.bind (Meets.scope (Meets.bind (Meets.lock (by simp) fun outcome _ => ?_)))
      refine Meets.bind (Meets.write (Meets.pure ?_))
      refine scoped_guard .temporary (.signal remap.signal) trivial ?_ ⟨rfl, hremap, leave⟩
      split
      · split
        · exact Meets.pure ⟨rfl, hremap, ih rest failure, leave⟩
        · refine Meets.bind (Meets.moveOut (Meets.bind ?_))
          exact Meets.call (put_clean build) rfl leave fun _ =>
            Meets.pure ⟨ih rest failure, leave⟩
      · exact Meets.pure ⟨rfl, hremap, ih rest _, leave⟩
      · exact Meets.unwind ⟨rfl, hremap, leave⟩

theorem collect_clean :
    (collect build maxEntries : Function R Format (Except (ResourceError Format) Nat)).Clean := by
  refine Meets.body (Meets.bind (Meets.own (Meets.bind (Meets.scope (Meets.bind ?_)))))
  refine Meets.lock (by simp) fun remaps _ => Meets.bind (Meets.ask fun grown => ?_)
  split
  · refine Meets.pure (scoped_guard .remaps .remaps trivial ?_ (completed_sheds build []))
    exact Meets.pure (completed_sheds build [])
  refine Meets.bind (harvest_meets build [] remaps 0 fun completed remaps => Meets.pure ?_)
  refine scoped_guard .remaps .remaps trivial ?_ (completed_sheds build completed)
  refine Meets.bind (Meets.scope (Meets.lock (by simp) fun loss _ => ?_))
  refine scoped_guard .temporary .loss trivial ?_ (completed_sheds build completed)
  refine Meets.bind (Meets.moveOut (Meets.bind (Meets.own (Meets.bind ?_))))
  refine settle_meets build maxEntries _ completed completed none fun rest failure => ?_
  cases failure with
  | none => exact Meets.pure (settle_sheds build rest)
  | some error => exact Meets.pure (settle_sheds build rest)

theorem dropBatch_clean (slots : Slots Format) :
    (dropBatch build maxEntries slots : Function R Format Unit).Clean :=
  dropAll_clean slots.owners (dropOwned_clean build maxEntries)

/-- The locals of `prepare` with the slots its batch has so far. -/
abbrev batchStack (slots : Slots Format) : Locals R Format :=
  [[(.batch, some (.owned (dropBatch build maxEntries slots)))]]

theorem batch_sheds (slots : Slots Format) :
    Sheds R Format (batchStack build maxEntries slots) [] :=
  ⟨rfl, dropBatch_clean build maxEntries slots, rfl⟩

variable [DecidableEq Format] [Wgpu Format] (limits : Limits)

omit [Wgpu Format] in
theorem takeMatch_meets {post : Option (ChargedAllocation Format) →
      Locals R Format → List Lock → Prop}
    {stack : Locals R Format} (spec : Spec Format)
    (leave : Sheds R Format stack []) (goOn : ∀ allocation, post allocation stack []) :
    (takeMatch build spec).Meets Lock.Invariant post stack [] := by
  have htake : (take build .context spec.normalized :
      Function R Format (Option (ChargedAllocation Format))).Clean :=
    take_clean build .context spec.normalized
  rw [takeMatch]
  split
  · exact Meets.call htake rfl leave goOn
  · exact Meets.pure (goOn none)

theorem takeSlots_meets {post : Except (ResourceError Format) (Slots Format × Nat) →
      Locals R Format → List Lock → Prop} (specs : List (Spec Format))
    (batch slots : Slots Format) (missing : Nat)
    (goOn : ∀ batch planned, post planned (batchStack build maxEntries batch) []) :
    (takeSlots build maxEntries limits specs slots missing).Meets Lock.Invariant post
      (batchStack build maxEntries batch) [] := by
  have leave : ∀ slots, Sheds R Format (batchStack build maxEntries slots) [] :=
    batch_sheds build maxEntries
  induction specs generalizing batch slots missing with
  | nil => exact Meets.pure (goOn batch _)
  | cons spec specs ih =>
      refine Meets.bind (Meets.scope (Meets.bind ?_))
      refine takeMatch_meets build spec (leave batch) fun allocation => ?_
      cases allocation with
      | some allocation =>
          refine Meets.bind (Meets.own (Meets.bind (Meets.moveOut (Meets.bind (Meets.reown ?_)))))
          exact Meets.pure ⟨ih _ _ missing, leave _⟩
      | none =>
          dsimp only
          cases addMissing limits missing spec with
          | error error => exact Meets.pure ⟨Meets.pure (goOn batch _), leave batch⟩
          | ok missing => exact Meets.pure ⟨ih batch _ missing, leave batch⟩

omit [DecidableEq Format] [Wgpu Format] in
theorem reserveMissing_meets {post : Except AdmissionError Nat →
      Locals R Format → List Lock → Prop}
    {stack : Locals R Format} (missing : Nat)
    (leave : Sheds R Format stack []) (goOn : ∀ answer, post answer stack []) :
    (reserveMissing build missing).Meets Lock.Invariant post stack [] := by
  refine Meets.bind (Meets.call (reserve_clean build missing) rfl leave fun answer => ?_)
  split
  · refine Meets.bind (Meets.call (evict_clean build _) rfl leave fun _ => ?_)
    exact Meets.call (reserve_clean build missing) rfl leave goOn
  · exact Meets.pure (goOn _)

theorem prepare_clean (specs : List (Spec Format)) :
    (prepare build maxEntries limits specs :
      Function R Format (Except (ResourceError Format) (Slots Format × Nat))).Clean := by
  have leave : ∀ slots, Sheds R Format (batchStack build maxEntries slots) [] :=
    batch_sheds build maxEntries
  refine Meets.body (Meets.bind (Meets.scope (Meets.lock (by simp) fun loss _ => ?_)))
  refine scoped_guard .temporary .loss trivial ?_ rfl
  cases prepareCheck limits loss specs with
  | error error => exact Meets.pure rfl
  | ok accepted =>
  cases accepted
  refine Meets.bind (Meets.own (Meets.bind (Meets.ask fun grown => ?_)))
  split
  · exact Meets.pure (leave [])
  refine Meets.bind (takeSlots_meets build maxEntries limits specs [] [] 0 fun batch planned => ?_)
  cases planned with
  | error error => exact Meets.pure (leave batch)
  | ok planned =>
  refine Meets.bind (reserveMissing_meets build planned.2 (leave batch) fun reserved => ?_)
  cases reserved with
  | error error => exact Meets.pure (leave batch)
  | ok remaining =>
      refine Meets.bind (Meets.own (Meets.bind (Meets.moveOut (Meets.bind (Meets.moveOut ?_)))))
      exact Meets.pure rfl

end Context

end Locked

/-- What a thread may call, and a destructor on any thread. -/
inductive Entry [BEq Key] [DecidableEq Format] [Wgpu Format] (build : Build)
    (maxEntries : Shelf → Nat) (limits : Limits) : (α : Type) → Locked.Function R Format α → Prop
  | put (shelf : Shelf) (resource : shelf.Value R Format) :
      Entry build maxEntries limits _ (Locked.put build shelf (maxEntries shelf) resource)
  | setBudget (shelf : Shelf) (bytes : UInt64) :
      Entry build maxEntries limits _ (Locked.setBudget build shelf bytes)
  | take (shelf : Shelf) (key : shelf.Key Key Format) :
      Entry build maxEntries limits _ (Locked.take build shelf key)
  | evict (shelf : Shelf) (bytes : UInt64) :
      Entry build maxEntries limits _ (Locked.evict build shelf bytes.toNat)
  | dropValue (shelf : Shelf) (value : shelf.Value R Format) :
      Entry build maxEntries limits _ (Locked.dropValue build shelf value)
  | reserve (bytes : UInt64) : Entry build maxEntries limits _ (Locked.reserve build bytes.toNat)
  | charge {V VKey : Type} [Pooled V VKey] (destructible : V → Destructible R Format)
      (remaining : Nat) (resource : V) :
      Entry build maxEntries limits _ (Locked.charge build destructible remaining resource)
  | dropReservation (remaining : Nat) :
      Entry build maxEntries limits _ (Locked.dropReservation build remaining)
  | dropCharged {V VKey : Type} [Pooled V VKey] (destructible : V → Destructible R Format)
      (charged : Charged V) :
      Entry build maxEntries limits _ (Locked.dropCharged build destructible charged)
  | prepare (specs : List (Spec Format)) :
      Entry build maxEntries limits _ (Locked.prepare build (maxEntries .context) limits specs)
  | collect : Entry build maxEntries limits _ (Locked.collect build (maxEntries .context))
  | dropOwned (owned : Owned Format) :
      Entry build maxEntries limits _ (Locked.dropOwned build (maxEntries .context) owned)
  | finish (signal : SignalId) (result : Outcome) :
      Entry build maxEntries limits _ (Locked.finish signal result)

section
variable [BEq Key] [DecidableEq Format] [Wgpu Format] {build : Build} {maxEntries : Shelf → Nat}
  {limits : Limits}

theorem entry_clean (α : Type) (routine : Locked.Function R Format α)
    (h : Entry build maxEntries limits α routine) : Locked.Function.Clean routine := by
  cases h with
  | put shelf resource => exact Locked.put_clean build
  | setBudget shelf bytes => exact Locked.setBudget_clean build bytes
  | take shelf key => exact Locked.take_clean build shelf key
  | evict shelf bytes => exact Locked.evict_clean build bytes.toNat
  | dropValue shelf value => exact Locked.dropValue_clean build shelf value
  | reserve bytes => exact Locked.reserve_clean build bytes.toNat
  | charge destructible remaining resource =>
      exact Locked.charge_clean build destructible remaining resource
  | dropReservation remaining => exact Locked.dropReservation_clean build remaining
  | dropCharged destructible charged => exact Locked.dropCharged_clean build destructible charged
  | prepare specs => exact Locked.prepare_clean build (maxEntries .context) limits specs
  | collect => exact Locked.collect_clean build (maxEntries .context)
  | dropOwned owned => exact Locked.dropOwned_clean build (maxEntries .context) owned
  | finish signal result => exact Locked.finish_clean signal result

omit [BEq Key] [DecidableEq Format] [Wgpu Format] in
theorem question_answered (question : Question) : Nonempty (question.Reply Format) := by
  cases question with
  | budget shelf => exact ⟨0⟩
  | storeBudget shelf bytes => exact ⟨()⟩
  | grow => exact ⟨true⟩
  | upgrade => exact ⟨true⟩
  | lastHandle => exact ⟨none⟩
  | newSignal => exact ⟨0⟩
  | mapAsync native signal => exact ⟨none⟩

/-- Any number of threads call these functions in any order, and so do the destructors they run:
no destructor starts under a lock, no thread waits for a lock of its own, and no threads wait
for each other. -/
theorem destructors_run_unlocked {c : ThreadConfig (lockedResources R Format)}
    (hc : Reachable (ThreadStart Lock.Invariant)
      (Step (ThreadRule (Entry build maxEntries limits))) c) :
    Undisturbed (Entry build maxEntries limits) c :=
  reachable_undisturbed entry_clean question_answered hc

end

def tenBytes : Fake := ⟨0, ⟨10, by decide⟩⟩

/-- The pool of the host keeps ten bytes. -/
def tenIdle : (l : Lock) → l.Data Fake TextureFormat
  | .pool .host => ⟨[tenBytes], 10⟩
  | .pool .context => ⟨[], 0⟩
  | .budget => .new none
  | .remaps => []
  | .loss => none
  | .signal _ => none

/-- The host lowers its budget to zero. -/
theorem destructors_run_unlocked_lowered :
    ∃ c : ThreadConfig (lockedResources Fake TextureFormat),
      c.shared.destroyed = [⟨.host tenBytes, []⟩] ∧
        Undisturbed (Entry .debug (fun _ => 256) defaultLimits) c := by
  have exact : ∀ l : Lock, l.Invariant (tenIdle l) := fun l => by
    cases l with
    | pool shelf =>
        cases shelf with
        | host => exact rfl
        | context => exact rfl
    | budget | remaps | loss | signal => trivial
  have client : Client (Entry .debug (fun _ => 256) defaultLimits)
      ((Locked.setBudget .debug .host 0 : Locked.Function Fake TextureFormat Unit).bind .done) :=
    .calls (.setBudget .host 0) fun answer => .ends answer
  have fresh : Reachable (ThreadStart Lock.Invariant)
      (Step (ThreadRule (Entry .debug (fun _ => 256) defaultLimits))) ⟨⟨tenIdle, 0, []⟩, 0⟩ :=
    .start (.new exact)
  have began := fresh.fire 0 (.begins client) rfl
  have locked := began.fire 0 (.locks (Multiset.notMem_zero _)) rfl
  have stored := locked.fire 0 (.asks ()) rfl
  have unlocked := stored.fire 0 .unlocks rfl
  have destroyed := unlocked.fire 0 (.destroys (.ends (some ()))) rfl
  exact ⟨_, rfl, destructors_run_unlocked destroyed⟩

end GpuInfo
