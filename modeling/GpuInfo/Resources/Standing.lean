import GpuInfo.Resources.Accounting

/-!
What the holder of an allocation knows of its native object: a healthy owner that it was
accepted and never tainted, a pending return that it may become idle, a remap that a
successful request has mapped it. Each knows it as long as nobody else touches the object.
-/

namespace GpuInfo
open MachineInteger Interleaving

variable {Format : Type}

/-! Returns in progress -/

def Purpose.returns : Purpose Format → Nat
  | .dropping _ _ returning => returning.toNat
  | .collecting _ lost _ _ => (!lost).toNat
  | .done | .evicting _ _ _ => 0

/-- The return that an activity has seen no loss for. -/
def Activity.returns : Activity Format → Nat
  | .calling _ purpose => purpose.returns
  | .collecting _ lost _ _ => (!lost).toNat
  | _ => 0

theorem moves_returns {activity : Activity Format} {left : Multiset (Activity Format)}
    (h : activity.Moves left) : (left.map Activity.returns).sum = activity.returns := by
  cases h <;> rfl

/-- A call takes its return with it, and a collect goes on with its own. -/
theorem resume_returns (purpose : Purpose Format) :
    (purpose.resume.map Activity.returns).sum + purpose.returned = purpose.returns := by
  cases purpose with
  | dropping owners ending returning =>
      cases returning <;> simp [Purpose.resume, Activity.returns, Purpose.returns, Purpose.returned]
  | collecting completed lost count failure =>
      cases lost <;> simp [Purpose.resume, Activity.returns, Purpose.returns, Purpose.returned]
  | done | evicting _ _ _ =>
      simp [Purpose.resume, Activity.returns, Purpose.returns, Purpose.returned]

/-! Who holds which native object -/

/-- The native objects that are idle or wait in a remap. -/
def Inner.ids (s : Inner Format) : Multiset NativeId :=
  (s.pool.idle.slots : Multiset (ChargedAllocation Format)).map ChargedAllocation.native +
    (s.remaps : Multiset (Remap Format)).map (·.allocation.native)

def Activity.ids (activity : Activity Format) : Multiset NativeId :=
  activity.deeds.map Prod.fst

theorem Activity.ids_eq (activity : Activity Format) : activity.ids =
    (activity.owners : Multiset (Owned Format)).map (·.allocation.native) +
      activity.moving.map ChargedAllocation.native +
      (activity.completed : Multiset (Remap Format)).map (·.allocation.native) := by
  rw [ids, deeds_eq]
  simp only [ownedDeeds, remapDeeds, Multiset.map_add, Multiset.map_map]
  rfl

theorem Activity.mem_ids_of_owner {activity : Activity Format} {owned : Owned Format}
    (h : owned ∈ activity.owners) : owned.allocation.native ∈ activity.ids := by
  rw [ids_eq]
  exact Multiset.mem_add.mpr (.inl (Multiset.mem_add.mpr
    (.inl (Multiset.mem_map_of_mem (·.allocation.native) (Multiset.mem_coe.mpr h)))))

theorem Activity.mem_ids_of_moving {activity : Activity Format}
    {allocation : ChargedAllocation Format} (h : allocation ∈ activity.moving) :
    allocation.native ∈ activity.ids := by
  rw [ids_eq]
  exact Multiset.mem_add.mpr (.inl (Multiset.mem_add.mpr
    (.inr (Multiset.mem_map_of_mem ChargedAllocation.native h))))

theorem Activity.mem_ids_of_remap {activity : Activity Format} {remap : Remap Format}
    (h : remap ∈ activity.completed) : remap.allocation.native ∈ activity.ids := by
  rw [ids_eq]
  exact Multiset.mem_add.mpr
    (.inr (Multiset.mem_map_of_mem (·.allocation.native) (Multiset.mem_coe.mpr h)))

theorem PoolCall.mem_of_offered {R Key : Type} {call : PoolCall R Key} {resource : R}
    (h : resource ∈ call.offered) : resource ∈ call.resources := by
  cases call with
  | destroying doomed resume => exact Multiset.mem_add.mpr (.inr h)
  | take _ | setBudget _ | put _ | putEnter _ | evict _ | resuming _ => exact h

/-! What is known of a native object -/

section
variable [DecidableEq Format]

/-- The object of an allocation is what the allocation says it is. -/
structure Known (s : Inner Format) (allocation : ChargedAllocation Format)
    (object : Native Format) : Prop where
  native : s.natives allocation.native = some object
  descriptor : object.descriptor = allocation.resource.spec
  normalized : allocation.resource.spec.normalized = allocation.resource.spec
  mapped : allocation.resource.mapped = true → object.hostMapped = true
  untainted : object.tainted = false

/-- An allocation that a creation made, with no answer of its error scopes yet. -/
def Unproven (s : Inner Format) (creation : CreationId) (allocation : ChargedAllocation Format) :
    Prop :=
  ∃ object, Known s allocation object ∧ object.creation = creation

/-- An allocation that was accepted and never tainted. -/
def Clean (s : Inner Format) (allocation : ChargedAllocation Format) : Prop :=
  ∃ object, Known s allocation object ∧ s.creations object.creation = some (.ok ())

/-- An allocation that may become idle. -/
structure Returnable (s : Inner Format) (allocation : ChargedAllocation Format) : Prop where
  clean : Clean s allocation
  reusable : allocation.resource.spec.reusable = true
  mapped : allocation.needsRemap = false

/-- A successful map request has mapped its buffer. -/
structure Remapped (s : Inner Format) (remap : Remap Format) : Prop where
  clean : Clean s remap.allocation
  reusable : remap.allocation.resource.spec.reusable = true
  request : ∃ request, s.requests remap.signal = some request ∧
    request.native = remap.allocation.native ∧ (request.outcome = some (.ok ()) →
      ∀ object, s.natives request.native = some object → object.hostMapped = true)

/-- A healthy owner has a clean allocation; `unhealthy` is what is known of another. -/
def Owned.Stands (s : Inner Format) (unhealthy : ChargedAllocation Format → Prop)
    (owned : Owned Format) : Prop :=
  (owned.healthy = true → Clean s owned.allocation) ∧
    (owned.healthy = false → unhealthy owned.allocation)

def OwnersStand (s : Inner Format) (unhealthy : ChargedAllocation Format → Prop)
    (owners : List (Owned Format)) : Prop :=
  ∀ owned ∈ owners, owned.Stands s unhealthy

def Purpose.Stands (s : Inner Format) : Purpose Format → Prop
  | .done => True
  | .evicting _ slots _ => OwnersStand s (fun _ => False) slots.owners
  | .dropping owners _ _ => OwnersStand s (fun _ => True) owners
  | .collecting completed _ _ _ => ∀ remap ∈ completed, Remapped s remap

/-- What an activity knows of the allocations it holds. -/
def Activity.Stands (s : Inner Format) : Activity Format → Prop
  | .foreign _ | .prepared _ (.error _) => True
  | .owner owned _ => owned.Stands s (fun _ => True)
  | .batch slots => OwnersStand s (fun _ => True) slots.owners
  | .prepared creation (.ok slots) | .popping creation slots =>
      OwnersStand s (Unproven s creation) slots.owners
  | .taking _ _ slots _ | .reserving _ slots _ _ =>
      OwnersStand s (fun _ => False) slots.owners
  | .creating creation todo slots _ => OwnersStand s (Unproven s creation) (unfinished slots todo)
  | .dropping owners _ => OwnersStand s (fun _ => True) owners
  | .offering _ allocation owners _ => Clean s allocation ∧
      allocation.resource.spec.reusable = true ∧ OwnersStand s (fun _ => True) owners
  | .calling call purpose =>
      (∀ allocation ∈ call.offered, Returnable s allocation ∧ purpose.returns = 1) ∧
        purpose.Stands s
  | .harvesting _ completed | .harvested completed | .collecting completed _ _ _ =>
      ∀ remap ∈ completed, Remapped s remap

/-- What is known of the idle allocations and of the remaps. -/
structure Inner.Stands (s : Inner Format) : Prop where
  fresh : ∀ native, s.nextNative ≤ native → s.natives native = none
  idle : ∀ allocation ∈ s.pool.idle.slots, Returnable s allocation
  remaps : ∀ remap ∈ s.remaps, Remapped s remap

/-! What a step leaves alone -/

/-- A step that touches only the objects `touched`, and answers for no creation again. -/
structure Inner.Keeps (s s' : Inner Format) (touched : Multiset NativeId) : Prop where
  natives : ∀ native ∉ touched, ∀ object, s.natives native = some object →
    ∃ object', s'.natives native = some object' ∧ object'.descriptor = object.descriptor ∧
      object'.creation = object.creation ∧ object'.tainted = object.tainted ∧
      (object.hostMapped = true → object'.hostMapped = true)
  creations : ∀ creation, s.creations creation = some (.ok ()) →
    s'.creations creation = some (.ok ())
  requests : ∀ signal request, s.requests signal = some request →
    ∃ request', s'.requests signal = some request' ∧ request'.native = request.native ∧
      (request'.outcome = some (.ok ()) → request.outcome = some (.ok ()) ∨
        ∀ object, s'.natives request.native = some object → object.hostMapped = true)

namespace Inner.Keeps
variable {s s' : Inner Format} {touched : Multiset NativeId}

omit [DecidableEq Format] in
theorem of_same (natives : s'.natives = s.natives) (creations : s'.creations = s.creations)
    (requests : s'.requests = s.requests) : s.Keeps s' touched where
  natives _ _ object h := ⟨object, natives ▸ h, rfl, rfl, rfl, id⟩
  creations _ h := creations ▸ h
  requests _ request h := ⟨request, requests ▸ h, rfl, .inl⟩

variable (keeps : s.Keeps s' touched) {allocation : ChargedAllocation Format}
include keeps

theorem known {object : Native Format} (h : Known s allocation object)
    (apart : allocation.native ∉ touched) :
    ∃ object', Known s' allocation object' ∧ object'.creation = object.creation := by
  obtain ⟨object', hnative, hdescriptor, hcreation, htainted, hmapped⟩ :=
    keeps.natives _ apart object h.native
  exact ⟨object', ⟨hnative, hdescriptor.trans h.descriptor, h.normalized,
    fun hflag => hmapped (h.mapped hflag), htainted.trans h.untainted⟩, hcreation⟩

theorem unproven {creation : CreationId} (h : Unproven s creation allocation)
    (apart : allocation.native ∉ touched) : Unproven s' creation allocation := by
  obtain ⟨object, hknown, hcreation⟩ := h
  obtain ⟨object', hknown', hsame⟩ := keeps.known hknown apart
  exact ⟨object', hknown', hsame.trans hcreation⟩

theorem clean (h : Clean s allocation) (apart : allocation.native ∉ touched) :
    Clean s' allocation := by
  obtain ⟨object, hknown, hcreation⟩ := h
  obtain ⟨object', hknown', hsame⟩ := keeps.known hknown apart
  exact ⟨object', hknown', keeps.creations _ (hsame ▸ hcreation)⟩

theorem returnable (h : Returnable s allocation) (apart : allocation.native ∉ touched) :
    Returnable s' allocation :=
  ⟨keeps.clean h.clean apart, h.reusable, h.mapped⟩

theorem remapped {remap : Remap Format} (h : Remapped s remap)
    (apart : remap.allocation.native ∉ touched) : Remapped s' remap := by
  refine ⟨keeps.clean h.clean apart, h.reusable, ?_⟩
  obtain ⟨request, hrequest, hnative, hmapped⟩ := h.request
  obtain ⟨request', hrequest', hsame, houtcome⟩ := keeps.requests _ _ hrequest
  refine ⟨request', hrequest', hsame.trans hnative, fun hok => ?_⟩
  rw [hsame]
  cases houtcome hok with
  | inl hbefore =>
      intro object' hobject'
      obtain ⟨object, hknown, -⟩ := h.clean
      have hobject : s.natives request.native = some object := hnative ▸ hknown.native
      obtain ⟨found, hfound, -, -, -, hhost⟩ :=
        keeps.natives request.native (hnative ▸ apart) object hobject
      rw [hobject'] at hfound
      cases hfound
      exact hhost (hmapped hbefore object hobject)
  | inr hnow => exact hnow

theorem owned {unhealthy unhealthy' : ChargedAllocation Format → Prop} {owned : Owned Format}
    (other : ∀ allocation : ChargedAllocation Format, allocation.native ∉ touched →
      unhealthy allocation → unhealthy' allocation)
    (h : owned.Stands s unhealthy) (apart : owned.allocation.native ∉ touched) :
    owned.Stands s' unhealthy' :=
  ⟨fun healthy => keeps.clean (h.1 healthy) apart, fun healthy => other _ apart (h.2 healthy)⟩

theorem owners {unhealthy unhealthy' : ChargedAllocation Format → Prop}
    {owners : List (Owned Format)}
    (other : ∀ allocation : ChargedAllocation Format, allocation.native ∉ touched →
      unhealthy allocation → unhealthy' allocation)
    (h : OwnersStand s unhealthy owners)
    (apart : ∀ owned ∈ owners, owned.allocation.native ∉ touched) :
    OwnersStand s' unhealthy' owners :=
  fun owned howned => keeps.owned other (h owned howned) (apart owned howned)

/-- Whoever holds none of the touched objects knows as much as before. -/
theorem activity {activity : Activity Format} (h : activity.Stands s)
    (apart : ∀ native ∈ activity.ids, native ∉ touched) : activity.Stands s' := by
  have howners : ∀ owned ∈ activity.owners, owned.allocation.native ∉ touched :=
    fun _ howned => apart _ (Activity.mem_ids_of_owner howned)
  have hmoving : ∀ allocation ∈ activity.moving, allocation.native ∉ touched :=
    fun _ hmoves => apart _ (Activity.mem_ids_of_moving hmoves)
  have hremaps : ∀ remap ∈ activity.completed, remap.allocation.native ∉ touched :=
    fun _ hremap => apart _ (Activity.mem_ids_of_remap hremap)
  cases activity with
  | foreign _ => trivial
  | owner owned _ =>
      have howned : owned.Stands s (fun _ => True) := h
      exact keeps.owned (fun _ _ => id) howned (howners owned (List.mem_singleton_self _))
  | prepared creation value =>
      cases value with
      | error error => trivial
      | ok slots => exact keeps.owners (fun _ => flip keeps.unproven) h howners
  | popping _ _ | creating _ _ _ _ => exact keeps.owners (fun _ => flip keeps.unproven) h howners
  | batch _ | taking _ _ _ _ | reserving _ _ _ _ | dropping _ _ =>
      exact keeps.owners (fun _ _ => id) h howners
  | offering _ allocation _ _ =>
      exact ⟨keeps.clean h.1 (hmoving allocation (Multiset.mem_singleton_self _)), h.2.1,
        keeps.owners (fun _ _ => id) h.2.2 howners⟩
  | calling call purpose =>
      refine ⟨fun allocation hoffered => ?_, ?_⟩
      · obtain ⟨hreturnable, hreturns⟩ := h.1 allocation hoffered
        exact ⟨keeps.returnable hreturnable (hmoving _ (PoolCall.mem_of_offered hoffered)),
          hreturns⟩
      · cases purpose with
        | done => trivial
        | evicting _ _ _ | dropping _ _ _ => exact keeps.owners (fun _ _ => id) h.2 howners
        | collecting _ _ _ _ =>
            exact fun remap hremap => keeps.remapped (h.2 remap hremap) (hremaps remap hremap)
  | harvesting _ _ | harvested _ | collecting _ _ _ _ =>
      exact fun remap hremap => keeps.remapped (h remap hremap) (hremaps remap hremap)

end Inner.Keeps

theorem OwnersStand.weaken {s : Inner Format}
    {unhealthy unhealthy' : ChargedAllocation Format → Prop} {owners : List (Owned Format)}
    (h : OwnersStand s unhealthy owners)
    (other : ∀ allocation, unhealthy allocation → unhealthy' allocation) :
    OwnersStand s unhealthy' owners :=
  fun owned howned => ⟨(h owned howned).1, fun healthy => other _ ((h owned howned).2 healthy)⟩

theorem discard_stands {s : Inner Format} {allocation : ChargedAllocation Format}
    {purpose : Purpose Format} (h : purpose.Stands s) :
    ∀ next ∈ ({.discard allocation purpose} : Multiset (Activity Format)), next.Stands s :=
  leaves_one ⟨fun _ hnone => absurd hnone (Multiset.notMem_zero _), h⟩

theorem resume_stands {s : Inner Format} {purpose : Purpose Format} (h : purpose.Stands s) :
    ∀ next ∈ purpose.resume, next.Stands s := by
  cases purpose with
  | done => simp [Purpose.resume]
  | evicting _ _ _ | dropping _ _ _ | collecting _ _ _ _ => exact leaves_one h

theorem moves_stands {s : Inner Format} {activity : Activity Format}
    {left : Multiset (Activity Format)} (h : activity.Moves left) (stands : activity.Stands s) :
    ∀ next ∈ left, next.Stands s := by
  cases h with
  | clone _ _ | release _ _ | dropBatch _ | planned _ _ _ | popped _ _ => exact leaves_one stands
  | drop owned =>
      refine leaves_one fun found hfound => ?_
      rw [List.mem_singleton.mp hfound]
      exact stands
  | @transfer slots rest _ _ owned htransfer =>
      have howners : ∀ found ∈ owned :: rest.owners, found.Stands s fun _ => True := by
        intro found hfound
        refine stands found (Multiset.mem_coe.mp ?_)
        rw [Slots.owners_transfer htransfer]
        exact hfound
      refine leaves_two ?_ ?_
      · exact fun found hfound => howners found (List.mem_cons_of_mem _ hfound)
      · exact howners owned List.mem_cons_self
  | dropPrepared _ _ | pushUnwinds _ _ _ _ | createUnwinds _ _ _ _ _ | popUnwinds _ _ =>
      exact leaves_one (OwnersStand.weaken stands fun _ _ => trivial)
  | kept creation owned spec todo slots remaining =>
      refine leaves_one ?_
      simp only [Activity.Stands, unfinished_some] at stands ⊢
      exact stands
  | discard _ _ _ | orphaned _ _ =>
      exact discard_stands fun found hfound => stands found (List.mem_cons_of_mem _ hfound)
  | offer _ _ h =>
      obtain ⟨hhealthy, hreusable⟩ := Bool.and_eq_true_iff.mp h
      exact leaves_one ⟨(stands _ List.mem_cons_self).1 hhealthy, hreusable,
        fun found hfound => stands found (List.mem_cons_of_mem _ hfound)⟩
  | dropFailed _ _ | dropped | prepareFailed _ =>
      exact fun _ hnone => absurd hnone (Multiset.notMem_zero _)

end

/-! What each operation touches -/

/-- Only through an owner are native objects touched. -/
def Activity.touches : Activity Format → Multiset NativeId
  | .owner owned _ => {owned.allocation.native}
  | _ => 0

/-- A request that fails was no success, unless it had succeeded before. -/
theorem MapRequest.ok_of_finish_error {request : MapRequest} {error : WaitError}
    (h : (request.finish (.error error)).outcome = some (.ok ())) :
    request.outcome = some (.ok ()) := by
  cases houtcome : request.outcome with
  | none => simp [MapRequest.finish, houtcome] at h
  | some outcome => simpa [MapRequest.finish, houtcome] using h

namespace Inner
variable (s : Inner Format) {touched : Multiset NativeId}

theorem updateNative_natives (native native' : NativeId) (f : Native Format → Native Format) :
    (s.updateNative native f).natives native' =
      (s.natives native').map (if native' = native then f else id) := by
  by_cases heq : native' = native
  · simp [updateNative, heq]
  · simp [updateNative, heq]

theorem keeps_updateNative {native : NativeId} (f : Native Format → Native Format)
    (h : native ∈ touched) : s.Keeps (s.updateNative native f) touched where
  natives native' apart object hobject := by
    have hne : native' ≠ native := fun heq => apart (heq ▸ h)
    exact ⟨object, by rw [updateNative_natives, hobject, if_neg hne]; rfl, rfl, rfl, rfl, id⟩
  creations _ h := h
  requests _ request h := ⟨request, h, rfl, .inl⟩

theorem keeps_create {memory : MemoryUsage} {allocation : ChargedAllocation Format}
    {creation : CreationId} (fresh : s.natives s.nextNative = none) :
    s.Keeps (s.create memory allocation creation) touched where
  natives native _ object hobject := by
    have hne : native ≠ s.nextNative := by
      intro heq
      rw [heq, fresh] at hobject
      cases hobject
    exact ⟨object, by rw [create]; exact (Function.update_of_ne hne _ _).trans hobject, rfl, rfl,
      rfl, id⟩
  creations _ h := h
  requests _ request h := ⟨request, h, rfl, .inl⟩

theorem setPool_natives (pool : ResourcePool (ChargedAllocation Format)) (native : NativeId) :
    (s.setPool pool).natives native = (s.natives native).map fun object =>
      if s.entering pool native then { object with lateReturn := s.loss.isSome } else object :=
  rfl

theorem runMap_natives (signal : SignalId) (request : MapRequest) (result : Outcome) :
    ∃ f : Native Format → Native Format,
      (∀ object, (f object).lateReturn = object.lateReturn) ∧ ∀ native,
        (s.runMap signal request result).natives native =
          (s.natives native).map (if native = request.native then f else id) := by
  cases result with
  | error _ =>
      refine ⟨id, fun _ => rfl, fun native => ?_⟩
      rw [ite_self, Option.map_id]
      rfl
  | ok _ =>
      exact ⟨fun object => { object with hostMapped := true }, fun _ => rfl,
        fun native => updateNative_natives _ _ native _⟩

theorem keeps_setPool (pool : ResourcePool (ChargedAllocation Format)) :
    s.Keeps (s.setPool pool) touched where
  natives native _ object hobject := by
    rw [setPool_natives, hobject]
    refine ⟨_, rfl, ?_⟩
    split <;> exact ⟨rfl, rfl, rfl, id⟩
  creations _ h := h
  requests _ request h := ⟨request, h, rfl, .inl⟩

theorem keeps_answer {creation : CreationId} (outcome : Outcome)
    (unanswered : s.creations creation = none) :
    s.Keeps { s with creations := Function.update s.creations creation (some outcome) }
      touched where
  natives _ _ object h := ⟨object, h, rfl, rfl, rfl, id⟩
  creations creation' h := by
    have hne : creation' ≠ creation := by
      intro heq
      rw [heq, unanswered] at h
      cases h
    exact (Function.update_of_ne hne _ _).trans h
  requests _ request h := ⟨request, h, rfl, .inl⟩

theorem keeps_push (allocation : ChargedAllocation Format)
    (fresh : s.requests s.nextSignal = none) : s.Keeps (s.push allocation) touched where
  natives _ _ object h := ⟨object, h, rfl, rfl, rfl, id⟩
  creations _ h := h
  requests signal request h := by
    have hne : signal ≠ s.nextSignal := by
      intro heq
      rw [heq, fresh] at h
      cases h
    exact ⟨request, (push_requests_of_ne s allocation hne).trans h, rfl, .inl⟩

/-- A request may be told an outcome, but none that is a success. -/
theorem keeps_updateRequest (signal : SignalId) {f : MapRequest → MapRequest}
    (native : ∀ request, (f request).native = request.native)
    (outcome : ∀ request, (f request).outcome = some (.ok ()) → request.outcome = some (.ok ())) :
    s.Keeps (s.updateRequest signal f) touched where
  natives _ _ object h := ⟨object, h, rfl, rfl, rfl, id⟩
  creations _ h := h
  requests signal' request h := by
    by_cases heq : signal' = signal
    · exact ⟨f request, by rw [updateRequest_requests, h, if_pos heq]; rfl, native request,
        fun hok => .inl (outcome request hok)⟩
    · exact ⟨request, by rw [updateRequest_requests, h, if_neg heq]; rfl, rfl, .inl⟩

theorem keeps_dropMap (signal : SignalId) : s.Keeps (s.dropMap signal) touched :=
  s.keeps_updateRequest signal (fun _ => rfl) fun _ => MapRequest.ok_of_finish_error

theorem keeps_takeOutcome (signal : SignalId) : s.Keeps (s.takeOutcome signal) touched :=
  s.keeps_updateRequest signal (fun _ => rfl) nofun

theorem keeps_harvest (position : Nat) (signal : SignalId) :
    s.Keeps (s.harvest position signal) touched := by
  have hkeeps : s.Keeps (s.updateRequest signal fun request =>
      { request with harvests := request.harvests + 1 }) touched :=
    s.keeps_updateRequest signal (fun _ => rfl) (fun _ => id)
  exact ⟨hkeeps.natives, hkeeps.creations, hkeeps.requests⟩

/-- A callback that succeeds has mapped the buffer of its request. -/
theorem keeps_runMap {signal : SignalId} {request : MapRequest} (result : Outcome)
    (h : s.requests signal = some request) :
    s.Keeps (s.runMap signal request result) touched := by
  cases result with
  | error error =>
      exact s.keeps_updateRequest signal (fun _ => rfl) fun _ => MapRequest.ok_of_finish_error
  | ok _ =>
      have hafter : ∀ native, (s.runMap signal request (.ok ())).natives native =
          (s.natives native).map
            (if native = request.native then fun object => { object with hostMapped := true }
              else id) :=
        fun native => updateNative_natives _ _ native _
      refine ⟨fun native _ object hobject => ?_, fun _ h => h, fun signal' request' h' => ?_⟩
      · rw [hafter, hobject]
        refine ⟨_, rfl, ?_⟩
        split
        · exact ⟨rfl, rfl, rfl, fun _ => rfl⟩
        · exact ⟨rfl, rfl, rfl, id⟩
      · have hrequests := updateRequest_requests s signal signal' fun request =>
          { request.finish (.ok ()) with callback := .ran }
        rw [h'] at hrequests
        refine ⟨_, hrequests, ?_⟩
        by_cases heq : signal' = signal
        · have hsame : request' = request := by
            rw [heq, h] at h'
            exact (Option.some.inj h').symm
          subst hsame
          rw [if_pos heq]
          refine ⟨rfl, fun _ => .inr fun object hobject => ?_⟩
          rw [hafter, if_pos rfl] at hobject
          obtain ⟨before, -, rfl⟩ := Option.map_eq_some_iff.mp hobject
          rfl
        · rw [if_neg heq]
          exact ⟨rfl, .inl⟩

end Inner

end GpuInfo
