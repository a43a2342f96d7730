import GpuInfo.Resources.Places

/-!
Charge conservation across the lifecycle of tracked resources: the charge of an allocation
goes with it, a reservation with the `prepare` that holds it, and a remap is kept until a
collect has harvested it, once.
-/

namespace GpuInfo
open MachineInteger Interleaving

variable {Format : Type}

/-! The budget -/

def bytesOf (deeds : Multiset (NativeId × Nat)) : Nat := (deeds.map Prod.snd).sum

/-- The bytes that another user of the budget has allocated. -/
def Activity.foreignBytes : Activity Format → Nat
  | .foreign holder => holder.charge
  | _ => 0

def Ending.remaining : Ending Format → Nat
  | .unwinds remaining | .creationFails _ remaining _ => remaining
  | .done | .prepareFails _ => 0

def Purpose.remaining : Purpose Format → Nat
  | .dropping _ ending _ => ending.remaining
  | .done | .evicting _ _ _ | .collecting _ _ _ _ => 0

/-- The bytes of the reservation an activity holds. -/
def Activity.remaining : Activity Format → Nat
  | .foreign holder => holder.remaining
  | .creating _ _ _ remaining => remaining
  | .dropping _ ending | .offering _ _ _ ending => ending.remaining
  | .calling _ purpose => purpose.remaining
  | _ => 0

theorem foreignBytes_foreign (holders : Multiset (Holder Fake)) :
    ((holders.map .foreign).map (@Activity.foreignBytes Format)).sum =
      (holders.map Holder.charge).sum := by
  rw [Multiset.map_map]
  rfl

theorem remaining_foreign (holders : Multiset (Holder Fake)) :
    ((holders.map .foreign).map (@Activity.remaining Format)).sum =
      (holders.map Holder.remaining).sum := by
  rw [Multiset.map_map]
  rfl

theorem moves_foreignBytes {activity : Activity Format} {left : Multiset (Activity Format)}
    (h : activity.Moves left) : (left.map Activity.foreignBytes).sum = activity.foreignBytes := by
  cases h <;> rfl

theorem moves_remaining {activity : Activity Format} {left : Multiset (Activity Format)}
    (h : activity.Moves left) : (left.map Activity.remaining).sum = activity.remaining := by
  cases h <;> rfl

theorem resume_foreignBytes (purpose : Purpose Format) :
    (purpose.resume.map Activity.foreignBytes).sum = 0 := by
  cases purpose <;> rfl

theorem resume_remaining (purpose : Purpose Format) :
    (purpose.resume.map Activity.remaining).sum = purpose.remaining := by
  cases purpose <;> rfl

/-! Remaps -/

/-- A map request is harvested at most once, after its callback, and until then its remap
is kept. -/
structure MapRequest.Kept (remaps : List (Remap Format)) (signal : SignalId)
    (request : MapRequest) : Prop where
  settled : request.outcome ≠ none → request.callback ≠ .pending
  once : request.harvests ≤ 1
  later : request.harvests = 1 → request.callback ≠ .pending
  waiting : request.harvests = 0 →
    ∃ remap ∈ remaps, remap.signal = signal ∧ remap.allocation.native = request.native

structure Listening (remaps : List (Remap Format)) (requests : SignalId → Option MapRequest)
    (next : SignalId) : Prop where
  fresh : ∀ signal, next ≤ signal → requests signal = none
  apart : (remaps.map Remap.signal).Nodup
  open' : ∀ remap ∈ remaps, ∃ request, requests remap.signal = some request ∧ request.harvests = 0
  kept : ∀ signal request, requests signal = some request → request.Kept remaps signal

abbrev Inner.Listening (s : Inner Format) : Prop :=
  GpuInfo.Listening s.remaps s.requests s.nextSignal

theorem updateRequest_requests (s : Inner Format) (signal signal' : SignalId)
    (f : MapRequest → MapRequest) : (s.updateRequest signal f).requests signal' =
      (s.requests signal').map (if signal' = signal then f else id) := by
  by_cases heq : signal' = signal
  · simp [Inner.updateRequest, heq]
  · simp [Inner.updateRequest, heq]

/-- What does not harvest a request may only settle it. -/
theorem Inner.Listening.update {s : Inner Format} (hs : s.Listening) (signal : SignalId)
    {f : MapRequest → MapRequest} (native : ∀ request, (f request).native = request.native)
    (harvests : ∀ request, (f request).harvests = request.harvests)
    (settled : ∀ request : MapRequest, (request.outcome ≠ none → request.callback ≠ .pending) →
      (f request).outcome ≠ none → (f request).callback ≠ .pending)
    (later : ∀ request : MapRequest, request.callback ≠ .pending →
      (f request).callback ≠ .pending) :
    (s.updateRequest signal f).Listening where
  fresh signal' hle := by
    rw [updateRequest_requests, hs.fresh signal' hle]
    rfl
  apart := hs.apart
  open' remap hremap := by
    obtain ⟨request, hrequest, hzero⟩ := hs.open' remap hremap
    rw [updateRequest_requests, hrequest]
    by_cases heq : remap.signal = signal
    · exact ⟨f request, by simp [heq], by rw [harvests, hzero]⟩
    · exact ⟨request, by simp [heq], hzero⟩
  kept signal' request' h := by
    rw [updateRequest_requests] at h
    obtain ⟨request, hrequest, rfl⟩ := Option.map_eq_some_iff.mp h
    have hkept := hs.kept signal' request hrequest
    by_cases heq : signal' = signal
    · rw [if_pos heq]
      refine ⟨settled request hkept.settled, ?_, fun hone => ?_, fun hzero => ?_⟩
      · rw [harvests]
        exact hkept.once
      · exact later request (hkept.later (harvests request ▸ hone))
      · rw [native]
        exact hkept.waiting (harvests request ▸ hzero)
    · rw [if_neg heq]
      exact hkept

/-- A remap is harvested once its request is settled. -/
theorem Inner.Listening.harvest {s : Inner Format} (hs : s.Listening) {position : Nat}
    {remap : Remap Format} {request : MapRequest} (h : s.remaps[position]? = some remap)
    (hrequest : s.requests remap.signal = some request) (settled : request.outcome ≠ none) :
    (s.harvest position remap.signal).Listening := by
  have hperm := swapRemove_perm h
  have hsignals := congrArg (Multiset.map Remap.signal) hperm
  have hmem : ∀ other, other ∈ s.remaps ↔ other = remap ∨ other ∈ swapRemove s.remaps position := by
    intro other
    rw [← Multiset.mem_coe, hperm, Multiset.mem_cons, Multiset.mem_coe]
  have hnodup : (remap.signal :: (swapRemove s.remaps position).map Remap.signal).Nodup := by
    rw [← Multiset.coe_nodup, ← Multiset.cons_coe, ← Multiset.map_coe, ← Multiset.map_cons,
      ← hperm]
    exact hs.apart
  obtain ⟨hout, happart⟩ := List.nodup_cons.mp hnodup
  refine ⟨fun signal hle => ?_, happart, fun other hother => ?_, fun signal request' h' => ?_⟩
  · rw [Inner.harvest, updateRequest_requests, hs.fresh signal hle]
    rfl
  · obtain ⟨found, hfound, hzero⟩ := hs.open' other ((hmem other).mpr (.inr hother))
    have hne : other.signal ≠ remap.signal := fun heq =>
      hout (heq ▸ List.mem_map_of_mem hother)
    exact ⟨found, by simp [Inner.harvest, updateRequest_requests, hfound, hne], hzero⟩
  · rw [Inner.harvest, updateRequest_requests] at h'
    obtain ⟨before, hbefore, rfl⟩ := Option.map_eq_some_iff.mp h'
    have hkept := hs.kept signal before hbefore
    by_cases heq : signal = remap.signal
    · subst heq
      obtain ⟨waits, hwaits, hzero⟩ := hs.open' remap ((hmem remap).mpr (.inl rfl))
      rw [hrequest] at hwaits hbefore
      cases hwaits
      cases hbefore
      rw [if_pos rfl]
      refine ⟨hkept.settled, ?_, fun _ => hkept.settled settled, fun hone => ?_⟩
      · simp [hzero]
      · simp at hone
    · rw [if_neg heq]
      refine ⟨hkept.settled, hkept.once, hkept.later, fun hzero => ?_⟩
      obtain ⟨other, hother, hsignal, hnative⟩ := hkept.waiting hzero
      cases (hmem other).mp hother with
      | inl hremap => exact absurd (hremap ▸ hsignal.symm) heq
      | inr hrest => exact ⟨other, hrest, hsignal, hnative⟩

theorem push_requests_self (s : Inner Format) (allocation : ChargedAllocation Format) :
    (s.push allocation).requests s.nextSignal = some ⟨allocation.native, none, .pending, 0⟩ :=
  Function.update_self _ _ _

theorem push_requests_of_ne (s : Inner Format) (allocation : ChargedAllocation Format)
    {signal : SignalId} (h : signal ≠ s.nextSignal) :
    (s.push allocation).requests signal = s.requests signal :=
  Function.update_of_ne h _ _

/-- A new remap listens to a request of its own. -/
theorem Inner.Listening.push {s : Inner Format} (hs : s.Listening)
    (allocation : ChargedAllocation Format) : (s.push allocation).Listening := by
  have hfresh : ∀ remap ∈ s.remaps, remap.signal ≠ s.nextSignal := by
    intro remap hremap heq
    obtain ⟨request, hrequest, -⟩ := hs.open' remap hremap
    rw [heq, hs.fresh s.nextSignal (Nat.le_refl _)] at hrequest
    cases hrequest
  refine ⟨fun signal hle => ?_, ?_, fun remap hremap => ?_, fun signal request h => ?_⟩
  · have hlt : s.nextSignal < signal := hle
    rw [push_requests_of_ne s allocation (Nat.ne_of_gt hlt)]
    exact hs.fresh signal hlt.le
  · have hsignals : (s.push allocation).remaps.map Remap.signal =
        s.remaps.map Remap.signal ++ [s.nextSignal] := List.map_append
    rw [hsignals, ← List.concat_eq_append]
    refine hs.apart.concat fun hmem => ?_
    obtain ⟨remap, hremap, heq⟩ := List.mem_map.mp hmem
    exact hfresh remap hremap heq
  · cases List.mem_append.mp hremap with
    | inl hold =>
        rw [push_requests_of_ne s allocation (hfresh remap hold)]
        exact hs.open' remap hold
    | inr hnew =>
        cases List.mem_singleton.mp hnew
        exact ⟨_, push_requests_self s allocation, rfl⟩
  · by_cases heq : signal = s.nextSignal
    · subst heq
      rw [push_requests_self] at h
      cases h
      refine ⟨fun hnone => absurd rfl hnone, Nat.zero_le _, fun hone => ?_, fun _ => ?_⟩
      · cases hone
      · exact ⟨_, List.mem_append_right _ (List.mem_singleton_self _), rfl, rfl⟩
    · rw [push_requests_of_ne s allocation heq] at h
      have hkept := hs.kept signal request h
      refine ⟨hkept.settled, hkept.once, hkept.later, fun hzero => ?_⟩
      obtain ⟨remap, hremap, hsame⟩ := hkept.waiting hzero
      exact ⟨remap, List.mem_append_left _ hremap, hsame⟩

theorem Inner.Listening.runMap {s : Inner Format} (hs : s.Listening) (signal : SignalId)
    (request : MapRequest) (result : Outcome) : (s.runMap signal request result).Listening := by
  have hran := hs.update signal
    (f := fun request => { request.finish result with callback := .ran })
    (fun _ => rfl) (fun _ => rfl) (fun _ _ _ => CallbackState.noConfusion)
    (fun _ _ => CallbackState.noConfusion)
  cases result <;> exact hran

theorem Inner.Listening.dropMap {s : Inner Format} (hs : s.Listening) (signal : SignalId) :
    (s.dropMap signal).Listening :=
  hs.update signal (fun _ => rfl) (fun _ => rfl) (fun _ _ _ => CallbackState.noConfusion)
    (fun _ _ => CallbackState.noConfusion)

theorem Inner.Listening.takeOutcome {s : Inner Format} (hs : s.Listening) (signal : SignalId) :
    (s.takeOutcome signal).Listening :=
  hs.update signal (fun _ => rfl) (fun _ => rfl) (fun _ _ hnone => absurd rfl hnone)
    (fun _ hran => hran)

/-! The rules -/

variable [DecidableEq Format] [Wgpu Format] {limits : Limits}

theorem rule_allocated (s : Inner Format) (taken : Multiset (Activity Format))
    (s' : Inner Format) (left : Multiset (Activity Format))
    (h : ResourceRule limits s taken s' left) (planned : ∀ activity ∈ taken, activity.Planned) :
    bytesOf s'.created + (left.map Activity.foreignBytes).sum +
        (s.memory.allocated + bytesOf s.destroyed) =
      bytesOf s.created + (taken.map Activity.foreignBytes).sum +
        (s'.memory.allocated + bytesOf s'.destroyed) := by
  cases h with
  | move h => rw [moves_foreignBytes h, Multiset.map_singleton, Multiset.sum_singleton]
  | foreign h =>
      have hallocated := admissionRule_allocated _ _ _ _ h
      rw [foreignBytes_foreign, foreignBytes_foreign]
      dsimp only
      omega
  | reserve h | evict h | reserveFails h =>
      obtain ⟨_, _, rfl⟩ | ⟨_, _, _, rfl⟩ := MemoryUsage.reserve_cases h <;>
        simp [Activity.foreignBytes]
  | create _ h =>
      obtain ⟨-, -, hallocated, -⟩ := charge_ok h
      simp only [bytesOf, Inner.create, Activity.foreignBytes, hallocated, Multiset.map_cons,
        Multiset.sum_cons, Multiset.map_singleton, Multiset.sum_singleton]
      omega
  | chargeFails _ h =>
      rw [(charge_error h).1]
      rfl
  | created h | unwound h | creationFailed h =>
      obtain ⟨-, rfl⟩ := MemoryUsage.cancel_eq_ok.mp h
      rfl
  | runMap result _ _ => cases result <;> rfl
  | advance _ h seen | finish _ h seen =>
      obtain ⟨hdestroyed, hallocated, -, hs'⟩ :=
        section_spec (planned _ (Multiset.mem_singleton_self _)) h seen
      rw [hdestroyed, hs']
      simp only [bytesOf, Multiset.map_add, Multiset.sum_add, Activity.foreignBytes,
        resume_foreignBytes, Multiset.map_singleton, Multiset.sum_singleton, Inner.setPool]
        at hallocated ⊢
      omega
  | _ => rfl

theorem rule_reserved (s : Inner Format) (taken : Multiset (Activity Format))
    (s' : Inner Format) (left : Multiset (Activity Format))
    (h : ResourceRule limits s taken s' left) (planned : ∀ activity ∈ taken, activity.Planned) :
    (left.map Activity.remaining).sum + s.memory.reserved =
      (taken.map Activity.remaining).sum + s'.memory.reserved := by
  cases h with
  | move h => rw [moves_remaining h, Multiset.map_singleton, Multiset.sum_singleton]
  | foreign h =>
      have hreserved := admissionRule_reserved _ _ _ _ h
      rw [remaining_foreign, remaining_foreign]
      dsimp only
      omega
  | reserve h =>
      obtain ⟨_, hanswer, _⟩ | ⟨hanswer, _, _, rfl⟩ := MemoryUsage.reserve_cases h
      · cases hanswer
      · cases hanswer
        simp [Activity.remaining]
        omega
  | evict h | reserveFails h =>
      obtain ⟨_, _, rfl⟩ | ⟨hanswer, _⟩ := MemoryUsage.reserve_cases h
      · simp [Activity.remaining, Purpose.remaining, Ending.remaining]
      · cases hanswer
  | create _ h =>
      obtain ⟨-, hreserved, -, hremaining⟩ := charge_ok h
      simp only [Inner.create, Activity.remaining, Multiset.map_singleton, Multiset.sum_singleton]
      omega
  | chargeFails _ h =>
      obtain ⟨rfl, rfl⟩ := charge_error h
      rfl
  | created h | unwound h | creationFailed h =>
      obtain ⟨hle, rfl⟩ := MemoryUsage.cancel_eq_ok.mp h
      simp [Activity.remaining, Ending.remaining]
      omega
  | runMap result _ _ => cases result <;> rfl
  | advance _ h seen | finish _ h seen =>
      obtain ⟨-, -, hreserved, -⟩ := section_spec (planned _ (Multiset.mem_singleton_self _)) h seen
      simp [Activity.remaining, resume_remaining, hreserved]
  | _ => rfl

theorem rule_listening (s : Inner Format) (taken : Multiset (Activity Format))
    (s' : Inner Format) (left : Multiset (Activity Format))
    (h : ResourceRule limits s taken s' left) (hs : s.Listening)
    (planned : ∀ activity ∈ taken, activity.Planned) : s'.Listening := by
  cases h with
  | push _ => exact hs.push _
  | harvest h hrequest settled => exact hs.harvest h hrequest settled
  | runMap result _ _ => exact hs.runMap _ _ result
  | dropMap _ _ => exact hs.dropMap _
  | settle _ _ | settleLost _ _ | settleFails _ _ => exact hs.takeOutcome _
  | advance _ h seen | finish _ h seen =>
      rw [(section_spec (planned _ (Multiset.mem_singleton_self _)) h seen).2.2.2]
      exact hs
  | _ => exact hs

/-- A call of the pool knows what it has seen of it. -/
def Activity.CallSound (s : Inner Format) : Activity Format → Prop
  | .calling call _ => call.Sound s.pool.maxEntries
  | _ => True

omit [DecidableEq Format] [Wgpu Format] in
theorem moves_callSound {s : Inner Format} {activity : Activity Format}
    {left : Multiset (Activity Format)} (h : activity.Moves left) :
    ∀ next ∈ left, next.CallSound s := by
  cases h with
  | dropFailed | dropped | prepareFailed => exact leaves_none
  | transfer => exact leaves_two trivial trivial
  | _ => exact leaves_one trivial

omit [DecidableEq Format] [Wgpu Format] in
theorem resume_callSound (s : Inner Format) (purpose : Purpose Format) :
    ∀ next ∈ purpose.resume, next.CallSound s := by
  cases purpose with
  | done => exact leaves_none
  | _ => exact leaves_one trivial

theorem rule_represented (s : Inner Format) (taken : Multiset (Activity Format))
    (s' : Inner Format) (left : Multiset (Activity Format))
    (h : ResourceRule limits s taken s' left) (hs : Represented s.pool)
    (known : ∀ activity ∈ taken, activity.Planned ∧ activity.CallSound s) :
    Represented s'.pool ∧ (∀ activity ∈ left, activity.CallSound s') ∧
      s'.pool.maxEntries = s.pool.maxEntries := by
  cases h with
  | move h => exact ⟨hs, moves_callSound h, rfl⟩
  | foreign h => exact ⟨hs, by simp [Activity.CallSound], rfl⟩
  | setIdleBudget h => exact ⟨hs, leaves_one h, rfl⟩
  | hit _ h =>
      obtain ⟨after, answer, hrun, hafter, hmax, -⟩ := take_sound hs _
      rw [h] at hrun
      cases hrun
      exact ⟨hafter, leaves_one trivial, hmax⟩
  | runMap result _ _ => cases result <;> exact ⟨hs, leaves_none, rfl⟩
  | advance grow h seen =>
      obtain ⟨hplanned, hsound⟩ := known _ (Multiset.mem_singleton_self _)
      obtain ⟨after, hrun, hafter⟩ := advance_sound hs grow hsound
      rw [h] at hrun
      cases hrun
      rw [(section_spec hplanned h seen).2.2.2]
      refine ⟨hafter.represented, leaves_one ?_, hafter.limit⟩
      exact (congrArg (PoolCall.Sound · _) hafter.limit).mpr (hafter.call _ rfl)
  | finish grow h seen =>
      obtain ⟨hplanned, hsound⟩ := known _ (Multiset.mem_singleton_self _)
      obtain ⟨after, hrun, hafter⟩ := advance_sound hs grow hsound
      rw [h] at hrun
      cases hrun
      rw [(section_spec hplanned h seen).2.2.2]
      exact ⟨hafter.represented, resume_callSound _ _, hafter.limit⟩
  | markLost | unwound | answer | dropMap | collectedLost | collected =>
      exact ⟨hs, leaves_none, rfl⟩
  | _ => exact ⟨hs, leaves_one trivial, rfl⟩

/-! Every run -/

/-- What every reachable state satisfies. -/
structure ResourcesAccounted (c : ResourceConfig Format) : Prop where
  planned : ∀ activity ∈ c.running, activity.Planned
  represented : Represented c.shared.pool
  sound : ∀ activity ∈ c.running, activity.CallSound c.shared
  deeds : c.shared.deeds + c.held Activity.deeds = c.shared.created
  numbered : c.shared.created.map Prod.fst = Multiset.range c.shared.nextNative
  allocated : bytesOf c.shared.created + c.held Activity.foreignBytes =
    c.shared.memory.allocated + bytesOf c.shared.destroyed
  reserved : c.held Activity.remaining = c.shared.memory.reserved
  listening : c.shared.Listening

omit [DecidableEq Format] [Wgpu Format] in
theorem ResourcesAccounted.start {c : ResourceConfig Format} (h : ResourceStart c) :
    ResourcesAccounted c := by
  obtain ⟨limit⟩ := h
  exact ⟨by simp, Represented.withLimits (Nat.zero_le _), by simp, rfl, rfl, rfl, rfl,
    fun _ _ => rfl, List.nodup_nil, by simp [Inner.new], by simp [Inner.new]⟩

omit [DecidableEq Format] [Wgpu Format] in
theorem Activity.CallSound.of_limit {s s' : Inner Format} {activity : Activity Format}
    (h : activity.CallSound s) (limit : s'.pool.maxEntries = s.pool.maxEntries) :
    activity.CallSound s' := by
  cases activity with
  | calling call purpose => exact (congrArg (PoolCall.Sound · call) limit).mpr h
  | _ => trivial

theorem ResourcesAccounted.step {c c' : ResourceConfig Format} (hc : ResourcesAccounted c)
    (h : ResourceStep limits c c') : ResourcesAccounted c' := by
  have keeps : ∀ s taken s' left, ResourceRule limits s taken s' left →
      Represented s.pool ∧ s.created.map Prod.fst = Multiset.range s.nextNative ∧ s.Listening →
      (∀ activity ∈ taken, activity.Planned ∧ activity.CallSound s) →
      (Represented s'.pool ∧ s'.created.map Prod.fst = Multiset.range s'.nextNative ∧
        s'.Listening) ∧ (∀ activity ∈ left, activity.Planned ∧ activity.CallSound s') ∧
        ∀ activity : Activity Format, activity.Planned ∧ activity.CallSound s →
          activity.Planned ∧ activity.CallSound s' := by
    intro s taken s' left h hs known
    have hplanned := fun activity hactivity => (known activity hactivity).1
    obtain ⟨hrepresented, hsound, hlimit⟩ := rule_represented s taken s' left h hs.1 known
    exact ⟨⟨hrepresented, rule_numbered s taken s' left h hs.2.1 hplanned,
        rule_listening s taken s' left h hs.2.2 hplanned⟩,
      fun activity hactivity =>
        ⟨rule_planned s taken s' left h hplanned activity hactivity, hsound activity hactivity⟩,
      fun activity hactivity => ⟨hactivity.1, hactivity.2.of_limit hlimit⟩⟩
  obtain ⟨⟨hrepresented, hnumbered, hlistening⟩, hrunning⟩ := h.keeps
    (I := fun s => Represented s.pool ∧ s.created.map Prod.fst = Multiset.range s.nextNative ∧
      s.Listening)
    (J := fun s activity => activity.Planned ∧ activity.CallSound s) keeps
    ⟨⟨hc.represented, hc.numbered, hc.listening⟩,
      fun activity hactivity => ⟨hc.planned activity hactivity, hc.sound activity hactivity⟩⟩
  have hreserved := h.balances (g := fun _ => 0) (k := fun s => s.memory.reserved)
    (fun s taken s' left h planned => by
      simpa only [Nat.zero_add] using rule_reserved s taken s' left h planned)
    hc.planned ((Nat.zero_add _).trans hc.reserved)
  exact {
    planned := fun activity hactivity => (hrunning activity hactivity).1
    represented := hrepresented
    sound := fun activity hactivity => (hrunning activity hactivity).2
    deeds := h.balances rule_deeds hc.planned hc.deeds
    numbered := hnumbered
    allocated := h.balances (k := fun s => s.memory.allocated + bytesOf s.destroyed)
      rule_allocated hc.planned hc.allocated
    reserved := (Nat.zero_add _).symm.trans hreserved
    listening := hlistening }

theorem resources_accounted {c : ResourceConfig Format}
    (hc : Reachable ResourceStart (ResourceStep limits) c) : ResourcesAccounted c :=
  hc.invariant (fun _ h => .start h) fun _ _ hs h => hs.step h

/-! Every charge in its place -/

def Ending.preparing : Ending Format → Bool
  | .done => false
  | .prepareFails _ | .unwinds _ | .creationFails _ _ _ => true

def Purpose.preparing : Purpose Format → Bool
  | .evicting _ _ _ => true
  | .dropping _ ending _ => ending.preparing
  | .done | .collecting _ _ _ _ => false

/-- Whether an activity is inside `prepare`. -/
def Activity.preparing : Activity Format → Bool
  | .taking _ _ _ _ | .reserving _ _ _ _ | .creating _ _ _ _ | .popping _ _ => true
  | .dropping _ ending | .offering _ _ _ ending => ending.preparing
  | .calling _ purpose => purpose.preparing
  | _ => false

/-- Nobody but `Resources` uses the budget. -/
def OnlyUser (c : ResourceConfig Format) : Prop :=
  ∀ activity ∈ c.running, ∀ holder, activity ≠ .foreign holder

omit [DecidableEq Format] [Wgpu Format] in
theorem Activity.remaining_of_not_preparing {activity : Activity Format}
    (own : ∀ holder, activity ≠ .foreign holder) (h : activity.preparing = false) :
    activity.remaining = 0 := by
  have hending : ∀ ending : Ending Format, ending.preparing = false → ending.remaining = 0 := by
    intro ending hending
    cases ending with
    | done | prepareFails _ => rfl
    | unwinds _ | creationFails _ _ _ => cases hending
  cases activity with
  | foreign holder => exact absurd rfl (own holder)
  | creating _ _ _ _ => cases h
  | dropping owners ending => exact hending ending h
  | offering stage allocation owners ending => exact hending ending h
  | calling call purpose =>
      cases purpose with
      | dropping owners ending returning => exact hending ending h
      | done | evicting _ _ _ | collecting _ _ _ _ => rfl
  | _ => rfl

omit [DecidableEq Format] [Wgpu Format] in
theorem bytesOf_add (deeds more : Multiset (NativeId × Nat)) :
    bytesOf (deeds + more) = bytesOf deeds + bytesOf more := by
  simp [bytesOf]

omit [DecidableEq Format] [Wgpu Format] in
theorem bytesOf_idle (slots : List (ChargedAllocation Format)) :
    bytesOf ((slots : Multiset (ChargedAllocation Format)).map deed) = totalBytes slots := by
  rw [bytesOf, Multiset.map_map, Multiset.map_coe, Multiset.sum_coe]
  rfl

/-- The allocations that are not destroyed: idle, in a remap, of an owner, or on their way. -/
def liveDeeds (c : ResourceConfig Format) : Multiset (NativeId × Nat) :=
  (c.shared.pool.idle.slots : Multiset (ChargedAllocation Format)).map deed +
    remapDeeds c.shared.remaps + c.held (fun activity => ownedDeeds activity.owners) +
    c.held (fun activity => activity.moving.map deed + remapDeeds activity.completed)

omit [DecidableEq Format] [Wgpu Format] in
theorem ResourcesAccounted.live {c : ResourceConfig Format} (h : ResourcesAccounted c) :
    liveDeeds c + c.shared.destroyed = c.shared.created := by
  have hheld : c.held Activity.deeds = c.held (fun activity => ownedDeeds activity.owners) +
      c.held (fun activity => activity.moving.map deed + remapDeeds activity.completed) := by
    rw [← Config.held_add]
    refine congrArg c.held (funext fun activity => ?_)
    rw [activity.deeds_eq, add_assoc]
  rw [← h.deeds, hheld, liveDeeds, Inner.deeds]
  ac_rfl

omit [DecidableEq Format] [Wgpu Format] in
theorem ResourcesAccounted.allocated_live {c : ResourceConfig Format} (h : ResourcesAccounted c) :
    c.shared.memory.allocated = bytesOf (liveDeeds c) + c.held Activity.foreignBytes := by
  have htotal := h.allocated
  rw [← h.live, bytesOf_add] at htotal
  omega

/-- In every run each allocation ever made is in one place: idle, held by a waiting remap, by
one owner or by the operation that moves it, or destroyed. The budget has allocated the bytes
of those that are not destroyed, with what its other users have; without other users
nothing is reserved outside `prepare`, and nothing allocated once owners and remaps are gone
and nothing may be idle. A remap is harvested at most once, after its callback ran or was
dropped, and is kept with its allocation until then. -/
theorem resources_conserve_charges {c : ResourceConfig Format}
    (hc : Reachable ResourceStart (ResourceStep limits) c) :
    liveDeeds c + c.shared.destroyed = c.shared.created ∧
    (c.shared.created.map Prod.fst).Nodup ∧
    c.shared.memory.allocated = bytesOf (liveDeeds c) + c.held Activity.foreignBytes ∧
    (OnlyUser c → c.shared.memory.allocated = bytesOf (liveDeeds c)) ∧
    (OnlyUser c → (∀ activity ∈ c.running, activity.preparing = false) →
      c.shared.memory.reserved = 0) ∧
    (∀ signal request, c.shared.requests signal = some request →
      request.harvests ≤ 1 ∧ (request.harvests = 1 → request.callback ≠ .pending) ∧
        (request.harvests = 0 → ∃ remap ∈ c.shared.remaps, remap.signal = signal ∧
          remap.allocation.native = request.native)) ∧
    (OnlyUser c → c.shared.remaps = [] → c.shared.pool.budget = 0 →
      (∀ activity ∈ c.running, activity.owners = [] ∧ activity.moving = 0 ∧
        activity.completed = []) → c.shared.memory.allocated = 0) := by
  have h := resources_accounted hc
  have hallocated := h.allocated_live
  have hforeign : OnlyUser c → c.held Activity.foreignBytes = 0 := by
    intro only
    refine Config.held_zero fun activity hactivity => ?_
    cases activity with
    | foreign holder => exact absurd rfl (only _ hactivity holder)
    | _ => rfl
  refine ⟨h.live, ?_, hallocated, fun only => ?_, fun only outside => ?_,
    fun signal request hrequest => ?_, fun only noRemaps noBudget gone => ?_⟩
  · rw [h.numbered]
    exact Multiset.nodup_range _
  · rw [hallocated, hforeign only, Nat.add_zero]
  · rw [← h.reserved]
    exact Config.held_zero fun activity hactivity =>
      Activity.remaining_of_not_preparing (only activity hactivity) (outside activity hactivity)
  · have hkept := h.listening.kept signal request hrequest
    exact ⟨hkept.once, hkept.later, hkept.waiting⟩
  · have howned : c.held (fun activity => ownedDeeds activity.owners) = 0 :=
      Config.held_zero fun activity hactivity => by rw [(gone activity hactivity).1]; rfl
    have hmoving : c.held
        (fun activity => activity.moving.map deed + remapDeeds activity.completed) = 0 :=
      Config.held_zero fun activity hactivity => by
        rw [(gone activity hactivity).2.1, (gone activity hactivity).2.2]
        rfl
    have hidle : totalBytes c.shared.pool.idle.slots = 0 := by
      have hwithin := h.represented.within
      rw [h.represented.exact, noBudget] at hwithin
      exact Nat.le_zero.mp hwithin
    rw [hallocated, hforeign only, liveDeeds, noRemaps, howned, hmoving, remapDeeds_nil]
    simp only [add_zero, bytesOf_idle, hidle]

/-- Devices with one texture format. -/
inductive R8
  | unorm
  deriving DecidableEq

instance : Wgpu R8 where
  removeSrgbSuffix := id
  blockCopySize _ := some 1
  blockDimensions _ := (1, 1)
  maxMips size
    | .d1 => 1
    | .d2 => Nat.log2 (max size.width size.height) + 1
    | .d3 => Nat.log2 (max (max size.width size.height) size.depthOrArrayLayers) + 1
  mipLevelSize size level
    | .d1 => { size with width := max 1 (size.width >>> level) }
    | .d2 => { size with
        width := max 1 (size.width >>> level)
        height := max 1 (size.height >>> level) }
    | .d3 => ⟨max 1 (size.width >>> level), max 1 (size.height >>> level),
        max 1 (size.depthOrArrayLayers >>> level)⟩
  allBufferUsages := 0xFFF
  allTextureUsages := 0x1F

instance : LawfulWgpu R8 where
  blockCopySize_pos _ block h := by
    cases h
    exact Nat.one_pos
  blockDimensions_pos _ := ⟨Nat.one_pos, Nat.one_pos⟩
  mipLevelSize_pos size level dimension _ height layers := by
    cases dimension <;> simp [Wgpu.mipLevelSize, height, layers]

def smallLimits : Limits := ⟨1024, 64, 64, 64, 4⟩

/-- A storage buffer. -/
def storage : Spec R8 := .buffer ⟨⟨16, by decide⟩, 0x80⟩

theorem storage_bytes : storage.normalized.bytes smallLimits = .ok 16 := by decide

/-- A buffer is prepared, accepted and dropped with its batch. -/
theorem storage_returns : ∃ (c : ResourceConfig R8) (allocation : ChargedAllocation R8),
    Reachable ResourceStart (ResourceStep smallLimits) c ∧
      c.shared.pool.idle.slots = [allocation] ∧ allocation.resource.spec = storage ∧
      allocation.bytes = 16 ∧ c.shared.memory = ⟨some 64, 0, 16, 16⟩ ∧ c.shared.loss = none := by
  have fresh : Reachable ResourceStart (ResourceStep smallLimits)
      (⟨.new (some 64), 0⟩ : ResourceConfig R8) := .start (.new (some 64))
  have asked := fresh.fire 0 (.setIdleBudget (show 64 ≤ u64Max by decide)) rfl
  have set := asked.fire 0 (.advance true rfl rfl) rfl
  have evicted := set.fire 0 (.advance true rfl rfl) rfl
  have retaining := evicted.fire 0 (.finish true rfl rfl) rfl
  have checked := retaining.fire 0
    (.prepare (show prepareCheck smallLimits none [storage] = .ok () from rfl)) rfl
  have missed := checked.fire 0
    (.miss (fun _ => rfl) (show addMissing smallLimits 0 storage = .ok 16 by decide)) rfl
  have planned := missed.fire 0 (.move (.planned _ _ _)) rfl
  have reserved := planned.fire 0 (.reserve rfl) rfl
  have made := reserved.fire 0 (.create storage_bytes rfl) rfl
  have created := made.fire 0 (.created rfl) rfl
  have popped := created.fire 0 (.move (.popped _ _)) rfl
  have answered := popped.fire _ (.answer 0 (.ok ()) rfl) (zero_add _).symm
  have accepted := answered.fire 0 (.accept rfl) rfl
  have dropped := accepted.fire 0 (.move (.dropBatch _)) rfl
  have offered := dropped.fire 0 (.move (.offer _ _ rfl)) rfl
  have small := offered.fire 0 (.withinBudget (by decide)) rfl
  have wanted := small.fire 0 (.someBudget (by decide)) rfl
  have put := wanted.fire 0 (.put rfl rfl) rfl
  have entered := put.fire 0 (.advance true rfl rfl) rfl
  exact ⟨_, _, entered.fire 0 (.finish true rfl rfl) rfl, rfl, rfl, rfl, rfl, rfl⟩

theorem resources_conserve_charges_storage_returns : ∃ c : ResourceConfig R8,
    c.shared.memory.allocated = 16 ∧ c.shared.memory.allocated = bytesOf (liveDeeds c) +
      c.held Activity.foreignBytes := by
  obtain ⟨c, _, hc, -, -, -, hmemory, -⟩ := storage_returns
  exact ⟨c, congrArg MemoryUsage.allocated hmemory, (resources_conserve_charges hc).2.2.1⟩

end GpuInfo
