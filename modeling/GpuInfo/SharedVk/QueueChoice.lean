import GpuInfo.SharedVk.OpenShared
import Mathlib.Data.List.Nodup

/-!
Whose queues the shared device has. The decoder's and a consumer's are created with the
device, and are neither the renderer's nor each other's; but a decode family is looked for
before wgpu's own is ruled out, and so an adapter on which both can decode is refused.
-/

namespace GpuInfo
namespace SharedVk

/-- The family of that index has a capability. -/
def Has (families : List QueueFamilyProperties) (i : Nat) (flags : QueueFlags) : Prop :=
  ∃ f, families[i]? = some f ∧ f.queueFlags.contains flags = true

/-- A family that compute may be given beside wgpu's and the decoder's. -/
def Free (families : List QueueFamilyProperties) (decode i : Nat) : Prop :=
  i ≠ wgpuFamily ∧ i ≠ decode ∧ Has families i .compute

variable {families : List QueueFamilyProperties} {decode i : Nat}

/-! The choice of the families -/

theorem usable_eq_some {main j : Nat} {taken : Option Nat} {f : QueueFamilyProperties} :
    usable main taken (f, i) = some j ↔ j = i ∧ i < 2 ^ 32 ∧
      f.queueFlags.contains .compute = true ∧ i ≠ main ∧ some i ≠ taken ∧ 0 < f.queueCount := by
  rw [usable, Option.ite_none_right_eq_some, Option.some.injEq, and_comm, @eq_comm _ i j]

theorem computeFamily_eq_some (h : computeFamily families wgpuFamily (some decode) = some i) :
    Free families decode i ∧ ∃ f, families[i]? = some f ∧ 0 < f.queueCount := by
  have hfound : ∃ family ∈ families.zipIdx,
      usable wgpuFamily (some decode) family = some i := by
    cases Option.or_eq_some_iff.mp h with
    | inl hfirst =>
        obtain ⟨family, hmem, hfilter⟩ := List.exists_of_findSome?_eq_some hfirst
        exact ⟨family, hmem, (Option.filter_eq_some_iff.mp hfilter).1⟩
    | inr hsecond => exact List.exists_of_findSome?_eq_some hsecond.2
  obtain ⟨⟨f, j⟩, hmem, husable⟩ := hfound
  obtain ⟨rfl, -, hcompute, hmain, hdecode, hcount⟩ := usable_eq_some.mp husable
  have hget : families[i]? = some f := List.mem_zipIdx_iff_getElem?.mp hmem
  exact ⟨⟨hmain, fun heq => hdecode (congrArg some heq), f, hget, hcompute⟩, f, hget, hcount⟩

section Choosing
variable (counted : families.length < 2 ^ 32) (counts : ∀ f ∈ families, 0 < f.queueCount)
include counted counts

theorem Free.usable {f : QueueFamilyProperties} (h : Free families decode i)
    (hget : families[i]? = some f) :
    (f, i) ∈ families.zipIdx ∧ usable wgpuFamily (some decode) (f, i) = some i := by
  obtain ⟨hmain, hdecode, f', hget', hcompute⟩ := h
  obtain rfl := Option.some.inj (hget.symm.trans hget')
  obtain ⟨hlt, -⟩ := List.getElem?_eq_some_iff.mp hget
  refine ⟨List.mem_zipIdx_iff_getElem?.mpr hget, usable_eq_some.mpr ⟨rfl, ?_, hcompute, hmain,
    fun heq => hdecode (Option.some.inj heq), counts f (List.mem_of_getElem? hget)⟩⟩
  exact Nat.lt_trans hlt counted

theorem Free.computeFamily (h : Free families decode i) :
    ∃ j, computeFamily families wgpuFamily (some decode) = some j := by
  obtain ⟨-, -, f, hget, -⟩ := id h
  obtain ⟨hmem, husable⟩ := h.usable counted counts hget
  have hsome : (families.zipIdx.findSome? (SharedVk.usable wgpuFamily (some decode))).isSome := by
    rw [List.findSome?_isSome_iff]
    exact ⟨_, hmem, by rw [husable]; rfl⟩
  rw [← Option.isSome_iff_exists, SharedVk.computeFamily, Option.isSome_or, hsome, Bool.or_true]

/-- A family without graphics is preferred. -/
theorem Free.computeFamily_apart (h : Free families decode i)
    (apart : ¬ Has families i .graphics) :
    ∃ j, SharedVk.computeFamily families wgpuFamily (some decode) = some j ∧
      Free families decode j ∧ ¬ Has families j .graphics := by
  obtain ⟨-, -, f, hget, -⟩ := id h
  obtain ⟨hmem, husable⟩ := h.usable counted counts hget
  have hgraphics : f.queueFlags.contains .graphics = false := by
    rw [Bool.eq_false_iff]
    exact fun hf => apart ⟨f, hget, hf⟩
  cases hfirst : families.zipIdx.findSome? fun family =>
      (SharedVk.usable wgpuFamily (some decode) family).filter
        fun _ => !family.1.queueFlags.contains .graphics with
  | none =>
      have hnone := List.findSome?_eq_none_iff.mp hfirst (f, i) hmem
      simp [husable, hgraphics] at hnone
  | some j =>
      have hchosen : SharedVk.computeFamily families wgpuFamily (some decode) = some j := by
        rw [SharedVk.computeFamily, hfirst, Option.some_or]
      refine ⟨j, hchosen, (computeFamily_eq_some hchosen).1, ?_⟩
      obtain ⟨⟨f', i'⟩, hmem', hfilter⟩ := List.exists_of_findSome?_eq_some hfirst
      obtain ⟨husable', hnot⟩ := Option.filter_eq_some_iff.mp hfilter
      obtain ⟨rfl, -⟩ := usable_eq_some.mp husable'
      rintro ⟨f'', hget'', hf''⟩
      obtain rfl := Option.some.inj ((List.mem_zipIdx_iff_getElem?.mp hmem').symm.trans hget'')
      simp [hf''] at hnot

end Choosing

/-- The first family that decodes, since an index fits the cast. -/
theorem decodeFamily_eq_some (counted : families.length < 2 ^ 32) :
    decodeFamily families = some decode ↔
      Has families decode .videoDecode ∧ ∀ j < decode, ¬ Has families j .videoDecode := by
  have small : ∀ {k}, k < families.length → k % 2 ^ 32 = k := fun hk =>
    Nat.mod_eq_of_lt (Nat.lt_trans hk counted)
  simp only [decodeFamily, Option.map_eq_some_iff, List.findIdx?_eq_some_iff_getElem]
  constructor
  · rintro ⟨k, ⟨hk, hdecodes, hbefore⟩, hmod⟩
    obtain rfl : k = decode := (small hk).symm.trans hmod
    refine ⟨⟨families[k], List.getElem?_eq_getElem hk, hdecodes⟩, ?_⟩
    rintro j hj ⟨f, hget, hf⟩
    obtain ⟨hlt, rfl⟩ := List.getElem?_eq_some_iff.mp hget
    exact hbefore j hj hf
  · rintro ⟨⟨f, hget, hdecodes⟩, hbefore⟩
    obtain ⟨hlt, rfl⟩ := List.getElem?_eq_some_iff.mp hget
    exact ⟨decode, ⟨hlt, hdecodes, fun j hj hf =>
      hbefore j hj ⟨_, List.getElem?_eq_getElem (hj.trans hlt), hf⟩⟩, small hlt⟩

theorem decodeFamily_eq_none : decodeFamily families = none ↔
    ∀ i, ¬ Has families i .videoDecode := by
  rw [decodeFamily, Option.map_eq_none_iff, List.findIdx?_eq_none_iff]
  constructor
  · rintro h i ⟨f, hget, hf⟩
    exact absurd hf (Bool.eq_false_iff.mp (h f (List.mem_of_getElem? hget)))
  · intro h f hmem
    obtain ⟨i, hi, rfl⟩ := List.mem_iff_getElem.mp hmem
    exact Bool.eq_false_iff.mpr fun hf => h i ⟨_, List.getElem?_eq_getElem hi, hf⟩

/-- A queue for compute is one of a family of its own, or the second of wgpu's. -/
theorem computeQueue_eq_some {queue : Nat × Nat} (h : computeQueue families decode = some queue) :
    (queue.2 = 0 ∧ Free families decode queue.1 ∧
      ∃ f, families[queue.1]? = some f ∧ 0 < f.queueCount) ∨
    (queue = (wgpuFamily, 1) ∧ ∃ f, families[wgpuFamily]? = some f ∧ 2 ≤ f.queueCount) := by
  unfold computeQueue at h
  split at h
  · rename_i i hchosen
    cases h
    exact .inl ⟨rfl, computeFamily_eq_some hchosen⟩
  · obtain ⟨f, hfilter, rfl⟩ := Option.map_eq_some_iff.mp h
    obtain ⟨hget, hcount⟩ := Option.filter_eq_some_iff.mp hfilter
    exact .inr ⟨rfl, f, hget, of_decide_eq_true hcount⟩

/-! What is decided -/

variable {windows : Bool} {adapter : VulkanAdapter} {chosen : Plan}

/-- The adapter has the core video extensions. -/
def HasCore (adapter : VulkanAdapter) : Prop := ∀ ext ∈ videoCore, ext ∈ adapter.extensions

instance (adapter : VulkanAdapter) : Decidable (HasCore adapter) :=
  inferInstanceAs (Decidable (∀ _ ∈ _, _))

theorem hasCore_iff : (videoCore.all fun ext => (presentVideoExt adapter).contains ext) = true ↔
    HasCore adapter := by
  simp [HasCore, presentVideoExt, videoCore, videoExt]

theorem plan_eq_ok (h : plan windows adapter = .ok chosen) :
    decodeFamily adapter.families.list = some chosen.decode ∧ chosen.decode ≠ wgpuFamily ∧
      chosen.compute = computeQueue adapter.families.list chosen.decode := by
  rw [plan] at h
  by_cases core : (!videoCore.all fun ext => (presentVideoExt adapter).contains ext) = true
  · rw [if_pos core] at h
    cases h
  · rw [if_neg core] at h
    cases hdecode : decodeFamily adapter.families.list with
    | none =>
        rw [hdecode] at h
        cases h
    | some decode =>
        simp only [hdecode] at h
        by_cases hmain : decode = wgpuFamily
        · rw [if_pos hmain] at h
          cases h
        · rw [if_neg hmain] at h
          cases h
          exact ⟨rfl, hmain, rfl⟩

theorem plan_of_decode (core : HasCore adapter) {decode : Nat}
    (hdecode : decodeFamily adapter.families.list = some decode) (hmain : decode ≠ wgpuFamily) :
    ∃ chosen, plan windows adapter = .ok chosen ∧ chosen.decode = decode := by
  simp only [plan, hasCore_iff.mpr core, hdecode, if_neg hmain]
  exact ⟨_, rfl, rfl⟩

theorem plan_decodeOnMain (core : HasCore adapter)
    (hdecode : decodeFamily adapter.families.list = some wgpuFamily) :
    plan windows adapter = .error (.decodeOnMain wgpuFamily) := by
  simp only [plan, hasCore_iff.mpr core, hdecode]
  rfl

/-! What is created -/

/-- The family of a queue has a create-info with a priority for it, and has as many queues as
that asks for. -/
def Created (families : List QueueFamilyProperties) (infos : List DeviceQueueCreateInfo)
    (queue : Nat × Nat) : Prop :=
  ∃ info ∈ infos, info.queueFamilyIndex = queue.1 ∧ queue.2 < info.queuePriorities.length ∧
    ∃ f, families[queue.1]? = some f ∧ info.queuePriorities.length ≤ f.queueCount

/-- The queues that are published of a device on which wgpu renders on the first. -/
def Plan.queues (chosen : Plan) : List (Nat × Nat) :=
  (wgpuFamily, 0) :: (chosen.decode, 0) :: chosen.compute.toList

theorem openShared_queues {hal : WgpuHal} {shared : VulkanShared}
    (creates : plan windows adapter = .ok chosen)
    (renders : ∀ args queue, hal.create args = .ok queue → queue = (wgpuFamily, 0))
    (h : openShared windows (some adapter) hal = .ok shared) : shared.queues = chosen.queues := by
  simp only [openShared, creates, bind, Except.bind] at h
  cases hcreate : hal.create (chosen.edit hal.requested) with
  | error error =>
      rw [hcreate] at h
      cases h
  | ok queue =>
      obtain rfl := renders _ _ hcreate
      rw [hcreate] at h
      cases hadopt : hal.adopt with
      | error error =>
          rw [hadopt] at h
          cases h
      | ok _ =>
          rw [hadopt] at h
          cases h
          rfl

section Infos
variable {p : Rat} (hmain : chosen.decode ≠ wgpuFamily)
include hmain

theorem queueCreateInfos_none (h : chosen.compute = none) :
    chosen.queueCreateInfos [⟨wgpuFamily, [p]⟩] =
      [⟨wgpuFamily, [p]⟩, ⟨chosen.decode, priority⟩] := by
  simp [Plan.queueCreateInfos, want, h, hmain.symm]

theorem queueCreateInfos_own (h : chosen.compute = some (i, 0)) (hi : i ≠ wgpuFamily)
    (hdecode : i ≠ chosen.decode) :
    chosen.queueCreateInfos [⟨wgpuFamily, [p]⟩] =
      [⟨wgpuFamily, [p]⟩, ⟨chosen.decode, priority⟩, ⟨i, priority⟩] := by
  simp [Plan.queueCreateInfos, want, h, Option.filter_some, hmain.symm, hi, hi.symm, hdecode.symm]

theorem queueCreateInfos_second (h : chosen.compute = some (wgpuFamily, 1)) :
    chosen.queueCreateInfos [⟨wgpuFamily, [p]⟩] =
      [⟨wgpuFamily, priorityPair⟩, ⟨chosen.decode, priority⟩] := by
  simp [Plan.queueCreateInfos, want, h, Option.filter_some, hmain.symm, pairFirst]

end Infos

theorem created_first {f : QueueFamilyProperties} {infos : List DeviceQueueCreateInfo} {p : Rat}
    (hget : families[i]? = some f) (hcount : 0 < f.queueCount) (hmem : ⟨i, [p]⟩ ∈ infos) :
    Created families infos (i, 0) :=
  ⟨_, hmem, rfl, Nat.zero_lt_one, f, hget, hcount⟩

/-- Both queues of a create-info with two priorities. -/
theorem created_pair {f : QueueFamilyProperties} {infos : List DeviceQueueCreateInfo}
    (hget : families[i]? = some f) (hcount : 2 ≤ f.queueCount)
    (hmem : ⟨i, priorityPair⟩ ∈ infos) :
    Created families infos (i, 0) ∧ Created families infos (i, 1) :=
  ⟨⟨_, hmem, rfl, Nat.zero_lt_two, f, hget, hcount⟩,
    ⟨_, hmem, rfl, Nat.one_lt_two, f, hget, hcount⟩⟩

/-- The renderer's queue, the decoder's and a consumer's are different queues that the device
is created with. -/
theorem published_queues_are_own {hal : WgpuHal} {p : Rat}
    (counts : ∀ f ∈ adapter.families.list, 0 < f.queueCount)
    (creates : plan windows adapter = .ok chosen)
    (asks : hal.requested.queueCreateInfos = [⟨wgpuFamily, [p]⟩])
    (renders : ∀ args queue, hal.create args = .ok queue → queue = (wgpuFamily, 0)) :
    (∀ shared, openShared windows (some adapter) hal = .ok shared →
      shared.queues = chosen.queues) ∧
    chosen.queues.Nodup ∧
    ((chosen.edit hal.requested).queueCreateInfos.map (·.queueFamilyIndex)).Nodup ∧
    (∀ queue ∈ chosen.queues, Created adapter.families.list
      (chosen.edit hal.requested).queueCreateInfos queue) ∧
    Has adapter.families.list chosen.decode .videoDecode ∧
    ∀ queue, chosen.compute = some queue →
      queue.1 ≠ chosen.decode ∧ (queue ≠ (wgpuFamily, 1) → queue.1 ≠ wgpuFamily) := by
  obtain ⟨hdecode, hmain, hcompute⟩ := plan_eq_ok creates
  obtain ⟨hcan, -⟩ := (decodeFamily_eq_some adapter.families.counted).mp hdecode
  have hinfos : (chosen.edit hal.requested).queueCreateInfos =
      chosen.queueCreateInfos [⟨wgpuFamily, [p]⟩] := congrArg chosen.queueCreateInfos asks
  have positive : ∀ {i}, i < adapter.families.list.length →
      ∃ f, adapter.families.list[i]? = some f ∧ 0 < f.queueCount := fun hi =>
    ⟨_, List.getElem?_eq_getElem hi, counts _ (List.getElem_mem hi)⟩
  have hlt : chosen.decode < adapter.families.list.length := by
    obtain ⟨f, hget, -⟩ := hcan
    exact (List.getElem?_eq_some_iff.mp hget).1
  obtain ⟨f, hget, hcount⟩ := positive hlt
  obtain ⟨f₀, hget₀, hcount₀⟩ := positive (Nat.zero_lt_of_lt hlt)
  rw [hinfos]
  refine ⟨fun shared => openShared_queues creates renders, ?_⟩
  cases hqueue : chosen.compute with
  | none =>
      rw [queueCreateInfos_none hmain hqueue]
      refine ⟨?_, ?_, ?_, hcan, nofun⟩
      · simp [Plan.queues, hqueue, hmain.symm]
      · simp [hmain.symm]
      · simp only [Plan.queues, hqueue, Option.toList_none, List.forall_mem_cons]
        exact ⟨created_first hget₀ hcount₀ (.head _), created_first hget hcount (.tail _ (.head _)),
          nofun⟩
  | some queue =>
      obtain ⟨hfirst, ⟨hi, hapart, -⟩, f', hget', hcount'⟩ | ⟨rfl, f', hget', hcount'⟩ :=
        computeQueue_eq_some (hcompute ▸ hqueue)
      · obtain ⟨i, index⟩ := queue
        obtain rfl : index = 0 := hfirst
        rw [queueCreateInfos_own hmain hqueue hi hapart]
        refine ⟨?_, ?_, ?_, hcan, ?_⟩
        · simp [Plan.queues, hqueue, hmain.symm, hi.symm, hapart.symm]
        · simp [hmain.symm, hi.symm, hapart.symm]
        · simp only [Plan.queues, hqueue, Option.toList_some, List.forall_mem_cons]
          exact ⟨created_first hget₀ hcount₀ (.head _),
            created_first hget hcount (.tail _ (.head _)),
            created_first hget' hcount' (.tail _ (.tail _ (.head _))), nofun⟩
        · rintro _ ⟨⟩
          exact ⟨hapart, fun _ => hi⟩
      · rw [queueCreateInfos_second hmain hqueue]
        have hpair := created_pair hget' hcount'
          (List.mem_cons_self (l := [⟨chosen.decode, priority⟩]))
        refine ⟨?_, ?_, ?_, hcan, ?_⟩
        · simp [Plan.queues, hqueue, hmain, hmain.symm]
        · simp [hmain.symm]
        · simp only [Plan.queues, hqueue, Option.toList_some, List.forall_mem_cons]
          exact ⟨hpair.1, created_first hget hcount (.tail _ (.head _)), hpair.2, nofun⟩
        · rintro _ ⟨⟩
          exact ⟨hmain.symm, fun hother => absurd rfl hother⟩

/-- A card with a family for graphics, one for compute and one for decoding, of sixteen, eight
and one queues. -/
def discrete : VulkanAdapter where
  families := ⟨[⟨.graphics ||| .compute, 16⟩, ⟨.compute, 8⟩, ⟨.videoDecode, 1⟩], by decide⟩
  extensions := videoExt
  instanceApiVersion := apiVersion 1 3
  apiVersion := apiVersion 1 3

/-- wgpu asks for one queue of the first family, and gets it. -/
def plainWgpu : WgpuHal where
  requested := ⟨["VK_KHR_swapchain"], [⟨wgpuFamily, priority⟩], [.wgpu 0]⟩
  create _ := .ok (wgpuFamily, 0)
  adopt := .ok ()

theorem published_queues_are_own_discrete : ∃ shared,
    openShared false (some discrete) plainWgpu = .ok shared ∧
      shared.queues = [(0, 0), (2, 0), (1, 0)] := by
  have counts : ∀ f ∈ discrete.families.list, 0 < f.queueCount := by decide
  have creates : plan false discrete = .ok ⟨videoExt, 2, some (1, 0), true, videoExt⟩ := by decide
  have asks : plainWgpu.requested.queueCreateInfos = [⟨wgpuFamily, [1]⟩] := rfl
  have renders : ∀ args queue, plainWgpu.create args = .ok queue → queue = (wgpuFamily, 0) :=
    fun _ _ h => (Except.ok.inj h).symm
  exact ⟨_, rfl, (published_queues_are_own counts creates asks renders).1 _ rfl⟩

/-! What is refused -/

/-- What an adapter is asked for: a decode family beside wgpu's is used if there is one; compute
is then given a queue where one is to be had, and one without graphics if any is. -/
def SharesWhenPossible (windows : Bool) (adapter : VulkanAdapter) : Prop :=
  (∃ i ≠ wgpuFamily, Has adapter.families.list i .videoDecode) →
    ∃ chosen, plan windows adapter = .ok chosen ∧ chosen.decode ≠ wgpuFamily ∧
      Has adapter.families.list chosen.decode .videoDecode ∧
      ((∃ i, Free adapter.families.list chosen.decode i) ∨
        (∃ f, adapter.families.list[wgpuFamily]? = some f ∧ 2 ≤ f.queueCount) →
          chosen.compute ≠ none) ∧
      ((∃ i, Free adapter.families.list chosen.decode i ∧
          ¬ Has adapter.families.list i .graphics) →
        ∃ i, chosen.compute = some (i, 0) ∧ Free adapter.families.list chosen.decode i ∧
          ¬ Has adapter.families.list i .graphics)

section Reserving
variable (counted : families.length < 2 ^ 32) (counts : ∀ f ∈ families, 0 < f.queueCount)
include counted counts

theorem computeQueue_ne_none (h : (∃ i, Free families decode i) ∨
    ∃ f, families[wgpuFamily]? = some f ∧ 2 ≤ f.queueCount) :
    computeQueue families decode ≠ none := by
  unfold computeQueue
  cases hchosen : computeFamily families wgpuFamily (some decode) with
  | some i => exact nofun
  | none =>
      obtain ⟨i, hfree⟩ | ⟨f, hget, hcount⟩ := h
      · obtain ⟨j, hj⟩ := hfree.computeFamily counted counts
        rw [hchosen] at hj
        cases hj
      · simp [hget, Option.filter_some, hcount]

theorem computeQueue_apart (h : Free families decode i) (apart : ¬ Has families i .graphics) :
    ∃ j, computeQueue families decode = some (j, 0) ∧ Free families decode j ∧
      ¬ Has families j .graphics := by
  obtain ⟨j, hchosen, hfree, hapart⟩ := h.computeFamily_apart counted counts apart
  exact ⟨j, by rw [computeQueue, hchosen], hfree, hapart⟩

end Reserving

/-- An adapter with the core extensions is used whenever it can be, unless wgpu's family
decodes video and another one does too. -/
theorem shares_when_possible_iff (core : HasCore adapter)
    (counts : ∀ f ∈ adapter.families.list, 0 < f.queueCount) :
    SharesWhenPossible windows adapter ↔
      ¬ Has adapter.families.list wgpuFamily .videoDecode ∨
        ∀ i ≠ wgpuFamily, ¬ Has adapter.families.list i .videoDecode := by
  have counted := adapter.families.counted
  constructor
  · intro shares
    by_contra hboth
    obtain ⟨hwgpu, hother⟩ := not_or.mp hboth
    simp only [not_forall, not_not] at hwgpu hother
    obtain ⟨i, hi, hcan⟩ := hother
    obtain ⟨chosen, hplan, -⟩ := shares ⟨i, hi, hcan⟩
    have hdecode : decodeFamily adapter.families.list = some wgpuFamily :=
      (decodeFamily_eq_some counted).mpr ⟨hwgpu, nofun⟩
    rw [plan_decodeOnMain core hdecode] at hplan
    cases hplan
  · rintro hone ⟨i, hi, hcan⟩
    have hwgpu : ¬ Has adapter.families.list wgpuFamily .videoDecode :=
      hone.elim id fun hnone => absurd hcan (hnone i hi)
    cases hdecode : decodeFamily adapter.families.list with
    | none => exact absurd hcan (decodeFamily_eq_none.mp hdecode i)
    | some decode =>
        obtain ⟨hdecodes, -⟩ := (decodeFamily_eq_some counted).mp hdecode
        have hmain : decode ≠ wgpuFamily := fun heq => hwgpu (heq ▸ hdecodes)
        obtain ⟨chosen, hplan, rfl⟩ : ∃ chosen, plan windows adapter = .ok chosen ∧
            chosen.decode = decode := plan_of_decode core hdecode hmain
        obtain ⟨-, -, hcompute⟩ := plan_eq_ok hplan
        refine ⟨chosen, hplan, hmain, hdecodes, fun hroom => ?_, ?_⟩
        · rw [hcompute]
          exact computeQueue_ne_none counted counts hroom
        · rintro ⟨j, hfree, hapart⟩
          rw [hcompute]
          exact computeQueue_apart counted counts hfree hapart

theorem shares_when_possible_discrete : SharesWhenPossible false discrete := by
  refine (shares_when_possible_iff (by decide) (by decide)).mpr (.inl ?_)
  rintro ⟨f, hget, hf⟩
  cases hget
  cases hf

/-- Two families that decode, the renderer's first. -/
def decodesTwice : VulkanAdapter where
  families := ⟨[⟨.graphics ||| .compute ||| .videoDecode, 1⟩, ⟨.videoDecode, 1⟩], by decide⟩
  extensions := videoExt
  instanceApiVersion := apiVersion 1 3
  apiVersion := apiVersion 1 3

theorem sharing_can_be_refused : HasCore decodesTwice ∧
    (∀ f ∈ decodesTwice.families.list, 0 < f.queueCount) ∧
    Has decodesTwice.families.list 1 .videoDecode ∧
    ∀ windows, plan windows decodesTwice = .error (.decodeOnMain 0) ∧
      ¬ SharesWhenPossible windows decodesTwice := by
  have other : Has decodesTwice.families.list 1 .videoDecode := ⟨_, rfl, rfl⟩
  refine ⟨by decide, by decide, other, fun windows => ?_⟩
  have refused : plan windows decodesTwice = .error (.decodeOnMain 0) := by
    cases windows <;> decide
  refine ⟨refused, fun shares => ?_⟩
  obtain ⟨chosen, hplan, -⟩ := shares ⟨1, by decide, other⟩
  rw [refused] at hplan
  cases hplan

end SharedVk
end GpuInfo
