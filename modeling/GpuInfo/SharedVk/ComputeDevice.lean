import GpuInfo.SharedVk.QueueChoice

/-!
The compute device on Vulkan (`open_compute` in `src/compute_vk.rs`): it is opened with a queue
for optical flow where the adapter reports all that the queue needs, and the queue is published
if the opened device has it apart from wgpu's. Raw handles, and the features and limits that are
passed on as they come, are left out.
-/

namespace GpuInfo

/-- `VK_QUEUE_OPTICAL_FLOW_BIT_NV` -/
def QueueFlags.opticalFlow : QueueFlags := 0x100

/-- The queue for optical flow that a device was opened with. -/
structure OpticalFlow where
  family : Nat
  index : Nat
  deriving DecidableEq, Repr

structure VulkanHandles where
  /-- The family wgpu submits to. -/
  family : Nat
  api : Nat
  deriving DecidableEq, Repr

/-- What is read of an adapter of the Vulkan backend; the driver's answer about the feature
counts only where it may be asked. -/
structure FlowAdapter extends VulkanAdapter where
  opticalFlow : Bool

/-- A structure of the chain that the compute device is created with; `wgpu` is one of wgpu's
own. -/
inductive ComputeStruct
  | opticalFlow
  | wgpu (index : Nat)
  deriving DecidableEq, Repr

/-- What the callback of `open_with_callback` may edit. -/
structure ComputeDeviceArgs where
  extensions : List String
  queueCreateInfos : List DeviceQueueCreateInfo
  next : List ComputeStruct

/-- wgpu's half: what it asks a device for, the family it renders on of a device that the
driver creates, and whether it then adopts that device. -/
structure ComputeHal where
  requested : ComputeDeviceArgs
  create : ComputeDeviceArgs → Except String Nat
  adopt : Except String Unit

namespace ComputeVk
open SharedVk

def opticalFlowName : String := "VK_NV_optical_flow"

/-- The first family for optical flow that is not wgpu's. -/
def opticalFlowFamily (families : List QueueFamilyProperties) (wgpuFamily : Nat) : Option Nat :=
  (families.zipIdx.find? fun family => family.2 ≠ wgpuFamily ∧ 0 < family.1.queueCount ∧
    family.1.queueFlags.contains .opticalFlow).map Prod.snd

def wantsOpticalFlow (extension feature : Bool) (family : Option Nat) (api : Nat) : Option Nat :=
  if extension ∧ feature ∧ apiVersion 1 3 ≤ api then family else none

/-- The feature can be asked for on an instance of Vulkan 1.1 and later. -/
def opticalFlowFeature (adapter : FlowAdapter) : Bool :=
  if adapter.instanceApiVersion < apiVersion 1 1 then false else adapter.opticalFlow

def wantedFamily (adapter : FlowAdapter) : Option Nat :=
  let extension := adapter.extensions.contains opticalFlowName
  wantsOpticalFlow extension (extension && opticalFlowFeature adapter)
    (opticalFlowFamily adapter.families.list wgpuFamily) adapter.apiVersion

/-- The callback. -/
def edit (family : Option Nat) (args : ComputeDeviceArgs) : ComputeDeviceArgs :=
  match family with
  | some family =>
      { extensions := args.extensions ++ [opticalFlowName]
        queueCreateInfos := args.queueCreateInfos ++ [⟨family, priority⟩]
        next := .opticalFlow :: args.next }
  | none => args

def refused (name error : String) : String :=
  "cannot create compute device on " ++ name ++ ": " ++ error

/-- `adapter` is `none` for an adapter of another backend, which is given a `plain` device. -/
def openCompute (name : String) (adapter : Option FlowAdapter) (plain : Except String Unit)
    (hal : ComputeHal) : Except String (Option OpticalFlow × Option VulkanHandles) :=
  match adapter with
  | none => do
      plain.mapError (refused name)
      return (none, none)
  | some adapter => do
      let family := wantedFamily adapter
      let args := edit family hal.requested
      let wgpuFamily ← (hal.create args).mapError (refused name)
      let opticalFlow := match family with
        | some family =>
            if args.extensions.contains opticalFlowName ∧ family ≠ wgpuFamily then
              some ⟨family, 0⟩
            else none
        | none => none
      hal.adopt.mapError (refused name)
      return (opticalFlow, some ⟨wgpuFamily, adapter.apiVersion⟩)

/-! The choice of the family -/

/-- A family for optical flow beside wgpu's. -/
def Eligible (families : List QueueFamilyProperties) (wgpuFamily i : Nat) : Prop :=
  i ≠ wgpuFamily ∧ ∃ f, families[i]? = some f ∧ 0 < f.queueCount ∧
    f.queueFlags.contains .opticalFlow = true

theorem opticalFlowFamily_eq_some {families : List QueueFamilyProperties} {wgpuFamily i : Nat} :
    opticalFlowFamily families wgpuFamily = some i ↔
      Eligible families wgpuFamily i ∧ ∀ j < i, ¬ Eligible families wgpuFamily j := by
  have hget : ∀ {j} (hj : j < families.zipIdx.length) (hl : j < families.length),
      families.zipIdx[j] = (families[j], j) := by
    intro j hj hl
    rw [List.getElem_zipIdx, Nat.zero_add]
  rw [opticalFlowFamily, Option.map_eq_some_iff]
  constructor
  · rintro ⟨⟨f, j⟩, hfound, rfl⟩
    obtain ⟨hf, k, hk, hkj, hbefore⟩ := List.find?_eq_some_iff_getElem.mp hfound
    obtain ⟨hne, hcount, hflags⟩ := of_decide_eq_true hf
    have hlt : k < families.length := by simpa using hk
    rw [hget hk hlt, Prod.mk.injEq] at hkj
    obtain ⟨hkf, rfl⟩ := hkj
    refine ⟨⟨hne, f, ?_, hcount, hflags⟩, fun l hl heligible => ?_⟩
    · rw [List.getElem?_eq_getElem hlt, hkf]
    · obtain ⟨hne', f', hget', hcount', hflags'⟩ := heligible
      have hskipped := hbefore l hl
      obtain ⟨hlt', rfl⟩ := List.getElem?_eq_some_iff.mp hget'
      rw [hget (hl.trans hk) hlt'] at hskipped
      simp [hne', hcount', hflags'] at hskipped
  · rintro ⟨⟨hne, f, hf, hcount, hflags⟩, hfirst⟩
    obtain ⟨hlt, rfl⟩ := List.getElem?_eq_some_iff.mp hf
    have hk : i < families.zipIdx.length := by simpa using hlt
    refine ⟨(families[i], i), List.find?_eq_some_iff_getElem.mpr
      ⟨decide_eq_true ⟨hne, hcount, hflags⟩, i, hk, hget hk hlt, fun l hl => ?_⟩, rfl⟩
    have hskipped := hfirst l hl
    rw [hget (hl.trans hk) (hl.trans hlt)]
    simp only [Bool.not_eq_true', decide_eq_false_iff_not]
    rintro ⟨hne', hcount', hflags'⟩
    exact hskipped ⟨hne', _, List.getElem?_eq_getElem (hl.trans hlt), hcount', hflags'⟩

/-- All that a queue for optical flow needs but the family. -/
def Reports (adapter : FlowAdapter) : Prop :=
  opticalFlowName ∈ adapter.extensions ∧ apiVersion 1 1 ≤ adapter.instanceApiVersion ∧
    adapter.opticalFlow = true ∧ apiVersion 1 3 ≤ adapter.apiVersion

/-- The first family for optical flow beside the one wgpu is taken to render on. -/
def First (adapter : FlowAdapter) (i : Nat) : Prop :=
  Eligible adapter.families.list wgpuFamily i ∧
    ∀ j < i, ¬ Eligible adapter.families.list wgpuFamily j

theorem wantedFamily_eq_some {adapter : FlowAdapter} {i : Nat} :
    wantedFamily adapter = some i ↔ Reports adapter ∧ First adapter i := by
  have hfeature : opticalFlowFeature adapter = true ↔
      apiVersion 1 1 ≤ adapter.instanceApiVersion ∧ adapter.opticalFlow = true := by
    rw [opticalFlowFeature]
    by_cases hold : adapter.instanceApiVersion < apiVersion 1 1
    · simp [hold]
    · simp [hold, Nat.le_of_not_lt hold]
  rw [wantedFamily, wantsOpticalFlow, Option.ite_none_right_eq_some, opticalFlowFamily_eq_some,
    Bool.and_eq_true, hfeature, List.contains_iff_mem]
  constructor
  · rintro ⟨⟨hextension, ⟨-, hinstance, hflow⟩, hapi⟩, hfirst⟩
    exact ⟨⟨hextension, hinstance, hflow, hapi⟩, hfirst⟩
  · rintro ⟨⟨hextension, hinstance, hflow, hapi⟩, hfirst⟩
    exact ⟨⟨hextension, ⟨hextension, hinstance, hflow⟩, hapi⟩, hfirst⟩

theorem openCompute_eq_ok {name : String} {adapter : FlowAdapter} {plain : Except String Unit}
    {hal : ComputeHal} {opening : Option OpticalFlow × Option VulkanHandles}
    (h : openCompute name (some adapter) plain hal = .ok opening) :
    ∃ family, hal.create (edit (wantedFamily adapter) hal.requested) = .ok family ∧
      opening.2 = some ⟨family, adapter.apiVersion⟩ ∧
      ∀ flow, opening.1 = some flow ↔
        wantedFamily adapter = some flow.family ∧ flow.family ≠ family ∧ flow.index = 0 := by
  simp only [openCompute, bind, Except.bind] at h
  cases hcreate : hal.create (edit (wantedFamily adapter) hal.requested) with
  | error error =>
      rw [hcreate] at h
      cases h
  | ok family =>
      rw [hcreate] at h
      cases hadopt : hal.adopt with
      | error error =>
          rw [hadopt] at h
          cases h
      | ok _ =>
          rw [hadopt] at h
          cases h
          refine ⟨family, rfl, rfl, fun flow => ?_⟩
          obtain ⟨flowFamily, index⟩ := flow
          cases hwanted : wantedFamily adapter with
          | none => simp
          | some wanted =>
              have enabled : (edit (some wanted) hal.requested).extensions.contains
                  opticalFlowName = true := by
                simp [edit]
              by_cases hne : wanted = family
              · subst hne
                simp only [enabled, ne_eq, not_true_eq_false, and_false, if_false]
                constructor
                · exact nofun
                · rintro ⟨heq, hne, -⟩
                  exact absurd (Option.some.inj heq).symm hne
              · simp only [enabled, ne_eq, hne, not_false_eq_true, and_true, if_true,
                  Option.some.injEq, OpticalFlow.mk.injEq]
                constructor
                · rintro ⟨rfl, rfl⟩
                  exact ⟨rfl, hne, rfl⟩
                · rintro ⟨rfl, -, rfl⟩
                  exact ⟨rfl, rfl⟩

/-- A device on Vulkan is opened with what wgpu asks for and, if the adapter reports all that a
queue for optical flow needs, with one queue of the first family for it beside wgpu's. That
queue is published unless wgpu turns out to render on its family; what is published is a queue
of that kind that the device was created with, for the one create-info of its family. -/
theorem optical_flow_queue_exact {name : String} {adapter : FlowAdapter}
    {plain : Except String Unit} {hal : ComputeHal} {p : Rat}
    {opening : Option OpticalFlow × Option VulkanHandles}
    (asks : hal.requested.queueCreateInfos = [⟨wgpuFamily, [p]⟩])
    (h : openCompute name (some adapter) plain hal = .ok opening) :
    let args := edit (wantedFamily adapter) hal.requested
    ∃ handles, opening.2 = some handles ∧ hal.create args = .ok handles.family ∧
      handles.api = adapter.apiVersion ∧
      (hal.requested.extensions <+: args.extensions ∧
        hal.requested.queueCreateInfos <+: args.queueCreateInfos ∧
        hal.requested.next <:+ args.next ∧
        (args.queueCreateInfos.map (·.queueFamilyIndex)).Nodup) ∧
      (opening.1 ≠ none ↔ Reports adapter ∧ ∃ i, First adapter i ∧ i ≠ handles.family) ∧
      ∀ flow, opening.1 = some flow →
        First adapter flow.family ∧ flow.family ≠ handles.family ∧
        Created adapter.families.list args.queueCreateInfos (flow.family, flow.index) ∧
        opticalFlowName ∈ args.extensions ∧ .opticalFlow ∈ args.next := by
  intro args
  obtain ⟨family, hcreate, hhandles, hflow⟩ := openCompute_eq_ok h
  refine ⟨_, hhandles, hcreate, rfl, ?_, ⟨fun hsome => ?_, fun hreports => ?_⟩,
    fun flow hsome => ?_⟩
  · show _ <+: (edit (wantedFamily adapter) hal.requested).extensions ∧ _
    cases hwanted : wantedFamily adapter with
    | none => simp [args, hwanted, edit, asks]
    | some wanted =>
        have hne : wanted ≠ wgpuFamily := (wantedFamily_eq_some.mp hwanted).2.1.1
        refine ⟨?_, ?_, ?_, ?_⟩
        · exact List.prefix_append _ _
        · simp [args, hwanted, edit]
        · simp [args, hwanted, edit]
        · simp [args, hwanted, edit, asks, hne.symm]
  · obtain ⟨flow, hsome⟩ := Option.ne_none_iff_exists'.mp hsome
    obtain ⟨hwanted, hne, -⟩ := (hflow flow).mp hsome
    obtain ⟨hreports, hfirst⟩ := wantedFamily_eq_some.mp hwanted
    exact ⟨hreports, flow.family, hfirst, hne⟩
  · obtain ⟨hreports, i, hfirst, hne⟩ := hreports
    have hwanted := wantedFamily_eq_some.mpr ⟨hreports, hfirst⟩
    rw [(hflow ⟨i, 0⟩).mpr ⟨hwanted, hne, rfl⟩]
    exact nofun
  · obtain ⟨hwanted, hne, hindex⟩ := (hflow flow).mp hsome
    obtain ⟨-, hfirst⟩ := wantedFamily_eq_some.mp hwanted
    obtain ⟨-, f, hget, hcount, -⟩ := hfirst.1
    refine ⟨hfirst, hne, ?_, ?_, ?_⟩
    · rw [hindex]
      refine created_first hget hcount (p := 1) ?_
      simp [args, hwanted, edit, priority]
    · simp [args, hwanted, edit]
    · simp [args, hwanted, edit]

/-- A card whose fifth family is for optical flow. -/
def flowCard : FlowAdapter where
  families := ⟨[⟨.graphics ||| .compute, 16⟩, ⟨0x4, 2⟩, ⟨.compute, 8⟩, ⟨.videoDecode, 1⟩,
    ⟨.opticalFlow, 1⟩], by decide⟩
  extensions := [opticalFlowName]
  instanceApiVersion := apiVersion 1 3
  apiVersion := apiVersion 1 3
  opticalFlow := true

/-- wgpu asks for one queue of the first family, and renders on it. -/
def computeWgpu : ComputeHal where
  requested := ⟨["VK_KHR_swapchain"], [⟨wgpuFamily, priority⟩], [.wgpu 0]⟩
  create _ := .ok wgpuFamily
  adopt := .ok ()

theorem optical_flow_queue_exact_card :
    openCompute "card" (some flowCard) (.ok ()) computeWgpu =
        .ok (some ⟨4, 0⟩, some ⟨0, apiVersion 1 3⟩) ∧
      Created flowCard.families.list
        (edit (wantedFamily flowCard) computeWgpu.requested).queueCreateInfos (4, 0) := by
  have opened : openCompute "card" (some flowCard) (.ok ()) computeWgpu =
      .ok (some ⟨4, 0⟩, some ⟨0, apiVersion 1 3⟩) := by decide
  have asks : computeWgpu.requested.queueCreateInfos = [⟨wgpuFamily, [1]⟩] := rfl
  obtain ⟨_, _, _, _, _, _, published⟩ := optical_flow_queue_exact asks opened
  exact ⟨opened, (published ⟨4, 0⟩ rfl).2.2.1⟩

end ComputeVk

end GpuInfo
