import GpuInfo.Devices.Negotiation

/-!
What holds of every run of the negotiations: each is had once, devices are created one at a
time and in a pinned module, every value that is returned comes of the answers of one
negotiation, and the callers do not block each other for good.
-/

namespace GpuInfo.Devices
open OnceCells Interleaving
variable (sets : FeatureSets)

abbrev Told := List (Event devices)

abbrev asked (question : DeviceQuestion) (reply : question.Reply) : Event devices :=
  .asked question reply

abbrev got (cell : DeviceCell) (value : cell.Value) : Event devices := .got cell value

def Pinned (past : Told) : Prop := asked .pinContainingModule (.ok ()) ∈ past

/-- In a pinned module an instance has been asked for the adapter, and has given it. -/
structure Ready (past : Told) (instance' : Nat) (adapter : WgpuAdapter) : Prop where
  pinned : Pinned past
  made : asked .newInstance instance' ∈ past
  given : asked (.requestAdapter instance') (.ok adapter) ∈ past

/-- What every device of the process is created with: the stable features that the adapter
has. -/
def deviceFeatures (adapter : WgpuAdapter) : Features := sets.stable &&& adapter.features

/-- The adapter and the features of a question that creates a device. -/
def DeviceQuestion.creates : DeviceQuestion → Option (WgpuAdapter × Features)
  | .openShared adapter features | .openCompute adapter features
  | .requestDevice adapter features => some (adapter, features)
  | .pinContainingModule | .newInstance | .requestAdapter _ => none

/-- A device may be created of the adapter with the features. -/
structure MayCreate (past : Told) (adapter : WgpuAdapter) (features : Features) : Prop where
  ready : ∃ instance', Ready past instance' adapter
  features : features = deviceFeatures sets adapter

def Allowed (held : List DeviceLock) (past : Told) : DeviceQuestion → Prop
  | .pinContainingModule => True
  | .newInstance => Pinned past
  | .requestAdapter instance' => asked .newInstance instance' ∈ past
  | .openShared adapter features | .openCompute adapter features
  | .requestDevice adapter features =>
      .deviceCreation ∈ held ∧ MayCreate sets past adapter features

/-- The answers on the way to an adapter, the newest first. -/
def given (instance' : Nat) (adapter : WgpuAdapter) : Told :=
  [asked (.requestAdapter instance') (.ok adapter), asked .newInstance instance',
    asked .pinContainingModule (.ok ())]

/-- The answers of a negotiation in which no adapter is had. -/
def noneGiven (instance' : Nat) (error : String) : Told :=
  [asked (.requestAdapter instance') (.error error), asked .newInstance instance',
    asked .pinContainingModule (.ok ())]

/-- All the answers that lead to a shared device, or to there being none. -/
inductive SharedCause : Told → Option SharedGpu → Prop
  | unpinned (error : String) : SharedCause [asked .pinContainingModule (.error error)] none
  | noAdapter (instance' : Nat) (error : String) : SharedCause (noneGiven instance' error) none
  | refused (instance' : Nat) (adapter : WgpuAdapter) (error : String) :
      SharedCause (asked (.requestDevice adapter (deviceFeatures sets adapter)) (.error error) ::
        asked (.openShared adapter (deviceFeatures sets adapter)) none ::
        given instance' adapter) none
  | decoder (instance' : Nat) (adapter : WgpuAdapter) (opened : OpenedDevice)
      (vulkan : VulkanShared) :
      SharedCause (asked (.openShared adapter (deviceFeatures sets adapter))
        (some (opened, vulkan)) :: given instance' adapter)
        (some ⟨opened.device, opened.queue, adapter, instance', some vulkan⟩)
  | plain (instance' : Nat) (adapter : WgpuAdapter) (opened : OpenedDevice) :
      SharedCause (asked (.requestDevice adapter (deviceFeatures sets adapter)) (.ok opened) ::
        asked (.openShared adapter (deviceFeatures sets adapter)) none ::
        given instance' adapter)
        (some ⟨opened.device, opened.queue, adapter, instance', none⟩)

inductive ComputeCause (vulkanTarget : Bool) : Told → Except String ComputeGpu → Prop
  | unpinned (error : String) :
      ComputeCause vulkanTarget [asked .pinContainingModule (.error error)]
        (.error ("the plug-in module cannot be pinned: " ++ error))
  | noAdapter (instance' : Nat) (error : String) :
      ComputeCause vulkanTarget (noneGiven instance' error)
        (.error ("no high-performance compute adapter: " ++ error))
  | refused (instance' : Nat) (adapter : WgpuAdapter) (error : String)
      (target : vulkanTarget = true) :
      ComputeCause vulkanTarget
        (asked (.openCompute adapter (deviceFeatures sets adapter)) (.error error) ::
          given instance' adapter) (.error error)
  | refusedPlain (instance' : Nat) (adapter : WgpuAdapter) (error : String)
      (target : vulkanTarget = false) :
      ComputeCause vulkanTarget
        (asked (.requestDevice adapter (deviceFeatures sets adapter)) (.error error) ::
          given instance' adapter) (.error (ComputeVk.refused adapter.name error))
  | opened (instance' : Nat) (adapter : WgpuAdapter) (device : OpenedDevice)
      (opticalFlow : Option OpticalFlow) (raw : Option VulkanHandles)
      (target : vulkanTarget = true) :
      ComputeCause vulkanTarget
        (asked (.openCompute adapter (deviceFeatures sets adapter))
          (.ok (device, opticalFlow, raw)) :: given instance' adapter)
        (.ok ⟨device.device, device.queue, adapter, instance', opticalFlow, raw⟩)
  | openedPlain (instance' : Nat) (adapter : WgpuAdapter) (device : OpenedDevice)
      (target : vulkanTarget = false) :
      ComputeCause vulkanTarget
        (asked (.requestDevice adapter (deviceFeatures sets adapter)) (.ok device) ::
          given instance' adapter)
        (.ok ⟨device.device, device.queue, adapter, instance', none, none⟩)

/-- What Auto makes of the compute device. -/
def autoOf (status : Except String ComputeGpu) : Except String ComputeGpu :=
  match status with
  | .error reason => .error reason
  | .ok gpu =>
      match softwareReason gpu.adapter with
      | some reason => .error reason
      | none => .ok gpu

def Cause (vulkanTarget : Bool) :
    (cell : DeviceCell) → Told → cell.Value → Prop
  | .shared, past, value => SharedCause sets past value
  | .compute, past, value => ComputeCause sets vulkanTarget past value
  | .auto, past, value =>
      ∃ status, past = [got .compute status] ∧ value = autoOf status

def contract (vulkanTarget : Bool) : Contract devices where
  allowed _ held past question := Allowed sets held past question
  ends cell past value := Cause sets vulkanTarget cell past value

/-! The initializers keep to the contract -/

theorem sharedDevice_descends :
    (sharedDevice sets).Descends {.inl (DeviceCell.shared : devices.Cell)} := by
  intro pin
  cases pin with
  | error _ => trivial
  | ok _ =>
      intro instance' adapter
      cases adapter with
      | error _ => trivial
      | ok adapter =>
          refine ⟨?_, fun opened => ?_⟩
          · intro r hr
            rw [Multiset.mem_singleton.mp hr]
            exact Nat.one_pos
          · cases opened with
            | some _ => trivial
            | none =>
                intro opened
                cases opened <;> trivial

theorem computeDeviceStatus_descends (vulkanTarget : Bool) :
    (computeDeviceStatus sets vulkanTarget).Descends
      {.inl (DeviceCell.compute : devices.Cell)} := by
  intro pin
  cases pin with
  | error _ => trivial
  | ok _ =>
      intro instance' adapter
      cases adapter with
      | error _ => trivial
      | ok adapter =>
          refine ⟨?_, ?_⟩
          · intro r hr
            rw [Multiset.mem_singleton.mp hr]
            exact Nat.one_pos
          · cases vulkanTarget with
            | true =>
                intro opened
                cases opened <;> trivial
            | false =>
                intro opened
                cases opened <;> trivial

theorem autoComputeDevice_eq :
    autoComputeDevice = .get (S := devices) .compute fun status => .done (autoOf status) := by
  refine congrArg (Program.get (S := devices) .compute) (funext fun status => ?_)
  cases status with
  | error _ => rfl
  | ok gpu =>
      show (match softwareReason gpu.adapter with
        | some reason => pure (.error reason)
        | none => pure (.ok gpu) : Program devices (Except String ComputeGpu)) = _
      rw [autoOf]
      split <;> rfl

theorem autoComputeDevice_descends :
    autoComputeDevice.Descends {.inl (DeviceCell.auto : devices.Cell)} := by
  rw [autoComputeDevice_eq]
  refine ⟨?_, fun status => trivial⟩
  intro r hr
  rw [Multiset.mem_singleton.mp hr]
  exact Nat.lt_succ_self 1

theorem Ready.cons {past : Told} {instance' : Nat} {adapter : WgpuAdapter}
    (h : Ready past instance' adapter) (event : Event devices) :
    Ready (event :: past) instance' adapter :=
  ⟨List.mem_cons_of_mem _ h.pinned, List.mem_cons_of_mem _ h.made,
    List.mem_cons_of_mem _ h.given⟩

theorem ready (instance' : Nat) (adapter : WgpuAdapter) :
    Ready (given instance' adapter) instance' adapter :=
  ⟨by simp [Pinned, given], by simp [given], by simp [given]⟩

theorem sharedDevice_meets :
    (sharedDevice sets).Meets (Allowed sets) (SharedCause sets) [] [] := by
  refine ⟨trivial, fun pin => ?_⟩
  cases pin with
  | error error => exact .unpinned error
  | ok _ =>
      refine ⟨List.mem_cons_self, fun instance' => ⟨List.mem_cons_self, fun adapter => ?_⟩⟩
      cases adapter with
      | error error => exact .noAdapter instance' error
      | ok adapter =>
          have ready := ready instance' adapter
          refine ⟨⟨List.mem_cons_self, ⟨_, ready⟩, rfl⟩, fun shared => ?_⟩
          cases shared with
          | some shared => exact .decoder instance' adapter shared.1 shared.2
          | none =>
              refine ⟨⟨List.mem_cons_self, ⟨_, ready.cons _⟩, rfl⟩, fun opened => ?_⟩
              cases opened with
              | error error => exact .refused instance' adapter error
              | ok opened => exact .plain instance' adapter opened

/-- The features are intersected with the adapter's a second time. -/
theorem openComputeDevice_plain (adapter : WgpuAdapter) (instance' : Nat) :
    openComputeDevice false adapter instance' (deviceFeatures sets adapter) =
      .ask (S := devices) (.requestDevice adapter (deviceFeatures sets adapter)) fun opened =>
        .done (match opened with
          | .error error => .error (ComputeVk.refused adapter.name error)
          | .ok opened =>
              .ok ⟨opened.device, opened.queue, adapter, instance', none, none⟩) := by
  have twice : deviceFeatures sets adapter &&& adapter.features = deviceFeatures sets adapter := by
    rw [deviceFeatures, BitVec.and_assoc, BitVec.and_self]
  rw [openComputeDevice, requestMaxDevice, twice]
  refine congrArg (Program.ask (S := devices) _) (funext fun opened => ?_)
  cases opened <;> rfl

theorem computeDeviceStatus_meets (vulkanTarget : Bool) :
    (computeDeviceStatus sets vulkanTarget).Meets (Allowed sets)
      (ComputeCause sets vulkanTarget) [] [] := by
  refine ⟨trivial, fun pin => ?_⟩
  cases pin with
  | error error => exact .unpinned error
  | ok _ =>
      refine ⟨List.mem_cons_self, fun instance' => ⟨List.mem_cons_self, fun adapter => ?_⟩⟩
      cases adapter with
      | error error => exact .noAdapter instance' error
      | ok adapter =>
          have ready := ready instance' adapter
          cases vulkanTarget with
          | true =>
              refine ⟨⟨List.mem_cons_self, ⟨_, ready⟩, rfl⟩, fun opened => ?_⟩
              cases opened with
              | error error => exact .refused instance' adapter error rfl
              | ok opened => exact .opened instance' adapter opened.1 opened.2.1 opened.2.2 rfl
          | false =>
              show (openComputeDevice false adapter instance' (deviceFeatures sets adapter)).Meets
                _ _ _ _
              rw [openComputeDevice_plain]
              refine ⟨⟨List.mem_cons_self, ⟨_, ready⟩, rfl⟩, fun opened => ?_⟩
              cases opened with
              | error error => exact .refusedPlain instance' adapter error rfl
              | ok opened => exact .openedPlain instance' adapter opened rfl

theorem contract_kept (vulkanTarget : Bool) :
    (contract sets vulkanTarget).Kept (init sets vulkanTarget) := by
  refine ⟨fun cell => ?_, fun cell => ?_⟩
  · cases cell with
    | shared => exact sharedDevice_descends sets
    | compute => exact computeDeviceStatus_descends sets vulkanTarget
    | auto => exact autoComputeDevice_descends
  · cases cell with
    | shared => exact sharedDevice_meets sets
    | compute => exact computeDeviceStatus_meets sets vulkanTarget
    | auto =>
        show autoComputeDevice.Meets _ _ _ _
        rw [autoComputeDevice_eq]
        exact fun status => ⟨status, rfl, rfl⟩

/-! Every run -/

abbrev Process (sets : FeatureSets) (vulkanTarget : Bool) :
    ThreadConfig devices → ThreadConfig devices → Prop :=
  Step (ThreadRule (init sets vulkanTarget))

abbrev Reached (sets : FeatureSets) (vulkanTarget : Bool) (c : ThreadConfig devices) : Prop :=
  Reachable ThreadStart (Process sets vulkanTarget) c

variable {sets} {vulkanTarget : Bool} {c : ThreadConfig devices}

theorem sound (hc : Reached sets vulkanTarget c) : c.Sound (contract sets vulkanTarget) :=
  reachable_sound (contract_kept sets vulkanTarget) hc

theorem started (sets : FeatureSets) (vulkanTarget : Bool) : Reached sets vulkanTarget
    ⟨⟨fun _ => .vacant, fun _ => false, [], [], [], []⟩, 0⟩ := .start rfl

/-- A run in which the module cannot be pinned. -/
theorem shared_unpinned (sets : FeatureSets) (vulkanTarget : Bool) (error : String) :
    ∃ c, Reached sets vulkanTarget c ∧ ⟨DeviceCell.shared, none⟩ ∈ c.shared.returned := by
  have called := (started sets vulkanTarget).fire 0
    (.calls DeviceCell.shared) rfl
  have begun := called.fire 0 (.begins rfl) rfl
  have told := begun.fire 0 (.asks (show devices.Reply .pinContainingModule from .error error)) rfl
  have filled := told.fire 0 .fills rfl
  have returned := filled.fire 0 (.returns (Function.update_self _ _ _)) rfl
  exact ⟨_, returned, List.mem_cons_self⟩

/-- What two calls for one device return is the same, however far apart they return, and no
negotiation but those that unwound is ever begun beside the one it comes from. -/
theorem negotiated_once (hc : Reached sets vulkanTarget c) {c' : ThreadConfig devices}
    (later : Relation.ReflTransGen (Process sets vulkanTarget) c c') {cell : DeviceCell}
    {value : cell.Value} (hvalue : ⟨cell, value⟩ ∈ c.shared.returned) :
    (∀ value', ⟨cell, value'⟩ ∈ c'.shared.returned → value' = value) ∧
      c'.shared.begun.count cell = c'.shared.unwound.count cell + 1 := by
  obtain ⟨sound', stays⟩ := (sound hc).later (contract_kept sets vulkanTarget) later
  have filled := stays cell value ((sound hc).memory.returned cell value hvalue)
  refine ⟨fun value' hvalue' => ?_, ?_⟩
  · have filled' := sound'.memory.returned cell value' hvalue'
    rw [filled] at filled'
    cases filled'
    rfl
  · rw [sound'.memory.begun cell, filled]
    rfl

theorem negotiated_once_unpinned : ∃ c, Reached ⟨7, 1, 2⟩ true c ∧
    ⟨DeviceCell.shared, none⟩ ∈ c.shared.returned ∧
      (∀ value', ⟨DeviceCell.shared, value'⟩ ∈ c.shared.returned → value' = none) ∧
      c.shared.begun.count DeviceCell.shared = c.shared.unwound.count DeviceCell.shared + 1 := by
  obtain ⟨c, hc, returned⟩ := shared_unpinned ⟨7, 1, 2⟩ true "no module"
  exact ⟨c, hc, returned, negotiated_once hc .refl returned⟩

/-- The device that a call is creating, with what. -/
def creating (thread : Thread devices) : Option (WgpuAdapter × Features) :=
  match thread with
  | ⟨_, ⟨_, _, _, .ask question _⟩ :: _, false⟩ => DeviceQuestion.creates question
  | _ => none

theorem creating_allowed {told : Told} {thread : Thread devices} {adapter : WgpuAdapter}
    {features : Features} (h : thread.unwinding = false →
      thread.Sound (contract sets vulkanTarget) told)
    (hcreating : creating thread = some (adapter, features)) :
    .inr .deviceCreation ∈ thread.owned ∧ MayCreate sets told adapter features := by
  obtain ⟨caller, frames, unwinding⟩ := thread
  cases frames with
  | nil => cases hcreating
  | cons frame frames =>
      obtain ⟨cell, held, past, rest⟩ := frame
      cases unwinding with
      | true => cases rest <;> cases hcreating
      | false =>
          cases rest with
          | done _ | get _ _ | lock _ _ => cases hcreating
          | ask question next =>
              have top := (h rfl).frames _ List.mem_cons_self
              have allowed : .deviceCreation ∈ held ∧ MayCreate sets past adapter features := by
                have meets : Allowed sets held past question := top.meets.1
                change question.creates = _ at hcreating
                cases question with
                | pinContainingModule | newInstance | requestAdapter => cases hcreating
                | openShared | openCompute | requestDevice =>
                    cases hcreating
                    exact meets
              refine ⟨?_, ?_⟩
              · rw [Thread.owned_cons, Multiset.mem_add]
                refine .inl (Multiset.mem_cons_of_mem ?_)
                exact Multiset.mem_map_of_mem _ (Multiset.mem_coe.mpr allowed.1)
              · obtain ⟨⟨instance', ready⟩, features⟩ := allowed.2
                exact ⟨⟨instance', top.told.subset ready.pinned, top.told.subset ready.made,
                  top.told.subset ready.given⟩, features⟩

/-- At most one device is being created at a time, of an adapter that was asked for in a pinned
module, with no feature that the adapter lacks, that is experimental or that maps primary
buffers. -/
theorem creations_alone (hc : Reached sets vulkanTarget c) :
    c.held (fun thread => (creating thread).toList.length) ≤ 1 ∧
      ∀ thread ∈ c.running, ∀ adapter features,
        creating thread = some (adapter, features) →
        (∃ instance', Ready c.shared.told instance' adapter) ∧
          features &&& ~~~adapter.features = 0 ∧ features &&& sets.experimental = 0 ∧
          features &&& sets.mappablePrimaryBuffers = 0 := by
  have sound := sound hc
  refine ⟨?_, fun thread hthread adapter features hcreating => ?_⟩
  · refine (Multiset.sum_map_le_sum_map _ _ fun thread hthread => ?_).trans
      (sound.alone (.inr DeviceLock.deviceCreation))
    cases hcreating : creating thread with
    | none => exact Nat.zero_le _
    | some created =>
        exact Multiset.one_le_count_iff_mem.mpr
          (creating_allowed (sound.threads thread hthread) hcreating).1
  · have may := (creating_allowed (sound.threads thread hthread) hcreating).2
    refine ⟨may.ready, ?_⟩
    rw [may.features, deviceFeatures, FeatureSets.stable]
    refine ⟨?_, ?_, ?_⟩ <;> ext i hi <;> simp <;> grind

/-- A run that is about to ask for a device that decodes as well. -/
theorem shared_creating (sets : FeatureSets) (vulkanTarget : Bool) (adapter : WgpuAdapter) :
    ∃ c, Reached sets vulkanTarget c ∧
      c.running.map creating = {some (adapter, deviceFeatures sets adapter)} := by
  have called := (started sets vulkanTarget).fire 0
    (.calls DeviceCell.shared) rfl
  have begun := called.fire 0 (.begins rfl) rfl
  have pinned := begun.fire 0 (.asks (show devices.Reply .pinContainingModule from .ok ())) rfl
  have made := pinned.fire 0 (.asks (show devices.Reply .newInstance from 1)) rfl
  have given := made.fire 0 (.asks (show devices.Reply (.requestAdapter 1) from .ok adapter)) rfl
  have locked := given.fire 0 (.locks rfl) rfl
  exact ⟨_, locked, rfl⟩

theorem creations_alone_shared : ∃ c, Reached ⟨7, 1, 2⟩ true c ∧
    c.running.map creating = {some (⟨0, "card", .discreteGpu, 5⟩,
      deviceFeatures ⟨7, 1, 2⟩ ⟨0, "card", .discreteGpu, 5⟩)} ∧
      c.held (fun thread => (creating thread).toList.length) ≤ 1 := by
  obtain ⟨c, hc, hcreating⟩ := shared_creating ⟨7, 1, 2⟩ true ⟨0, "card", .discreteGpu, 5⟩
  exact ⟨c, hc, hcreating, (creations_alone hc).1⟩

/-- What comes back is what the answers of the one negotiation that came to its end, all of them
and in their order, make of it. -/
theorem returned_cause {states : List (ThreadConfig devices)}
    (run : Run ThreadStart (Process sets vulkanTarget) (c :: states)) {cell : DeviceCell}
    {value : cell.Value} (hvalue : ⟨cell, value⟩ ∈ c.shared.returned) :
    ∃ past, Concluded c states cell past value ∧ past.Sublist c.shared.told ∧
      Cause sets vulkanTarget cell past value :=
  concluded (contract_kept sets vulkanTarget) run
    ((sound run.reachable).memory.returned cell value hvalue)

theorem returned_cause_unpinned : ∃ (c : ThreadConfig devices) (states : _),
    Run ThreadStart (Process ⟨7, 1, 2⟩ true) (c :: states) ∧
      ⟨DeviceCell.shared, none⟩ ∈ c.shared.returned ∧
      ∃ past, Concluded c states DeviceCell.shared past none ∧ past.Sublist c.shared.told ∧
        Cause ⟨7, 1, 2⟩ true .shared past none := by
  obtain ⟨c, ⟨states, run⟩, returned⟩ := shared_unpinned ⟨7, 1, 2⟩ true "no module"
  exact ⟨c, states, run, returned, returned_cause run returned⟩

theorem autoOf_eq_ok {status : Except String ComputeGpu} {gpu : ComputeGpu} :
    autoOf status = .ok gpu ↔ status = .ok gpu ∧ gpu.adapter.deviceType ≠ .cpu := by
  cases status with
  | error reason => exact ⟨fun h => (by cases h), fun h => (by cases h.1)⟩
  | ok found =>
      by_cases software : found.adapter.deviceType = .cpu
      · rw [autoOf, softwareReason, if_pos software]
        refine ⟨fun h => (by cases h), fun h => ?_⟩
        cases h.1
        exact absurd software h.2
      · rw [autoOf, softwareReason, if_neg software]
        refine ⟨fun h => ?_, And.left⟩
        cases h
        exact ⟨rfl, software⟩

/-- Auto has the compute device, unless it is a software adapter's, and its reason otherwise. -/
theorem auto_agrees (hc : Reached sets vulkanTarget c) {auto : Except String ComputeGpu}
    (hauto : ⟨DeviceCell.auto, auto⟩ ∈ c.shared.returned) :
    ∃ status, c.shared.cells DeviceCell.compute = .filled status ∧
      (∀ status', ⟨DeviceCell.compute, status'⟩ ∈ c.shared.returned → status' = status) ∧
      (∀ gpu, auto = .ok gpu ↔ status = .ok gpu ∧ gpu.adapter.deviceType ≠ .cpu) ∧
      ∀ reason, status = .error reason → auto = .error reason := by
  have memory := (sound hc).memory
  obtain ⟨states, run⟩ := hc
  obtain ⟨past, -, told, status, rfl, rfl⟩ := concluded (contract_kept sets vulkanTarget) run
    (memory.returned DeviceCell.auto auto hauto)
  have filled := memory.got DeviceCell.compute status (told.subset List.mem_cons_self)
  refine ⟨status, filled, fun status' hstatus' => ?_, fun gpu => autoOf_eq_ok, ?_⟩
  · have filled' := memory.returned DeviceCell.compute status' hstatus'
    rw [filled] at filled'
    cases filled'
    rfl
  · rintro reason rfl
    rfl

theorem auto_unpinned (sets : FeatureSets) (vulkanTarget : Bool) (error : String) :
    ∃ c, Reached sets vulkanTarget c ∧ ⟨DeviceCell.auto,
      .error ("the plug-in module cannot be pinned: " ++ error)⟩ ∈ c.shared.returned := by
  have called := (started sets vulkanTarget).fire 0
    (.calls DeviceCell.auto) rfl
  have begun := called.fire 0 (.begins rfl) rfl
  have nested := begun.fire 0 (.nests rfl) rfl
  have told := nested.fire 0 (.asks (show devices.Reply .pinContainingModule from .error error)) rfl
  have compute := told.fire 0 .fills rfl
  have got := compute.fire 0 (.gets (Function.update_self _ _ _)) rfl
  have filled := got.fire 0 .fills rfl
  have returned := filled.fire 0 (.returns (Function.update_self _ _ _)) rfl
  exact ⟨_, returned, List.mem_cons_self⟩

theorem auto_agrees_unpinned : ∃ c, Reached ⟨7, 1, 2⟩ true c ∧
    ⟨DeviceCell.auto, .error "the plug-in module cannot be pinned: no module"⟩ ∈
      c.shared.returned ∧
      ∃ status, c.shared.cells DeviceCell.compute = .filled status ∧
        ∀ reason, status = .error reason →
          (.error "the plug-in module cannot be pinned: no module" : Except String ComputeGpu) =
            .error reason := by
  obtain ⟨c, hc, returned⟩ := auto_unpinned ⟨7, 1, 2⟩ true "no module"
  obtain ⟨status, filled, -, -, carried⟩ := auto_agrees hc returned
  exact ⟨c, hc, returned, status, filled, carried⟩

/-- While there are calls, one of them can go on. -/
theorem never_stuck (hc : Reached sets vulkanTarget c) (running : c.running ≠ 0) :
    ∃ thread ∈ c.running, ∃ m left,
      ThreadRule (init sets vulkanTarget) c.shared {thread} m left := by
  have answers : ∀ question : DeviceQuestion, Nonempty question.Reply := by
    intro question
    cases question with
    | pinContainingModule => exact ⟨.ok ()⟩
    | newInstance => exact ⟨0⟩
    | openShared => exact ⟨none⟩
    | requestAdapter | openCompute | requestDevice => exact ⟨.error ""⟩
  exact (sound hc).progress answers running

theorem never_stuck_shared : ∃ c, Reached ⟨7, 1, 2⟩ true c ∧ ∃ thread ∈ c.running, ∃ m left,
    ThreadRule (init ⟨7, 1, 2⟩ true) c.shared {thread} m left := by
  obtain ⟨c, hc, hcreating⟩ := shared_creating ⟨7, 1, 2⟩ true ⟨0, "card", .discreteGpu, 5⟩
  refine ⟨c, hc, never_stuck hc fun none => ?_⟩
  rw [none] at hcreating
  exact Multiset.singleton_ne_zero _ hcreating.symm

end GpuInfo.Devices
