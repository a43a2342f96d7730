import GpuInfo.External.SharedBuffer

/-!
Whatever the driver answers and however the threads take turns, the shared buffers never name
what is not theirs, and leak nothing.
-/

namespace GpuInfo.External
open CallProgram OwnedTokens Interleaving

/-! The functions, one at a time -/

/-- What is made, if it is. -/
def gained {α : Type} (made : α → Multiset VkToken) : Except ExternalError α → Multiset VkToken
  | .error _ => 0
  | .ok a => made a

/-- What an export leaves with its caller. -/
def Export.owned : Except ExternalError (SharedBuffer × Export) → Multiset VkToken :=
  gained fun made => {.handle made.2.handle}

section Turns
variable {owned : Multiset VkToken} {buffer memory : Nat}

theorem destroyBuffer_turns (buffer : Nat) (owned : Multiset VkToken) :
    Turns (S := vulkan) (ask (.destroyBuffer buffer)) ({.buffer buffer} + owned)
      fun _ => owned := by
  apply Turns.gives (S := vulkan) {VkToken.buffer buffer} (.destroyBuffer buffer)
  · exact Multiset.mem_cons_self _ _
  · exact fun _ => rfl
  · exact fun _ => rfl

/-- The one memory that is left when its buffer is gone. -/
theorem freeMemory_turns :
    Turns (S := vulkan) (ask (.freeMemory memory)) {.memory memory} fun _ => 0 := by
  have alone : (VkQuestion.freeMemory memory).Allowed {.memory memory} :=
    ⟨Multiset.mem_singleton_self _, fun _ hbuffer => by cases Multiset.mem_singleton.mp hbuffer⟩
  apply Turns.gives (S := vulkan) {VkToken.memory memory} (.freeMemory memory) alone
  · exact fun _ => rfl
  · exact fun _ => rfl

theorem dropOwned_turns :
    Turns (S := vulkan) (dropOwned buffer memory) (pair buffer memory) fun _ => 0 :=
  Turns.bind (destroyBuffer_turns buffer {.memory memory}) fun _ => freeMemory_turns

theorem raw_turns : Turns (S := vulkan) raw owned fun _ => owned := by
  apply Turns.bind (Turns.looks (S := vulkan) .hal trivial (fun _ => rfl) fun _ => rfl)
  intro reply
  cases reply with
  | none => rfl
  | some found =>
      obtain ⟨raw, enabled⟩ := found
      cases enabled with
      | true => rfl
      | false => rfl

theorem createBuffer_turns (size : Nat) :
    Turns (S := vulkan) (createBuffer size) 0 (gained fun buffer => {.buffer buffer}) := by
  apply Turns.bind (Turns.gains (S := vulkan) (.createBuffer size) trivial fun _ => rfl)
  intro reply
  cases reply with
  | error result => rfl
  | ok buffer => rfl

theorem getRequirements_turns (device : Raw) :
    Turns (S := vulkan) (getRequirements buffer device) {.buffer buffer}
      fun _ => {.buffer buffer} := by
  apply Turns.bind (Turns.looks (S := vulkan) (.requirements buffer)
    (Multiset.mem_singleton_self _) (fun _ => rfl) fun _ => rfl)
  intro requirements
  dsimp only
  cases findMemoryType requirements device with
  | none => rfl
  | some index => rfl

/-- Where it fails, the buffer is gone as well. -/
theorem allocateAndBind_turns (size memoryType : Nat) (source : Source) :
    Turns (S := vulkan) (allocateAndBind buffer size memoryType source) {.buffer buffer}
      (gained fun memory => pair buffer memory) := by
  apply Turns.bind (Turns.gains (S := vulkan) (.allocate buffer size memoryType source)
    (Multiset.mem_singleton_self _) fun _ => rfl)
  intro reply
  cases reply with
  | error result => exact Turns.bind (destroyBuffer_turns buffer 0) fun _ => rfl
  | ok memory =>
      have both : {VkToken.memory memory} + {VkToken.buffer buffer} = pair buffer memory :=
        add_comm _ _
      have there : (VkQuestion.bind buffer memory).Allowed (pair buffer memory) := by
        simp [VkQuestion.Allowed, pair]
      show Turns (S := vulkan) _ ({VkToken.memory memory} + {VkToken.buffer buffer}) _
      rw [both]
      apply Turns.bind
        (Turns.looks (S := vulkan) (.bind buffer memory) there (fun _ => rfl) fun _ => rfl)
      intro reply
      cases reply with
      | error result =>
          exact Turns.bind (destroyBuffer_turns buffer {.memory memory}) fun _ =>
            Turns.bind freeMemory_turns fun _ => rfl
      | ok _ => rfl

/-- From there on the buffer and its memory are the parcel of whoever drops the hal buffer. -/
theorem wrap_turns (size : Nat) :
    Turns (S := vulkan) (wrap buffer memory size) (pair buffer memory + owned)
      fun _ => owned := by
  have there : (VkQuestion.wrap buffer memory size).Allowed (pair buffer memory + owned) := by
    simp [VkQuestion.Allowed, pair]
  apply Turns.bind (Turns.gives (S := vulkan) (pair buffer memory) (.wrap buffer memory size) there
    (fun _ => zero_add (pair buffer memory)) fun _ => rfl)
  intro _
  rfl

theorem exportBuffer_turns (size : Nat) :
    Turns (S := vulkan) (exportBuffer size) 0 Export.owned := by
  apply Turns.bind raw_turns
  intro device
  cases device with
  | error error => rfl
  | ok device =>
  apply Turns.bind (createBuffer_turns size)
  intro created
  cases created with
  | error error => rfl
  | ok buffer =>
  apply Turns.bind (getRequirements_turns device)
  intro requirements
  cases requirements with
  | error error => exact Turns.bind (destroyBuffer_turns buffer 0) fun _ => rfl
  | ok found =>
  obtain ⟨requirements, memoryType⟩ := found
  apply Turns.bind (allocateAndBind_turns requirements.size memoryType .exportable)
  intro bound
  cases bound with
  | error error => rfl
  | ok memory =>
  have there : VkToken.memory memory ∈ pair buffer memory := by simp [pair]
  apply Turns.bind (Turns.gains (S := vulkan) (.win32Handle memory) there fun _ => rfl)
  intro reply
  cases reply with
  | error result =>
      show Turns (S := vulkan) _ (0 + pair buffer memory) _
      rw [zero_add]
      exact Turns.bind dropOwned_turns fun _ => rfl
  | ok handle =>
  show Turns (S := vulkan) (if handle = 0 then _ else _)
    ((if handle = 0 then 0 else {VkToken.handle handle}) + pair buffer memory) _
  split
  · rw [zero_add]
    exact Turns.bind dropOwned_turns fun _ => rfl
  · rw [add_comm]
    exact Turns.bind (wrap_turns size) fun _ => rfl

theorem importBuffer_turns (handle allocation memoryType size : Nat) :
    Turns (S := vulkan) (importBuffer handle allocation memoryType size) 0 fun _ => 0 := by
  apply Turns.bind raw_turns
  intro device
  cases device with
  | error error => rfl
  | ok device =>
  apply Turns.bind (createBuffer_turns size)
  intro created
  cases created with
  | error error => rfl
  | ok buffer =>
  apply Turns.bind (allocateAndBind_turns allocation memoryType (.imported handle))
  intro bound
  cases bound with
  | error error => rfl
  | ok memory =>
      show Turns (S := vulkan) _ (pair buffer memory) _
      rw [← add_zero (pair buffer memory)]
      exact Turns.bind (wrap_turns size) fun _ => rfl

end Turns

/-! What threads do -/

/-- What is handed over in one piece: nothing, a buffer with its memory, or the handle of an
export. -/
inductive Parcel : Multiset VkToken → Prop
  | nothing : Parcel 0
  | shared (buffer memory : Nat) : Parcel (pair buffer memory)
  | handle (value : Nat) : Parcel {.handle value}

/-- The hal buffer is dropped once, and the handle of an export as well. -/
inductive Entry : Multiset VkToken → Routine vulkan → Prop
  | exports (size : Nat) : Entry 0 (exportBuffer size >>= fun made => .done (Export.owned made))
  | imports (handle allocation memoryType size : Nat) :
      Entry 0 (importBuffer handle allocation memoryType size >>= fun _ => .done 0)
  | drops (buffer memory : Nat) :
      Entry (pair buffer memory) (dropOwned buffer memory >>= fun _ => .done 0)
  | closes (value : Nat) :
      Entry {.handle value} (ask (.closeHandle value) >>= fun _ => .done 0)

theorem entry_owns (parcel : Multiset VkToken) (routine : Routine vulkan)
    (h : Entry parcel routine) : routine.Owns parcel := by
  cases h with
  | exports size => exact (exportBuffer_turns size).owns
  | imports handle allocation memoryType size =>
      exact (importBuffer_turns handle allocation memoryType size).owns
  | drops buffer memory => exact dropOwned_turns.owns
  | closes value =>
      have there : (VkQuestion.closeHandle value).Allowed ({.handle value} + 0) :=
        Multiset.mem_add.mpr (.inl (Multiset.mem_singleton_self _))
      have closes := Turns.gives (S := vulkan) {VkToken.handle value} (.closeHandle value) there
        (fun _ => rfl) fun _ => rfl
      exact closes.owns

theorem handed_parcel (question : VkQuestion) (reply : question.Reply) :
    Parcel (vulkan.handed question reply) := by
  cases question with
  | wrap buffer memory size => exact .shared buffer memory
  | hal | createBuffer | requirements | allocate | bind | destroyBuffer | freeMemory
  | win32Handle | closeHandle => exact .nothing

theorem entry_hands (parcel : Multiset VkToken) (routine : Routine vulkan)
    (h : Entry parcel routine) : routine.Hands Parcel := by
  cases h with
  | exports size =>
      apply Routine.hands_bind (S := vulkan) handed_parcel
      intro made
      cases made with
      | error error => exact Parcel.nothing
      | ok made => exact Parcel.handle _
  | imports | drops | closes =>
      exact Routine.hands_bind (S := vulkan) handed_parcel _ fun _ => Parcel.nothing

/-! Every run -/

abbrev Process : ThreadConfig vulkan → ThreadConfig vulkan → Prop := Step (ThreadRule Entry)

abbrev Reached (c : ThreadConfig vulkan) : Prop := Reachable ThreadStart Process c

variable {c : ThreadConfig vulkan}

/-- A buffer or a memory that a thread names in a call of the driver is there, and belongs to
nobody else; a buffer goes before its memory. -/
theorem calls_own (hc : Reached c) {question : VkQuestion}
    {rest : question.Reply → Routine vulkan} {owned : Multiset VkToken}
    {others : Multiset (Thread vulkan)}
    (running : c.running = ⟨owned, .call question rest⟩ ::ₘ others) :
    question.Allowed owned ∧ owned ≤ c.shared.live ∧
      ∀ token ∈ owned, (∀ parcel ∈ c.shared.parcels, token ∉ parcel) ∧
        ∀ other ∈ others, token ∉ other.owned := by
  have sound : c.Sound := reachable_sound entry_owns hc
  have member : ⟨owned, .call question rest⟩ ∈ c.running := by
    rw [running]
    exact Multiset.mem_cons_self _ _
  refine ⟨sound.allowed member, sound.owned_le running, fun token htoken => ?_⟩
  obtain ⟨-, parcels, apart⟩ := sound.alone running htoken
  exact ⟨parcels, apart⟩

/-- An import whose memory is refused destroys its buffer. -/
theorem calls_own_refused : ∃ (m : Memory vulkan) (rest : Unit → Routine vulkan),
    Reached ⟨m, {⟨{.buffer 1}, .call (.destroyBuffer 1) rest⟩}⟩ ∧
      (VkQuestion.destroyBuffer 1).Allowed {.buffer 1} ∧ {VkToken.buffer 1} ≤ m.live := by
  have begun : Reached ⟨⟨0, 0, 0⟩, _⟩ :=
    (started (S := vulkan)).fire 0 (.begins (.imports 7 64 0 64)) rfl
  have found := answered (S := vulkan) .hal begun (some (⟨[true], 1⟩, true))
    (by simp [VkQuestion.made]) (by simp [VkQuestion.made])
  have made := answered (S := vulkan) (.createBuffer 64) found (.ok 1)
    (by simp [VkQuestion.made]) (by simp [VkQuestion.made, Memory.answer, VkQuestion.spent])
  have refused := answered (S := vulkan) (.allocate 1 64 0 (.imported 7)) made
    (.error "ERROR_OUT_OF_DEVICE_MEMORY") (by simp [VkQuestion.made]) (by simp [VkQuestion.made])
  have own := @calls_own _ refused (.destroyBuffer 1) _ _ 0 rfl
  exact ⟨_, _, refused, own.1, own.2.1⟩

/-- Whatever failed, once no thread runs what is live is buffers with their memories and the
handles of exports, each of them once. -/
theorem nothing_left (hc : Reached c) (ended : c.running = 0) :
    c.shared.live = c.shared.parcels.sum ∧ (∀ parcel ∈ c.shared.parcels, Parcel parcel) ∧
      c.shared.live.Nodup := by
  have sound : c.Sound := reachable_sound entry_owns hc
  have handed : c.Hands Parcel := reachable_hands entry_hands hc
  exact ⟨sound.rest ended, handed.1, sound.once⟩

/-- An import alone leaves its buffer and the memory it has imported. -/
theorem nothing_left_imported : ∃ m : Memory vulkan, Reached ⟨m, 0⟩ ∧
    m.live = {.memory 2, .buffer 1} ∧ m.live = m.parcels.sum := by
  have begun : Reached ⟨⟨0, 0, 0⟩, _⟩ :=
    (started (S := vulkan)).fire 0 (.begins (.imports 7 64 0 64)) rfl
  have found := answered (S := vulkan) .hal begun (some (⟨[true], 1⟩, true))
    (by simp [VkQuestion.made]) (by simp [VkQuestion.made])
  have made := answered (S := vulkan) (.createBuffer 64) found (.ok 1)
    (by simp [VkQuestion.made]) (by simp [VkQuestion.made, Memory.answer, VkQuestion.spent])
  have allocated := answered (S := vulkan) (.allocate 1 64 0 (.imported 7)) made (.ok 2)
    (by simp [VkQuestion.made]) (by simp [VkQuestion.made, Memory.answer, VkQuestion.spent])
  have bound := answered (S := vulkan) (.bind 1 2) allocated (.ok ())
    (by simp [VkQuestion.made]) (by simp [VkQuestion.made])
  have wrapped := answered (S := vulkan) (.wrap 1 2 64) bound ()
    (by simp [VkQuestion.made]) (by simp [VkQuestion.made])
  have ended := wrapped.fire 0 .ends rfl
  exact ⟨_, ended, by decide, (nothing_left ended rfl).1⟩

end GpuInfo.External
