import GpuInfo.Stats.IoRegistry

/-!
Whatever IOKit answers, a query names no object that is not alive or not of its type, and releases
each reference once.
-/

namespace GpuInfo.IoRegistry
open CallProgram OwnedTokens Interleaving

/-! The functions, one at a time -/

section Turns
variable {owned : Multiset IoToken}

/-- A reference that may be missing. -/
def reference (object : Option CfObject) : Multiset IoToken :=
  match object with
  | none => 0
  | some object => {.object object}

theorem release_turns (object : CfObject) :
    Turns (S := iokit) (ask (.release object)) ({.object object} + owned) fun _ => owned := by
  apply Turns.gives (S := iokit) {IoToken.object object} (.release object)
  · exact Multiset.mem_cons_self _ _
  · exact fun _ => rfl
  · exact fun _ => rfl

theorem releaseService_turns (service : Nat) :
    Turns (S := iokit) (ask (.releaseService service)) ({.service service} + owned)
      fun _ => owned := by
  apply Turns.gives (S := iokit) {IoToken.service service} (.releaseService service)
  · exact Multiset.mem_cons_self _ _
  · exact fun _ => rfl
  · exact fun _ => rfl

theorem newKey_turns (text : String) :
    Turns (S := iokit) (newKey text) owned fun key =>
      reference (key.map CfKey.object) + owned := by
  apply Turns.bind (Turns.gains (S := iokit) (.createString text) trivial fun _ => rfl)
  intro id
  cases id with
  | none => rfl
  | some id => rfl

/-- A service, if one is found. -/
def found (service : Option Nat) : Multiset IoToken :=
  match service with
  | none => 0
  | some service => {.service service}

theorem serviceMatching_turns (name : String) :
    Turns (S := iokit) (serviceMatching name) owned fun service => found service + owned := by
  apply Turns.bind (Turns.gains (S := iokit) (.serviceMatching name) trivial fun _ => rfl)
  intro dictionary
  cases dictionary with
  | none => rfl
  | some dictionary =>
      have there : IoQuestion.Allowed (.matchingService dictionary)
          ({.matching dictionary} + owned) := Multiset.mem_cons_self _ _
      apply Turns.bind (Turns.trades (S := iokit) {IoToken.matching dictionary}
        (.matchingService dictionary) there fun _ => rfl)
      intro service
      refine Turns.pure _ (congrArg (· + owned) ?_)
      show (if service = 0 then 0 else {IoToken.service service}) =
        found (if service = 0 then none else some service)
      split
      · rfl
      · rfl

/-- A property is a reference of its own, and the key is gone. -/
theorem property_turns {service : Nat} (h : .service service ∈ owned) (key : String) :
    Turns (S := iokit) (property service key) owned fun object => reference object + owned := by
  apply Turns.bind (newKey_turns key)
  intro key
  cases key with
  | none => rfl
  | some key =>
      have there : IoQuestion.Allowed (.property service key.object)
          ({.object key.object} + owned) :=
        ⟨Multiset.mem_cons_of_mem h, Multiset.mem_cons_self _ _, rfl⟩
      apply Turns.bind (Turns.gains (S := iokit) (.property service key.object) there fun _ => rfl)
      intro raw
      have made : IoQuestion.made (.property service key.object) raw = reference raw := by
        cases raw <;> rfl
      show Turns (S := iokit) _ (IoQuestion.made (.property service key.object) raw +
        ({.object key.object} + owned)) _
      rw [made, add_left_comm]
      exact Turns.bind (release_turns key.object) fun _ => rfl

theorem number_turns {value : CfPointer} (h : .object value.holder ∈ owned) :
    Turns (S := iokit) (number value) owned fun _ => owned := by
  apply Turns.bind (Turns.looks (S := iokit) (.typeId value) h (fun _ => rfl) fun _ => rfl)
  intro kind
  split
  · next hkind =>
      have there : .object value.holder ∈ owned ∧ value.kind = .number :=
        ⟨h, kind.2.symm.trans hkind⟩
      apply Turns.bind
        (Turns.looks (S := iokit) (.numberInt value) there (fun _ => rfl) fun _ => rfl)
      intro n
      cases n with
      | some n => rfl
      | none =>
          exact Turns.looks (S := iokit) (.numberFloat value) there (fun _ => rfl) fun _ => rfl
  · rfl

theorem dictNumber_turns {dictionary : CfObject} (h : .object dictionary ∈ owned)
    (kind : dictionary.kind = .dictionary) (key : String) :
    Turns (S := iokit) (dictNumber dictionary key) owned fun _ => owned := by
  apply Turns.bind (newKey_turns key)
  intro key
  cases key with
  | none => exact zero_add owned
  | some key =>
      have mine : IoToken.object dictionary ∈ {.object key.object} + owned :=
        Multiset.mem_cons_of_mem h
      have there : IoQuestion.Allowed (.dictionaryValue dictionary key.object)
          ({.object key.object} + owned) := ⟨mine, kind, Multiset.mem_cons_self _ _⟩
      apply Turns.bind (Turns.looks (S := iokit) (.dictionaryValue dictionary key.object) there
        (fun _ => rfl) fun _ => rfl)
      intro value
      cases value with
      | none => exact Turns.bind (release_turns key.object) fun _ => rfl
      | some value =>
          have alive : IoToken.object value.1.holder ∈ {.object key.object} + owned := by
            rw [value.2]
            exact mine
          apply Turns.bind (number_turns alive)
          intro answer
          exact Turns.bind (release_turns key.object) fun _ => rfl

theorem decodeText_turns {value : CfObject} (h : .object value ∈ owned) :
    Turns (S := iokit) (decodeText value) owned fun _ => owned := by
  apply Turns.bind (Turns.looks (S := iokit) (.typeId value.raw) h (fun _ => rfl) fun _ => rfl)
  rintro ⟨kind, hkind⟩
  cases kind with
  | string =>
      have there : .object value ∈ owned ∧ value.kind = .string := ⟨h, hkind.symm⟩
      exact Turns.bind (Turns.looks (S := iokit) (.stringBytes value.raw) there (fun _ => rfl)
        fun _ => rfl) fun _ => rfl
  | data =>
      have there : .object value ∈ owned ∧ value.kind = .data := ⟨h, hkind.symm⟩
      apply Turns.bind (Turns.looks (S := iokit) (.dataLength value.raw) there (fun _ => rfl)
        fun _ => rfl)
      intro length
      exact Turns.bind (Turns.looks (S := iokit) (.dataBytes value.raw length.toNat) there
        (fun _ => rfl) fun _ => rfl) fun _ => rfl
  | dictionary | number | other => rfl

theorem text_turns {service : Nat} (h : .service service ∈ owned) (key : String) :
    Turns (S := iokit) (text service key) owned fun _ => owned := by
  apply Turns.bind (property_turns h key)
  intro value
  cases value with
  | none => exact zero_add owned
  | some value =>
      have there : IoToken.object value ∈ {.object value} + owned := Multiset.mem_cons_self _ _
      apply Turns.bind (decodeText_turns there)
      intro text
      exact Turns.bind (release_turns value) fun _ => rfl

variable {F32 : Type} (target : Target F32)

theorem sysMemsize_turns : Turns (S := iokit) sysMemsize owned fun _ => owned :=
  Turns.bind (Turns.looks (S := iokit) .memsize trivial (fun _ => rfl) fun _ => rfl) fun _ => rfl

theorem reading_turns {service : Nat} (h : .service service ∈ owned) (util : Option F32)
    (used : Option Nat) :
    Turns (S := iokit) (reading target service util used) owned fun _ => owned := by
  apply Turns.bind (text_turns h "model")
  intro name
  apply Turns.bind (text_turns h "IOClass")
  intro driverClass
  dsimp only
  split
  · apply Turns.bind sysMemsize_turns
    intro total
    rfl
  · rfl

theorem counters_turns {service : Nat} {stats : CfObject} (h : .service service ∈ owned)
    (h' : .object stats ∈ owned) :
    Turns (S := iokit) (counters target service stats) owned fun _ => owned := by
  apply Turns.bind (Turns.looks (S := iokit) (.typeId stats.raw) h' (fun _ => rfl) fun _ => rfl)
  intro kind
  split
  · next hkind =>
      have dictionary : stats.kind = .dictionary := kind.2.symm.trans hkind
      apply Turns.bind (dictNumber_turns h' dictionary "Device Utilization %")
      intro util
      apply Turns.bind (dictNumber_turns h' dictionary "In use system memory")
      intro used
      dsimp only
      split
      · rfl
      · exact Turns.bind (reading_turns target h _ _) fun _ => rfl
  · rfl

theorem queryClass_turns (name : String) :
    Turns (S := iokit) (queryClass target name) owned fun _ => owned := by
  apply Turns.bind (serviceMatching_turns name)
  intro service
  cases service with
  | none => exact zero_add owned
  | some service =>
      have there : IoToken.service service ∈ {.service service} + owned :=
        Multiset.mem_cons_self _ _
      apply Turns.bind (property_turns there "PerformanceStatistics")
      intro stats
      cases stats with
      | none =>
          rw [reference, zero_add]
          exact Turns.bind (releaseService_turns service) fun _ => rfl
      | some stats =>
          have there' : IoToken.object stats ∈ {.object stats} + ({.service service} + owned) :=
            Multiset.mem_cons_self _ _
          apply Turns.bind (counters_turns target (Multiset.mem_cons_of_mem there) there')
          intro answer
          apply Turns.bind (release_turns stats)
          intro _
          exact Turns.bind (releaseService_turns service) fun _ => rfl

theorem queryClasses_turns (names : List String) :
    Turns (S := iokit) (queryClasses target names) owned fun _ => owned := by
  induction names with
  | nil => rfl
  | cons name names ih =>
      apply Turns.bind (queryClass_turns target name)
      intro stats
      cases stats with
      | some stats => rfl
      | none => exact ih

end Turns
/-! Every run -/

/-- What threads do. -/
inductive Entry : Multiset IoToken → Routine iokit → Prop
  | queries (F32 : Type) (target : Target F32) : Entry 0 (query target >>= fun _ => .done 0)

theorem entry_owns (parcel : Multiset IoToken) (routine : Routine iokit)
    (h : Entry parcel routine) : routine.Owns parcel := by
  cases h with
  | queries F32 target => exact (queryClasses_turns target acceleratorClasses).owns

/-- A query hands over nothing. -/
theorem entry_hands (parcel : Multiset IoToken) (routine : Routine iokit)
    (h : Entry parcel routine) : routine.Hands (· = 0) := by
  cases h with
  | queries F32 target =>
      exact Routine.hands_bind (S := iokit) (fun _ _ => rfl) (query target) fun _ => rfl

abbrev Process : ThreadConfig iokit → ThreadConfig iokit → Prop := Step (ThreadRule Entry)

abbrev Reached (c : ThreadConfig iokit) : Prop := Reachable ThreadStart Process c

variable {c : ThreadConfig iokit}

/-- What a query names in a call is alive and of the type that the function is for, and no other
thread releases it; once no query runs, every reference has been released. -/
theorem references_released (hc : Reached c) :
    (∀ (question : IoQuestion) (rest : question.Reply → Routine iokit) (owned : Multiset IoToken)
        (others : Multiset (Thread iokit)),
      c.running = ⟨owned, .call question rest⟩ ::ₘ others →
        question.Allowed owned ∧ owned ≤ c.shared.live ∧
          ∀ token ∈ owned, ∀ other ∈ others, token ∉ other.owned) ∧
      c.shared.live.Nodup ∧ (c.running = 0 → c.shared.live = 0) := by
  have sound : c.Sound := reachable_sound entry_owns hc
  have handed : c.Hands (· = 0) := reachable_hands entry_hands hc
  refine ⟨fun question rest owned others running => ?_, sound.once, fun ended => ?_⟩
  · have member : ⟨owned, .call question rest⟩ ∈ c.running := by
      rw [running]
      exact Multiset.mem_cons_self _ _
    exact ⟨sound.allowed member, sound.owned_le running,
      fun token htoken => (sound.alone running htoken).2.2⟩
  · rw [sound.rest ended]
    exact Multiset.sum_eq_zero handed.1

/-- The statistics of the only service cannot be asked for. -/
theorem references_released_service : ∃ m : Memory iokit, Reached ⟨m, 0⟩ ∧ m.live = 0 := by
  have begun : Reached ⟨⟨0, 0, 0⟩, _⟩ :=
    (started (S := iokit)).fire 0 (.begins (.queries Unit ⟨true, fun _ => ()⟩)) rfl
  have matched := answered (S := iokit) (.serviceMatching "IOAccelerator") begun (some 1)
    (by simp [IoQuestion.made]) (by simp [IoQuestion.made])
  have served := answered (S := iokit) (.matchingService 1) matched (2 : Nat)
    (by simp [IoQuestion.made]) (by simp [IoQuestion.made, Memory.answer, IoQuestion.spent])
  have keyless := answered (S := iokit) (.createString "PerformanceStatistics") served none
    (by simp [IoQuestion.made]) (by simp [IoQuestion.made])
  have released := answered (S := iokit) (.releaseService 2) keyless ()
    (by simp [IoQuestion.made]) (by simp [IoQuestion.made])
  have unmatched := answered (S := iokit) (.serviceMatching "AGXAccelerator") released none
    (by simp [IoQuestion.made]) (by simp [IoQuestion.made])
  have ended := unmatched.fire 0 .ends rfl
  exact ⟨_, ended, (references_released ended).2.2 rfl⟩

end GpuInfo.IoRegistry
