import GpuInfo.CallProgram
import GpuInfo.Wait.Submission

/-!
What a poll of composed scopes answers. `Validation::poll` is a program whose calls are the
polls of its futures, and all it knows is that each of them answers what its scope has
recorded by then, and that this stays. So its answer is the first failure in order once every
scope has settled, and nothing before.
-/

namespace GpuInfo
open CallProgram StateProgram

mutual

/-- The scopes below a validation. -/
def Validation.scopes : Validation → List ScopeId
  | .future scope => [scope]
  | .all parts => Validation.scopesOf parts

def Validation.scopesOf : List Validation → List ScopeId
  | [] => []
  | part :: parts => part.scopes ++ Validation.scopesOf parts

end

abbrev ScopeProgram := Program ScopeId fun _ => Option Outcome

mutual

/-- `Validation::poll` up to the polls of its futures. -/
def Validation.program : Validation → ScopeProgram (Option Outcome)
  | .future scope => .call scope .done
  | .all parts => do
      let tally ← Validation.partsProgram parts ⟨false, none⟩
      pure tally.outcome

/-- `Validation::poll_all`, with what its loop has found so far. -/
def Validation.partsProgram : List Validation → PollTally → ScopeProgram PollTally
  | [], tally => pure tally
  | part :: parts, tally => do
      let polled ← part.program
      Validation.partsProgram parts (tally.add polled)

end

mutual

theorem Validation.program_run (validation : Validation) :
    validation.program.run pollFuture = validation.poll :=
  match validation with
  | .future scope => by
      rw [Validation.program, Validation.poll]
      exact bind_pure (pollFuture scope)
  | .all parts => by
      rw [Validation.program, Validation.poll, Program.run_bind,
        Validation.partsProgram_run parts]
      rfl

theorem Validation.partsProgram_run (parts : List Validation) (tally : PollTally) :
    (Validation.partsProgram parts tally).run pollFuture = Validation.pollParts parts tally :=
  match parts with
  | [] => by
      rw [Validation.partsProgram, Validation.pollParts]
      rfl
  | part :: parts => by
      rw [Validation.partsProgram, Validation.pollParts, Program.run_bind,
        Validation.program_run part]
      exact bind_congr fun polled => Validation.partsProgram_run parts (tally.add polled)

end

/-! The verdict -/

/-- The error of the first that failed, if one has. -/
def firstFailure : List Outcome → Outcome
  | [] => .ok ()
  | .error error :: _ => .error error
  | .ok () :: outcomes => firstFailure outcomes

/-- `Result::and` -/
def Outcome.and (outcome next : Outcome) : Outcome :=
  match outcome with
  | .ok () => next
  | .error error => .error error

theorem firstFailure_append (outcomes more : List Outcome) :
    firstFailure (outcomes ++ more) = Outcome.and (firstFailure outcomes) (firstFailure more) := by
  induction outcomes with
  | nil => rfl
  | cons outcome outcomes ih =>
      cases outcome with
      | error error => rfl
      | ok value => exact ih

theorem firstFailure_ok {outcomes : List Outcome} (h : firstFailure outcomes = .ok ()) :
    ∀ outcome ∈ outcomes, outcome = .ok () := by
  induction outcomes with
  | nil => simp
  | cons outcome outcomes ih =>
      cases outcome with
      | error error => cases h
      | ok value => simpa using ih h

theorem firstFailure_error {outcomes : List Outcome} {error : WaitError}
    (h : firstFailure outcomes = .error error) : .error error ∈ outcomes := by
  induction outcomes with
  | nil => cases h
  | cons outcome outcomes ih =>
      cases outcome with
      | error first =>
          cases h
          exact List.mem_cons_self
      | ok value => exact List.mem_cons_of_mem _ (ih h)

/-- All of these scopes have settled, and this is the first failure in their order. -/
def Verdict (recorded : ScopeId → Option Outcome) (scopes : List ScopeId) (outcome : Outcome) :
    Prop :=
  ∃ outcomes : List Outcome, scopes.map recorded = outcomes.map some ∧
    firstFailure outcomes = outcome

section
variable {recorded recorded' : ScopeId → Option Outcome} {scopes more : List ScopeId}
  {outcome outcome' : Outcome}

theorem Verdict.append (h : Verdict recorded scopes outcome)
    (h' : Verdict recorded more outcome') :
    Verdict recorded (scopes ++ more) (outcome.and outcome') := by
  obtain ⟨outcomes, hrecorded, rfl⟩ := h
  obtain ⟨outcomes', hrecorded', rfl⟩ := h'
  refine ⟨outcomes ++ outcomes', ?_, firstFailure_append outcomes outcomes'⟩
  rw [List.map_append, List.map_append, hrecorded, hrecorded']

/-- What is recorded stays, and the verdict with it. -/
theorem Verdict.later (h : Verdict recorded scopes outcome)
    (stays : ∀ {scope outcome}, recorded scope = some outcome →
      recorded' scope = some outcome) : Verdict recorded' scopes outcome := by
  obtain ⟨outcomes, hrecorded, hfirst⟩ := h
  refine ⟨outcomes, ?_, hfirst⟩
  rw [← hrecorded]
  refine List.map_congr_left fun scope hscope => ?_
  have hmem : recorded scope ∈ outcomes.map some := hrecorded ▸ List.mem_map_of_mem hscope
  obtain ⟨outcome, -, houtcome⟩ := List.mem_map.mp hmem
  rw [← houtcome]
  exact stays houtcome.symm

theorem Verdict.unique (h : Verdict recorded scopes outcome)
    (h' : Verdict recorded scopes outcome') : outcome = outcome' := by
  obtain ⟨outcomes, hrecorded, rfl⟩ := h
  obtain ⟨outcomes', hrecorded', rfl⟩ := h'
  have hmap := hrecorded.symm.trans hrecorded'
  exact congrArg firstFailure ((List.map_inj_right fun _ _ => Option.some.inj).mp hmap)

theorem Verdict.settled (h : Verdict recorded scopes outcome) :
    ∀ scope ∈ scopes, recorded scope ≠ none := by
  intro scope hscope hnone
  obtain ⟨outcomes, hrecorded, -⟩ := h
  have hmem : recorded scope ∈ outcomes.map some := hrecorded ▸ List.mem_map_of_mem hscope
  simp [hnone] at hmem

theorem Verdict.accepted (h : Verdict recorded scopes (.ok ())) :
    ∀ scope ∈ scopes, recorded scope = some (.ok ()) := by
  intro scope hscope
  obtain ⟨outcomes, hrecorded, hfirst⟩ := h
  have hmem : recorded scope ∈ outcomes.map some := hrecorded ▸ List.mem_map_of_mem hscope
  obtain ⟨outcome, houtcome, heq⟩ := List.mem_map.mp hmem
  rw [← heq, firstFailure_ok hfirst outcome houtcome]

theorem Verdict.rejected {error : WaitError} (h : Verdict recorded scopes (.error error)) :
    ∃ scope ∈ scopes, recorded scope = some (.error error) := by
  obtain ⟨outcomes, hrecorded, hfirst⟩ := h
  have hmem : some (.error error) ∈ scopes.map recorded :=
    hrecorded ▸ List.mem_map_of_mem (firstFailure_error hfirst)
  exact List.mem_map.mp hmem

end

/-! The answer -/

/-- A tally answers once it has heard all, with the first failure it has heard. -/
theorem PollTally.add_outcome (tally : PollTally) (answer : Option Outcome) :
    (tally.add answer).outcome =
      tally.outcome.bind fun first => answer.map fun next => Outcome.and first next := by
  obtain ⟨pending, failure⟩ := tally
  cases pending with
  | true =>
      cases answer with
      | none => rfl
      | some next => cases next <;> rfl
  | false =>
      cases answer with
      | none => cases failure <;> rfl
      | some next => cases next <;> cases failure <;> rfl

variable {W : Type} {later : W → W → Prop} [IsPreorder W later]
  {recorded : W → ScopeId → Option Outcome}

/-- What an answer about these scopes says, for a poll that began in `w` and ends in `w'`. -/
structure Polled (recorded : W → ScopeId → Option Outcome) (scopes : List ScopeId) (w : W)
    (answer : Option Outcome) (w' : W) : Prop where
  decided : ∀ outcome, answer = some outcome → Verdict (recorded w') scopes outcome
  complete : (∀ scope ∈ scopes, recorded w scope ≠ none) → answer ≠ none

theorem Polled.append {scopes more : List ScopeId} {tally : PollTally} {answer : Option Outcome}
    {w w₁ w₂ w₃ : W} (h : Polled recorded scopes w tally.outcome w₁)
    (h' : Polled recorded more w₂ answer w₃)
    (stays : ∀ {scope outcome}, recorded w₁ scope = some outcome →
      recorded w₃ scope = some outcome)
    (kept : ∀ {scope outcome}, recorded w scope = some outcome →
      recorded w₂ scope = some outcome) :
    Polled recorded (scopes ++ more) w (tally.add answer).outcome w₃ := by
  rw [PollTally.add_outcome]
  refine ⟨fun outcome houtcome => ?_, fun settled => ?_⟩
  · obtain ⟨first, hfirst, hnext⟩ := Option.bind_eq_some_iff.mp houtcome
    obtain ⟨next, hanswer, rfl⟩ := Option.map_eq_some_iff.mp hnext
    exact ((h.decided first hfirst).later stays).append (h'.decided next hanswer)
  · have hfirst := h.complete fun scope hscope => settled scope (List.mem_append_left more hscope)
    have hnext := h'.complete fun scope hscope => by
      obtain ⟨outcome, houtcome⟩ := Option.ne_none_iff_exists'.mp
        (settled scope (List.mem_append_right scopes hscope))
      rw [kept houtcome]
      exact Option.some_ne_none outcome
    obtain ⟨first, hfirst⟩ := Option.ne_none_iff_exists'.mp hfirst
    obtain ⟨next, hnext⟩ := Option.ne_none_iff_exists'.mp hnext
    simp [hfirst, hnext]

/-- Worlds in which what a scope has recorded stays. -/
def Recording (later : W → W → Prop) (recorded : W → ScopeId → Option Outcome) : Prop :=
  ∀ w w', later w w' → ∀ {scope outcome}, recorded w scope = some outcome →
    recorded w' scope = some outcome

/-- A future answers what its scope has recorded by then. -/
def TellsRecorded (recorded : W → ScopeId → Option Outcome) (scope : ScopeId)
    (answer : Option Outcome) (w : W) : Prop := recorded w scope = answer

section
variable (stays : Recording later recorded)
include stays

mutual

theorem Validation.program_meets (validation : Validation) (w : W) :
    validation.program.Meets later (TellsRecorded recorded) (fun answer w' =>
      later w w' ∧ Polled recorded validation.scopes w answer w') w :=
  match validation with
  | .future scope => by
      rw [Validation.program, Validation.scopes]
      refine ⟨trivial, fun answer w₁ asked w₂ moved' => ?_⟩
      obtain ⟨moved, told⟩ := asked
      refine ⟨trans_of later moved moved', ⟨fun outcome hanswer => ?_, fun settled => ?_⟩⟩
      · have hrecorded := stays _ _ moved' (told.trans hanswer)
        exact ⟨[outcome], by simp [hrecorded], by cases outcome <;> rfl⟩
      · obtain ⟨outcome, houtcome⟩ := Option.ne_none_iff_exists'.mp
          (settled scope (List.mem_singleton_self scope))
        rw [← (told : recorded w₁ scope = answer), stays _ _ moved houtcome]
        exact Option.some_ne_none outcome
  | .all parts => by
      rw [Validation.program, Validation.scopes]
      have start : Polled recorded [] w (PollTally.outcome ⟨false, none⟩) w := by
        refine ⟨fun outcome heq => ⟨[], rfl, Option.some.inj heq⟩, fun _ => Option.some_ne_none _⟩
      refine Program.Meets.bind ((Validation.partsProgram_meets parts (refl_of later w) start).mono
        fun tally w' h w'' moved => ⟨trans_of later h.1 moved, ?_⟩)
      exact ⟨fun outcome heq => (h.2.decided outcome heq).later (stays _ _ moved), h.2.complete⟩

theorem Validation.partsProgram_meets (parts : List Validation) {tally : PollTally}
    {scopes : List ScopeId} {w w₁ : W} (moved : later w w₁)
    (h : Polled recorded scopes w tally.outcome w₁) :
    (Validation.partsProgram parts tally).Meets later (TellsRecorded recorded)
      (fun tally' w' => later w w' ∧
        Polled recorded (scopes ++ Validation.scopesOf parts) w tally'.outcome w') w₁ :=
  match parts with
  | [] => by
      rw [Validation.partsProgram, Validation.scopesOf, List.append_nil]
      intro w' moved'
      refine ⟨trans_of later moved moved', fun outcome heq => ?_, h.complete⟩
      exact (h.decided outcome heq).later (stays _ _ moved')
  | part :: parts => by
      rw [Validation.partsProgram, Validation.scopesOf, ← List.append_assoc]
      refine Program.Meets.bind ((Validation.program_meets part w₁).mono fun answer w₂ polled => ?_)
      exact Validation.partsProgram_meets parts (trans_of later moved polled.1)
        (h.append polled.2 (stays _ _ polled.1) (stays _ _ moved))

end

end

end GpuInfo
