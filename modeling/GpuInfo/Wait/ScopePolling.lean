import GpuInfo.Interleaving
import GpuInfo.Wait.ScopeProgram
import Mathlib.Data.Multiset.Count

/-!
Any number of observers polling composed scopes at the same time, on trees that may share
their futures. A poll of a future takes it out of its slot, polls it outside the mutex and
stores what came of it, each step under the mutex or by itself, and the observers take turns
at these steps in any order. An observer that finds a slot empty answers nothing; none of them
ever polls a future that has resolved, or loses one that has not.
-/

namespace GpuInfo
open CallProgram Interleaving

/-- The mutex-protected state of a `Validation::Future`. -/
structure ScopeSlot where
  future : Bool
  outcome : Option Outcome

/-- A poll that has returned: on what, how many polls had returned when it began, its answer,
and what the scopes had recorded then. -/
structure FinishedPoll where
  tree : Validation
  began : Nat
  answer : Option Outcome
  recorded : ScopeId → Option Outcome

structure Scopes where
  slots : ScopeId → ScopeSlot
  /-- The answers of each future, the newest first, how often it has been dropped, and the
  polls that have returned, the oldest first: no code reads these. -/
  answers : ScopeId → List FutureAnswer
  dropped : ScopeId → Nat
  finished : List FinishedPoll

/-- What an observer is about to do. With a future in its hands it goes on with `rest` once
the outcome is stored. -/
inductive PollPhase
  | running (program : ScopeProgram (Option Outcome))
  | taken (scope : ScopeId) (rest : Option Outcome → ScopeProgram (Option Outcome))
  | polled (scope : ScopeId) (answer : FutureAnswer)
      (rest : Option Outcome → ScopeProgram (Option Outcome))

/-- An observer in its poll of a tree: how many polls had returned when it began and what had
been recorded by then, which no code reads. -/
structure Observer where
  tree : Validation
  began : Nat
  first : ScopeId → Option Outcome
  phase : PollPhase

namespace Scopes
variable (s : Scopes)

/-- `Validation::new`, of every future. -/
def new : Scopes := ⟨fun _ => ⟨true, none⟩, fun _ => [], fun _ => 0, []⟩

def recorded (scope : ScopeId) : Option Outcome := (s.slots scope).outcome

/-- A poll of the tree begins. -/
def observer (tree : Validation) : Observer :=
  ⟨tree, s.finished.length, s.recorded, .running tree.program⟩

def take (scope : ScopeId) : Scopes :=
  { s with slots := Function.update s.slots scope { s.slots scope with future := false } }

/-- The first section of `Validation::poll`: the outcome, or the future if it is there. -/
def look (scope : ScopeId) (rest : Option Outcome → ScopeProgram (Option Outcome)) :
    Scopes × PollPhase :=
  match (s.slots scope).outcome, (s.slots scope).future with
  | some outcome, _ => (s, .running (rest (some outcome)))
  | none, true => (s.take scope, .taken scope rest)
  | none, false => (s, .running (rest none))

/-- The future answers, outside the mutex. -/
def hear (scope : ScopeId) (answer : FutureAnswer) : Scopes :=
  { s with answers := Function.update s.answers scope (answer :: s.answers scope) }

/-- The last section. A future that is put back drops what its slot has held; one that is
not is dropped after the section, which nobody can tell from this. -/
def store (scope : ScopeId) (outcome : Option Outcome) : Scopes :=
  let slot := s.slots scope
  let lost := if outcome.isNone then slot.future.toNat else 1
  { s with
    slots := Function.update s.slots scope ⟨outcome.isNone || slot.future, outcome⟩
    dropped := Function.update s.dropped scope (s.dropped scope + lost) }

def finish (o : Observer) (answer : Option Outcome) : Scopes :=
  { s with finished := s.finished ++ [⟨o.tree, o.began, answer, s.recorded⟩] }

end Scopes

/-- One step of one observer, or the first of a new one; what a future answers is up to it. -/
inductive PollRule : Rule Scopes Observer
  | starts (s : Scopes) (tree : Validation) : PollRule s 0 s {s.observer tree}
  | looks (s : Scopes) (o : Observer) {scope : ScopeId}
      {rest : Option Outcome → ScopeProgram (Option Outcome)}
      (h : o.phase = .running (.call scope rest)) :
      PollRule s {o} (s.look scope rest).1 {{ o with phase := (s.look scope rest).2 }}
  | polls (s : Scopes) (o : Observer) {scope : ScopeId}
      {rest : Option Outcome → ScopeProgram (Option Outcome)}
      (h : o.phase = .taken scope rest) (answer : FutureAnswer) :
      PollRule s {o} (s.hear scope answer) {{ o with phase := .polled scope answer rest }}
  | stores (s : Scopes) (o : Observer) {scope : ScopeId} {answer : FutureAnswer}
      {rest : Option Outcome → ScopeProgram (Option Outcome)}
      (h : o.phase = .polled scope answer rest) :
      PollRule s {o} (s.store scope answer.outcome)
        {{ o with phase := .running (rest answer.outcome) }}
  | returns (s : Scopes) (o : Observer) {answer : Option Outcome}
      (h : o.phase = .running (.done answer)) : PollRule s {o} (s.finish o answer) 0

abbrev Polling := Config Scopes Observer

def PollStart (c : Polling) : Prop := c = ⟨.new, 0⟩

/-- The future that an observer has in its hands. -/
def PollPhase.claims : PollPhase → Multiset ScopeId
  | .running _ => 0
  | .taken scope _ | .polled scope _ _ => {scope}

def Observer.claims (o : Observer) : Multiset ScopeId := o.phase.claims

def Observer.holds (scope : ScopeId) (o : Observer) : Nat := o.claims.count scope

/-! Futures are kept -/

section
variable {s : Scopes} {c c' : Polling} {scope scope' : ScopeId}
  {rest : Option Outcome → ScopeProgram (Option Outcome)}

/-- A future that no observer has is in its slot or has been dropped. -/
def Scopes.places (s : Scopes) (scope : ScopeId) : Nat :=
  (s.slots scope).future.toNat + s.dropped scope

theorem Scopes.look_places (s : Scopes) (scope scope' : ScopeId)
    (rest : Option Outcome → ScopeProgram (Option Outcome)) :
    (s.look scope rest).1.places scope' + (s.look scope rest).2.claims.count scope' =
      s.places scope' := by
  unfold look
  split
  · simp [PollPhase.claims]
  · rename_i hfuture
    by_cases h : scope' = scope
    · subst h
      simp [PollPhase.claims, places, take, hfuture, Nat.add_comm]
    · simp [PollPhase.claims, places, take, h]
  · simp [PollPhase.claims]

theorem Scopes.store_places (s : Scopes) (scope scope' : ScopeId) (outcome : Option Outcome) :
    (s.store scope outcome).places scope' =
      s.places scope' + Multiset.count scope' {scope} := by
  by_cases h : scope' = scope
  · subst h
    cases outcome with
    | none =>
        simp [places, store]
        omega
    | some outcome =>
        simp [places, store]
        omega
  · simp [places, store, h]

/-- No step loses or doubles a future. -/
theorem polling_places (scope : ScopeId) (step : Step PollRule c c') :
    c'.shared.places scope + c'.held (Observer.holds scope) =
      c.shared.places scope + c.held (Observer.holds scope) := by
  refine step.conserves (g := (Scopes.places · scope)) fun s taken s' left rule => ?_
  cases rule with
  | starts _ tree => simp [Observer.holds, Observer.claims, Scopes.observer, PollPhase.claims]
  | looks _ o h =>
      simp only [Multiset.map_singleton, Multiset.sum_singleton, Observer.holds,
        Observer.claims, h, Scopes.look_places]
      simp [PollPhase.claims]
  | polls _ o h answer =>
      simp [Observer.holds, Observer.claims, h, PollPhase.claims, Scopes.places, Scopes.hear]
  | stores _ o h =>
      simp [Observer.holds, Observer.claims, h, PollPhase.claims, Scopes.store_places]
  | returns _ o h =>
      simp [Observer.holds, Observer.claims, h, PollPhase.claims, Scopes.places, Scopes.finish]

theorem future_placed (hc : Reachable PollStart (Step PollRule) c) (scope : ScopeId) :
    c.shared.places scope + c.held (Observer.holds scope) = 1 := by
  refine hc.invariant (I := fun c => c.shared.places scope + c.held (Observer.holds scope) = 1)
    (fun c start => ?_) fun c c' placed step => (polling_places scope step).trans placed
  rw [start]
  rfl

/-- No two observers have one future. -/
theorem claims_apart (hc : Reachable PollStart (Step PollRule) c) :
    (c.held Observer.claims).Nodup := by
  refine Multiset.nodup_iff_count_le_one.mpr fun scope => ?_
  have placed := future_placed hc scope
  have counted : Multiset.count scope (c.held Observer.claims) = c.held (Observer.holds scope) :=
    Config.map_held (Multiset.countAddMonoidHom scope) Observer.claims c
  omega

/-! What an observer knows -/

/-- What is recorded stays. -/
def Stays (recorded recorded' : ScopeId → Option Outcome) : Prop :=
  ∀ scope outcome, recorded scope = some outcome → recorded' scope = some outcome

instance : IsPreorder (ScopeId → Option Outcome) Stays where
  refl _ _ _ h := h
  trans _ _ _ h h' scope outcome hrecorded := h' scope outcome (h scope outcome hrecorded)

abbrev KnownMeets := Program.Meets (Q := ScopeId) (R := fun _ => Option Outcome)
  (α := Option Outcome) Stays (TellsRecorded id)

/-- A future in somebody's hands has not resolved; its answer is known once it has been polled. -/
def PollPhase.Sound (s : Scopes) (post : Option Outcome → (ScopeId → Option Outcome) → Prop) :
    PollPhase → Prop
  | .running program => KnownMeets post program s.recorded
  | .taken scope rest =>
      s.slots scope = ⟨false, none⟩ ∧ (∀ answer ∈ s.answers scope, answer.outcome = none) ∧
      KnownMeets post (.call scope rest) s.recorded
  | .polled scope answer rest =>
      s.slots scope = ⟨false, none⟩ ∧ (∃ past, s.answers scope = answer :: past ∧
        ∀ answer ∈ past, answer.outcome = none) ∧
      KnownMeets post (.call scope rest) s.recorded

structure Observer.Sound (s : Scopes) (o : Observer) : Prop where
  began : o.began ≤ s.finished.length
  earlier : ∀ poll ∈ s.finished.take o.began, Stays poll.recorded o.first
  phase : o.phase.Sound s (Polled id o.tree.scopes o.first)

/-- What a slot says of the answers its future has given, and of whether it was dropped. -/
structure ScopeSlot.Sound (slot : ScopeSlot) (answers : List FutureAnswer) (dropped : Nat) :
    Prop where
  once : ∀ answer ∈ answers.tail, answer.outcome = none
  there : slot.future = true → slot.outcome = none ∧ ∀ answer ∈ answers, answer.outcome = none
  unsettled : slot.outcome = none → dropped = 0
  settled : ∀ outcome, slot.outcome = some outcome →
    ∃ answer past, answers = answer :: past ∧ answer.outcome = some outcome

structure FinishedPoll.Sound (s : Scopes) (poll : FinishedPoll) : Prop where
  stays : Stays poll.recorded s.recorded
  began : poll.began ≤ s.finished.length
  decided : ∀ outcome, poll.answer = some outcome →
    Verdict poll.recorded poll.tree.scopes outcome
  stable : ∀ earlier ∈ s.finished.take poll.began, earlier.tree = poll.tree →
    ∀ outcome, earlier.answer = some outcome → poll.answer = some outcome

structure Scopes.Sound (s : Scopes) : Prop where
  slot : ∀ scope, (s.slots scope).Sound (s.answers scope) (s.dropped scope)
  finished : ∀ poll ∈ s.finished, poll.Sound s

/-- What a step may do to the state: it leaves the scopes it has no claim to as they are. -/
structure Scopes.Moves (s s' : Scopes) (claims : Multiset ScopeId) : Prop where
  stays : Stays s.recorded s'.recorded
  finished : ∃ more, s'.finished = s.finished ++ more
  others : ∀ scope ∉ claims, s'.slots scope = s.slots scope ∧
    s'.answers scope = s.answers scope ∧ s'.dropped scope = s.dropped scope

theorem Observer.Sound.moves {s' : Scopes} {o : Observer} {claims : Multiset ScopeId}
    (h : o.Sound s) (moves : s.Moves s' claims) (apart : Disjoint o.claims claims) :
    o.Sound s' := by
  obtain ⟨more, hmore⟩ := moves.finished
  refine ⟨?_, ?_, ?_⟩
  · rw [hmore, List.length_append]
    exact Nat.le_add_right_of_le h.began
  · rw [hmore, List.take_append_of_le_length h.began]
    exact h.earlier
  · obtain ⟨tree, began, first, phase⟩ := o
    have own : ∀ scope ∈ phase.claims, s'.slots scope = s.slots scope ∧
        s'.answers scope = s.answers scope ∧ s'.dropped scope = s.dropped scope :=
      fun scope hscope => moves.others scope (Multiset.disjoint_left.mp apart hscope)
    cases phase with
    | running program => exact Program.Meets.moved h.phase moves.stays
    | taken scope rest | polled scope answer rest =>
        obtain ⟨hslot, hanswers, hmeets⟩ := h.phase
        obtain ⟨hslots, hsame, -⟩ := own scope (Multiset.mem_singleton_self scope)
        simp only [PollPhase.Sound, hslots, hsame]
        exact ⟨hslot, hanswers, Program.Meets.moved hmeets moves.stays⟩

theorem FinishedPoll.Sound.moves {s' : Scopes} {poll : FinishedPoll} {claims : Multiset ScopeId}
    (h : poll.Sound s) (moves : s.Moves s' claims) : poll.Sound s' := by
  obtain ⟨more, hmore⟩ := moves.finished
  refine ⟨trans_of Stays h.stays moves.stays, ?_, h.decided, ?_⟩
  · rw [hmore, List.length_append]
    exact Nat.le_add_right_of_le h.began
  · rw [hmore, List.take_append_of_le_length h.began]
    exact h.stable

theorem Scopes.Sound.moves {s' : Scopes} {claims : Multiset ScopeId} (h : s.Sound)
    (moves : s.Moves s' claims)
    (slot : ∀ scope ∈ claims, (s'.slots scope).Sound (s'.answers scope) (s'.dropped scope))
    (finished : s'.finished = s.finished) : s'.Sound := by
  refine ⟨fun scope => ?_, fun poll hpoll => ?_⟩
  · by_cases hscope : scope ∈ claims
    · exact slot scope hscope
    · obtain ⟨hslots, hanswers, hdropped⟩ := moves.others scope hscope
      rw [hslots, hanswers, hdropped]
      exact h.slot scope
  · rw [finished] at hpoll
    exact (h.finished poll hpoll).moves moves

/-! One step -/

theorem Scopes.Moves.refl (s : Scopes) : s.Moves s 0 :=
  ⟨refl_of Stays _, ⟨[], (List.append_nil _).symm⟩, fun _ _ => ⟨rfl, rfl, rfl⟩⟩

theorem Scopes.take_moves (s : Scopes) (scope : ScopeId) : s.Moves (s.take scope) {scope} := by
  refine ⟨fun scope' outcome h => ?_, ⟨[], (List.append_nil _).symm⟩, fun scope' hscope' => ?_⟩
  · by_cases heq : scope' = scope
    · subst heq
      simpa [recorded, take] using h
    · simpa [recorded, take, heq] using h
  · simp [take, Multiset.mem_singleton.not.mp hscope']

theorem Scopes.hear_moves (s : Scopes) (scope : ScopeId) (answer : FutureAnswer) :
    s.Moves (s.hear scope answer) {scope} := by
  refine ⟨refl_of Stays _, ⟨[], (List.append_nil _).symm⟩, fun scope' hscope' => ?_⟩
  simp [hear, Multiset.mem_singleton.not.mp hscope']

/-- Storing what has come of an unsettled future takes nothing back. -/
theorem Scopes.store_moves (s : Scopes) (scope : ScopeId) (outcome : Option Outcome)
    (unsettled : s.recorded scope = none) : s.Moves (s.store scope outcome) {scope} := by
  refine ⟨fun scope' outcome' h => ?_, ⟨[], (List.append_nil _).symm⟩, fun scope' hscope' => ?_⟩
  · have hne : scope' ≠ scope := by
      intro heq
      cases unsettled.symm.trans (heq ▸ h)
    simpa [recorded, store, hne] using h
  · simp [store, Multiset.mem_singleton.not.mp hscope']

variable {o : Observer}

theorem Observer.Sound.at_phase (h : o.Sound s) {phase : PollPhase}
    (sound : phase.Sound s (Polled id o.tree.scopes o.first)) :
    ({ o with phase } : Observer).Sound s := ⟨h.began, h.earlier, sound⟩

theorem Scopes.Sound.starts (h : s.Sound) (tree : Validation) : (s.observer tree).Sound s where
  began := le_rfl
  earlier poll hpoll := (h.finished poll (List.mem_of_mem_take hpoll)).stays
  phase := (tree.program_meets (fun _ _ stays => stays _ _) s.recorded).mono fun _ _ met => met.2

theorem Scopes.Sound.looks (h : s.Sound) (ho : o.Sound s)
    (hphase : o.phase = .running (.call scope rest)) :
    (s.look scope rest).1.Sound ∧
      ({ o with phase := (s.look scope rest).2 } : Observer).Sound (s.look scope rest).1 ∧
      s.Moves (s.look scope rest).1 (s.look scope rest).2.claims := by
  have meets : KnownMeets (Polled id o.tree.scopes o.first) (.call scope rest) s.recorded := by
    have running := ho.phase
    rw [hphase] at running
    exact running
  unfold Scopes.look
  split
  · rename_i outcome _ houtcome
    refine ⟨h, ho.at_phase ?_, .refl s⟩
    exact meets.2 _ s.recorded ⟨refl_of Stays _, houtcome⟩
  · rename_i hnone hfuture
    have moves := s.take_moves scope
    have pending := ((h.slot scope).there hfuture).2
    have empty : (s.take scope).slots scope = ⟨false, none⟩ := by simp [Scopes.take, hnone]
    refine ⟨h.moves moves (fun scope' hscope' => ?_) rfl, ?_, moves⟩
    · rw [Multiset.mem_singleton.mp hscope', empty]
      exact ⟨(h.slot scope).once, by simp, fun _ => (h.slot scope).unsettled hnone, by simp⟩
    · have before : ({ o with phase := .running (.call scope rest) } : Observer).Sound s :=
        ho.at_phase meets
      refine (before.moves moves (Multiset.disjoint_left.mpr (by simp [Observer.claims,
        PollPhase.claims]))).at_phase ⟨empty, pending, ?_⟩
      exact Program.Meets.moved meets moves.stays
  · rename_i hnone _
    refine ⟨h, ho.at_phase ?_, .refl s⟩
    exact meets.2 _ s.recorded ⟨refl_of Stays _, hnone⟩

theorem Scopes.Sound.polls (h : s.Sound) (ho : o.Sound s) (hphase : o.phase = .taken scope rest)
    (answer : FutureAnswer) :
    (s.hear scope answer).Sound ∧
      ({ o with phase := .polled scope answer rest } : Observer).Sound (s.hear scope answer) := by
  have taken := ho.phase
  rw [hphase] at taken
  obtain ⟨hslot, pending, meets⟩ := taken
  have moves := s.hear_moves scope answer
  have heard : (s.hear scope answer).answers scope = answer :: s.answers scope := by
    simp [Scopes.hear]
  refine ⟨h.moves moves (fun scope' hscope' => ?_) rfl, ?_⟩
  · rw [Multiset.mem_singleton.mp hscope', heard]
    show (s.slots scope).Sound (answer :: s.answers scope) (s.dropped scope)
    rw [hslot]
    refine ⟨pending, by simp, fun _ => ?_, by simp⟩
    exact (h.slot scope).unsettled (by rw [hslot])
  · exact ⟨ho.began, ho.earlier, hslot, ⟨s.answers scope, heard, pending⟩, meets⟩

theorem Scopes.Sound.stores (h : s.Sound) (ho : o.Sound s) {answer : FutureAnswer}
    (hphase : o.phase = .polled scope answer rest) :
    (s.store scope answer.outcome).Sound ∧
      ({ o with phase := .running (rest answer.outcome) } : Observer).Sound
        (s.store scope answer.outcome) ∧
      s.Moves (s.store scope answer.outcome) {scope} := by
  have polled := ho.phase
  rw [hphase] at polled
  obtain ⟨hslot, ⟨past, hanswers, pending⟩, meets⟩ := polled
  have unsettled : s.recorded scope = none := by rw [Scopes.recorded, hslot]
  have moves := s.store_moves scope answer.outcome unsettled
  have undropped : s.dropped scope = 0 := (h.slot scope).unsettled (by rw [hslot])
  have stored : (s.store scope answer.outcome).slots scope =
      ⟨answer.outcome.isNone, answer.outcome⟩ := by simp [Scopes.store, hslot]
  refine ⟨h.moves moves (fun scope' hscope' => ?_) rfl, ?_, moves⟩
  · rw [Multiset.mem_singleton.mp hscope', stored]
    show ScopeSlot.Sound _ (s.answers scope) _
    rw [hanswers]
    refine ⟨pending, fun hnone => ?_, fun hnone => ?_, fun outcome houtcome => ?_⟩
    · have hnone : answer.outcome = none := Option.isNone_iff_eq_none.mp hnone
      exact ⟨hnone, List.forall_mem_cons.mpr ⟨hnone, pending⟩⟩
    · have hnone : answer.outcome = none := hnone
      simp [Scopes.store, hslot, hnone, undropped]
    · exact ⟨answer, past, rfl, houtcome⟩
  · refine ⟨ho.began, ho.earlier, ?_⟩
    refine meets.2 answer.outcome _ ⟨moves.stays, ?_⟩
    show ((s.store scope answer.outcome).slots scope).outcome = _
    rw [stored]

theorem Scopes.Sound.returns (h : s.Sound) (ho : o.Sound s) {answer : Option Outcome}
    (hphase : o.phase = .running (.done answer)) :
    (s.finish o answer).Sound ∧ s.Moves (s.finish o answer) 0 := by
  have polled : Polled id o.tree.scopes o.first answer s.recorded := by
    have running := ho.phase
    rw [hphase] at running
    exact running s.recorded (refl_of Stays _)
  have moves : s.Moves (s.finish o answer) 0 :=
    ⟨refl_of Stays _, ⟨_, rfl⟩, fun _ _ => ⟨rfl, rfl, rfl⟩⟩
  refine ⟨⟨h.slot, fun poll hpoll => ?_⟩, moves⟩
  cases List.mem_append.mp hpoll with
  | inl hold => exact (h.finished poll hold).moves moves
  | inr hnew =>
      rw [List.mem_singleton.mp hnew]
      refine ⟨refl_of Stays _, ?_, polled.decided, fun earlier hearlier htree outcome hanswer => ?_⟩
      · rw [Scopes.finish, List.length_append]
        exact Nat.le_add_right_of_le ho.began
      · have hearlier : earlier ∈ s.finished.take o.began := by
          rw [← List.take_append_of_le_length ho.began]
          exact hearlier
        have htree : earlier.tree = o.tree := htree
        have sound := h.finished earlier (List.mem_of_mem_take hearlier)
        have verdict := sound.decided outcome hanswer
        rw [htree] at verdict
        have settled : ∀ scope ∈ o.tree.scopes, o.first scope ≠ none :=
          (verdict.later fun hrecorded => ho.earlier earlier hearlier _ _ hrecorded).settled
        obtain ⟨outcome', houtcome'⟩ := Option.ne_none_iff_exists'.mp (polled.complete settled)
        have verdict' : Verdict s.recorded o.tree.scopes outcome' :=
          polled.decided outcome' houtcome'
        have same : outcome = outcome' :=
          (verdict.later fun hrecorded => sound.stays _ _ hrecorded).unique verdict'
        exact same ▸ houtcome'

/-- What is recorded stays, whatever an observer does. -/
theorem pollRule_stays {s s' : Scopes} {taken left : Multiset Observer}
    (rule : PollRule s taken s' left) (h : s.Sound) (ho : ∀ o ∈ taken, o.Sound s) :
    Stays s.recorded s'.recorded := by
  cases rule with
  | starts _ tree => exact refl_of Stays _
  | looks _ o hphase => exact (h.looks (ho o (Multiset.mem_singleton_self o)) hphase).2.2.stays
  | polls _ o hphase answer => exact (s.hear_moves _ answer).stays
  | stores _ o hphase => exact (h.stores (ho o (Multiset.mem_singleton_self o)) hphase).2.2.stays
  | returns _ o hphase =>
      exact (h.returns (ho o (Multiset.mem_singleton_self o)) hphase).2.stays

/-- An observer goes on with its own tree. -/
theorem pollRule_tree {s s' : Scopes} {taken left : Multiset Observer}
    (rule : PollRule s taken s' left) {o o' : Observer} (before : taken = {o})
    (after : left = {o'}) : o'.tree = o.tree := by
  cases rule with
  | starts _ tree => exact absurd before.symm (Multiset.singleton_ne_zero o)
  | looks _ _ _ | polls _ _ _ _ | stores _ _ _ =>
      cases Multiset.singleton_inj.mp before
      cases Multiset.singleton_inj.mp after
      rfl
  | returns _ _ _ => exact absurd after.symm (Multiset.singleton_ne_zero o')

/-- Each step keeps the state sound, and every observer with it. -/
theorem pollRule_sound (s : Scopes) (taken : Multiset Observer) (s' : Scopes)
    (left : Multiset Observer) (rule : PollRule s taken s' left) (h : s.Sound)
    (ho : ∀ o ∈ taken, o.Sound s) :
    s'.Sound ∧ (∀ o ∈ left, o.Sound s') ∧
      ∀ o : Observer, Disjoint o.claims (taken.map Observer.claims).sum →
        Disjoint o.claims (left.map Observer.claims).sum → o.Sound s → o.Sound s' := by
  cases rule with
  | starts _ tree =>
      exact ⟨h, leaves_one (h.starts tree), fun _ _ _ sound => sound⟩
  | looks _ o hphase =>
      obtain ⟨sound, observer, moves⟩ := h.looks (ho o (Multiset.mem_singleton_self o)) hphase
      refine ⟨sound, leaves_one observer, fun other _ apart hother => ?_⟩
      exact hother.moves moves (by simpa [Observer.claims] using apart)
  | polls _ o hphase answer =>
      obtain ⟨sound, observer⟩ := h.polls (ho o (Multiset.mem_singleton_self o)) hphase answer
      refine ⟨sound, leaves_one observer, fun other apart _ hother => ?_⟩
      refine hother.moves (s.hear_moves _ answer) ?_
      simpa [Observer.claims, hphase, PollPhase.claims] using apart
  | stores _ o hphase =>
      obtain ⟨sound, observer, moves⟩ := h.stores (ho o (Multiset.mem_singleton_self o)) hphase
      refine ⟨sound, leaves_one observer, fun other apart _ hother => ?_⟩
      refine hother.moves moves ?_
      simpa [Observer.claims, hphase, PollPhase.claims] using apart
  | returns _ o hphase =>
      obtain ⟨sound, moves⟩ := h.returns (ho o (Multiset.mem_singleton_self o)) hphase
      refine ⟨sound, fun o' hmem => ?_, fun other _ _ hother => hother.moves moves ?_⟩
      · cases Multiset.notMem_zero o' hmem
      · exact Multiset.disjoint_right.mpr fun hmem => absurd hmem (Multiset.notMem_zero _)

/-! Runs -/

theorem Scopes.new_sound : Scopes.new.Sound where
  slot _ := ⟨by simp [new], by simp [new], fun _ => rfl, by simp [new]⟩
  finished _ hpoll := by cases hpoll

theorem polling_sound (hc : Reachable PollStart (Step PollRule) c) :
    c.shared.Sound ∧ ∀ o ∈ c.running, o.Sound c.shared := by
  have both := hc.invariant (I := fun c => Reachable PollStart (Step PollRule) c ∧
    c.shared.Sound ∧ ∀ o ∈ c.running, o.Sound c.shared) (fun c start => ?_) fun c c' h step => ?_
  · exact both.2
  · refine ⟨.start start, ?_⟩
    rw [start]
    exact ⟨Scopes.new_sound, fun o ho => by cases Multiset.notMem_zero o ho⟩
  · obtain ⟨hc, sound⟩ := h
    have hc' := hc.next step
    exact ⟨hc', step.keeps_claims pollRule_sound (claims_apart hc) (claims_apart hc') sound⟩

/-- What holds of composed scopes whoever polls them. -/
structure Polling.Stable (c : Polling) : Prop where
  /-- A poll answers only once all scopes below have settled, with the first failure. -/
  decided : ∀ poll ∈ c.shared.finished, ∀ outcome, poll.answer = some outcome →
    Verdict poll.recorded poll.tree.scopes outcome
  /-- A poll that begins after one of the same tree has answered answers the same. -/
  stable : ∀ poll ∈ c.shared.finished, ∀ earlier ∈ c.shared.finished.take poll.began,
    earlier.tree = poll.tree → ∀ outcome, earlier.answer = some outcome →
      poll.answer = some outcome
  agreed : ∀ poll ∈ c.shared.finished, ∀ poll' ∈ c.shared.finished, poll.tree = poll'.tree →
    ∀ outcome outcome', poll.answer = some outcome → poll'.answer = some outcome' →
      outcome = outcome'
  /-- What a scope records is the last answer of its future. -/
  recorded : ∀ scope outcome, c.shared.recorded scope = some outcome →
    ∃ answer past, c.shared.answers scope = answer :: past ∧ answer.outcome = some outcome
  once : ∀ scope, ∀ answer ∈ (c.shared.answers scope).tail, answer.outcome = none
  alone : ∀ scope, c.held (Observer.holds scope) ≤ 1
  kept : ∀ scope, c.shared.recorded scope = none → c.shared.dropped scope = 0 ∧
    (c.shared.slots scope).future.toNat + c.held (Observer.holds scope) = 1

/-- However the polls of any number of observers take turns, and whatever the futures answer. -/
theorem composed_scopes_stable (hc : Reachable PollStart (Step PollRule) c) : c.Stable where
  decided poll hpoll := ((polling_sound hc).1.finished poll hpoll).decided
  stable poll hpoll := ((polling_sound hc).1.finished poll hpoll).stable
  agreed poll hpoll poll' hpoll' htree outcome outcome' hanswer hanswer' := by
    have sound := (polling_sound hc).1.finished poll hpoll
    have sound' := (polling_sound hc).1.finished poll' hpoll'
    have verdict := sound.decided outcome hanswer
    rw [htree] at verdict
    have now := verdict.later fun hrecorded => sound.stays _ _ hrecorded
    exact now.unique ((sound'.decided outcome' hanswer').later
      fun hrecorded => sound'.stays _ _ hrecorded)
  recorded scope := ((polling_sound hc).1.slot scope).settled
  once scope := ((polling_sound hc).1.slot scope).once
  alone scope := by
    have placed := future_placed hc scope
    omega
  kept scope unsettled := by
    have placed := future_placed hc scope
    have undropped := ((polling_sound hc).1.slot scope).unsettled unsettled
    rw [Scopes.places, undropped] at placed
    exact ⟨undropped, placed⟩

/-- Two observers poll one future, which rejects: the second finds it taken. -/
theorem composed_scopes_stable_two_observers :
    ∃ c, Reachable PollStart (Step PollRule) c ∧
      c.shared.finished.map (·.answer) = [none, some (.error (.submitRejected "oom"))] ∧
      c.Stable := by
  have start : Reachable PollStart (Step PollRule) ⟨.new, 0⟩ := .start rfl
  have first := start.fire 0 (.starts .new (.future (.submission 0))) rfl
  have second := first.fire _ (.starts .new (.future (.submission 0))) (zero_add _).symm
  have taken := second.fire _ (.looks _ _ rfl) rfl
  have away := taken.fire _ (.looks _ _ rfl) (add_left_comm _ _ _)
  have nothing := away.fire _ (.returns _ _ rfl) rfl
  have heard := nothing.fire 0 (.polls _ _ rfl (.ready none (some "oom") none)) (zero_add _)
  have stored := heard.fire 0 (.stores _ _ rfl) rfl
  have rejected := stored.fire 0 (.returns _ _ rfl) rfl
  exact ⟨_, rejected, rfl, composed_scopes_stable rejected⟩

end

end GpuInfo
