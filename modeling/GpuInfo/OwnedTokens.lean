import GpuInfo.CallProgram
import GpuInfo.Interleaving
import Mathlib.Algebra.Order.Sub.Basic

/-!
Objects that are made and destroyed by calls, and have one owner at every moment: a thread that
runs a program, or whoever has been handed a parcel of them. A program is gone through by itself,
with what it owns at each point. Of any number of threads, each then only names what is its own,
and nothing is lost.
-/

namespace OwnedTokens
open CallProgram Interleaving

structure Signature where
  Question : Type
  Reply : Question → Type
  Token : Type
  /-- What must be owned, and what must not, to make a call. -/
  allowed : Question → Multiset Token → Prop
  /-- What a call destroys, hands over as one parcel and makes, by its answer. -/
  spent : (question : Question) → Reply question → Multiset Token
  handed : (question : Question) → Reply question → Multiset Token
  made : (question : Question) → Reply question → Multiset Token

variable (S : Signature)

/-- A program answers with what its caller gets. -/
abbrev Routine := Program S.Question S.Reply (Multiset S.Token)

structure Thread where
  owned : Multiset S.Token
  rest : Routine S

structure Memory where
  live : Multiset S.Token
  /-- What has been handed over together, and waits for somebody to take it. -/
  parcels : Multiset (Multiset S.Token)
  /-- What a thread still owned when it ended: no code reads this. -/
  lost : Multiset S.Token

variable {S} [DecidableEq S.Token]

/-- What is left of it once a call is answered. -/
def after (owned : Multiset S.Token) (question : S.Question) (reply : S.Reply question) :
    Multiset S.Token :=
  owned - (S.spent question reply + S.handed question reply) + S.made question reply

def Memory.answer (m : Memory S) (question : S.Question) (reply : S.Reply question) : Memory S :=
  { m with
    live := m.live - S.spent question reply + S.made question reply
    parcels := m.parcels + {S.handed question reply} }

/-- `entry parcel routine`: whoever takes the parcel runs the routine. -/
inductive ThreadRule (entry : Multiset S.Token → Routine S → Prop) :
    Rule (Memory S) (Thread S)
  | begins {m : Memory S} {routine : Routine S} (h : entry 0 routine) :
      ThreadRule entry m 0 m {⟨0, routine⟩}
  | takes {m : Memory S} {parcels : Multiset (Multiset S.Token)} {parcel : Multiset S.Token}
      {routine : Routine S} (there : m.parcels = parcel ::ₘ parcels)
      (h : entry parcel routine) :
      ThreadRule entry m 0 { m with parcels := parcels } {⟨parcel, routine⟩}
  /-- What is made is none of what there is. -/
  | answers {m : Memory S} {owned : Multiset S.Token} {question : S.Question}
      {rest : S.Reply question → Routine S} (reply : S.Reply question)
      (once : (S.made question reply).Nodup) (fresh : Disjoint (S.made question reply) m.live) :
      ThreadRule entry m {⟨owned, .call question rest⟩} (m.answer question reply)
        {⟨after owned question reply, rest reply⟩}
  | ends {m : Memory S} {owned given : Multiset S.Token} :
      ThreadRule entry m {⟨owned, .done given⟩}
        { m with parcels := m.parcels + {given}, lost := m.lost + (owned - given) } 0

abbrev ThreadConfig (S : Signature) := Config (Memory S) (Thread S)

def ThreadStart (c : ThreadConfig S) : Prop := c = ⟨⟨0, 0, 0⟩, 0⟩

/-! One program -/

/-- Each call is allowed with what is owned there, whatever it answers what it takes away is
owned, and what is owned before turns into what is left. -/
def Turns {α : Type} (program : Program S.Question S.Reply α) (before : Multiset S.Token)
    (left : α → Multiset S.Token) : Prop :=
  program.Safe
    (fun owned question => S.allowed question owned ∧
      ∀ reply, S.spent question reply + S.handed question reply ≤ owned)
    (fun owned question reply owned' => owned' = after owned question reply)
    (fun a owned => owned = left a) before

/-- All that is left goes to the caller. -/
def Routine.Owns (routine : Routine S) (owned : Multiset S.Token) : Prop := Turns routine owned id

section Turns
variable {α β : Type} {before owned : Multiset S.Token} {left : α → Multiset S.Token}

theorem Turns.pure (a : α) (h : before = left a) :
    Turns (pure a : Program S.Question S.Reply α) before left := h

theorem Turns.bind {program : Program S.Question S.Reply α}
    {next : α → Program S.Question S.Reply β} {left' : β → Multiset S.Token}
    (h : Turns program before left) (h' : ∀ a, Turns (next a) (left a) left') :
    Turns (program >>= next) before left' := by
  refine Program.Safe.bind (Program.Safe.mono h ?_)
  rintro a _ rfl
  exact h' a

/-- A call that takes away what is known before. -/
theorem Turns.trades (gone : Multiset S.Token) (question : S.Question)
    (allowed : S.allowed question (gone + owned))
    (taken : ∀ reply, S.spent question reply + S.handed question reply = gone) :
    Turns (.call question .done) (gone + owned) fun reply => S.made question reply + owned := by
  refine ⟨⟨allowed, fun reply => ?_⟩, ?_⟩
  · rw [taken]
    exact Multiset.le_add_right gone owned
  · rintro reply _ rfl
    show after (gone + owned) question reply = S.made question reply + owned
    rw [after, taken, add_tsub_cancel_left, add_comm]

/-- A call that takes nothing away. -/
theorem Turns.gains (question : S.Question) (allowed : S.allowed question owned)
    (taken : ∀ reply, S.spent question reply + S.handed question reply = 0) :
    Turns (.call question .done) owned fun reply => S.made question reply + owned := by
  have there : S.allowed question (0 + owned) := by rwa [zero_add]
  have trades := Turns.trades 0 question there taken
  rwa [zero_add] at trades

/-- A call that makes nothing. -/
theorem Turns.gives (gone : Multiset S.Token) (question : S.Question)
    (allowed : S.allowed question (gone + owned))
    (taken : ∀ reply, S.spent question reply + S.handed question reply = gone)
    (made : ∀ reply, S.made question reply = 0) :
    Turns (.call question .done) (gone + owned) fun _ => owned := by
  have trades := Turns.trades gone question allowed taken
  simp only [made, zero_add] at trades
  exact trades

/-- A call that does neither. -/
theorem Turns.looks (question : S.Question) (allowed : S.allowed question owned)
    (taken : ∀ reply, S.spent question reply + S.handed question reply = 0)
    (made : ∀ reply, S.made question reply = 0) :
    Turns (.call question .done) owned fun _ => owned := by
  have gains := Turns.gains question allowed taken
  simp only [made, zero_add] at gains
  exact gains

/-- What is left goes to the caller. -/
theorem Turns.owns {program : Program S.Question S.Reply α} (h : Turns program before left) :
    Routine.Owns (program >>= fun a => .done (left a)) before :=
  Turns.bind h fun _ => rfl

end Turns

/-- Each parcel that comes out of it is as `P` says. -/
def Routine.Hands (P : Multiset S.Token → Prop) (routine : Routine S) : Prop :=
  routine.Safe (fun _ question => ∀ reply, P (S.handed question reply))
    (fun _ _ _ _ => True) (fun given _ => P given) ()

omit [DecidableEq S.Token] in
/-- Where the calls hand over what they should, only what the caller gets is left to see. -/
theorem Routine.hands_bind {P : Multiset S.Token → Prop} {α : Type}
    (handed : ∀ question reply, P (S.handed question reply))
    (program : Program S.Question S.Reply α) {rest : α → Routine S}
    (goesOn : ∀ a, (rest a).Hands P) : Routine.Hands P (program >>= rest) := by
  induction program with
  | done a => exact goesOn a
  | call question next ih => exact ⟨handed question, fun reply _ _ => ih reply⟩

/-! Any number of threads -/

section Runs
variable {entry : Multiset S.Token → Routine S → Prop}

structure ThreadConfig.Sound (c : ThreadConfig S) : Prop where
  threads : ∀ thread ∈ c.running, thread.rest.Owns thread.owned
  live : c.shared.live = c.shared.parcels.sum + c.held Thread.owned
  once : c.shared.live.Nodup
  kept : c.shared.lost = 0

theorem answer_live {owned others : Multiset S.Token} {question : S.Question}
    {reply : S.Reply question} {m : Memory S}
    (taken : S.spent question reply + S.handed question reply ≤ owned)
    (h : m.live = m.parcels.sum + (owned + others)) :
    (m.answer question reply).live =
        (m.answer question reply).parcels.sum + (after owned question reply + others) ∧
      m.live - S.spent question reply ≤ m.live := by
  obtain ⟨rest, rfl⟩ := Multiset.le_iff_exists_add.mp taken
  refine ⟨?_, Multiset.sub_le_self _ _⟩
  simp only [Memory.answer, after, h, Multiset.sum_add, Multiset.sum_singleton,
    add_tsub_cancel_left]
  rw [show m.parcels.sum + (S.spent question reply + S.handed question reply + rest + others) =
    S.spent question reply + (m.parcels.sum + S.handed question reply + rest + others) by ac_rfl,
    add_tsub_cancel_left]
  ac_rfl

theorem started : Reachable ThreadStart (Step (ThreadRule entry)) ⟨⟨0, 0, 0⟩, 0⟩ := .start rfl

/-- A thread that is alone goes on with an answer. -/
theorem answered (question : S.Question) {m : Memory S} {owned : Multiset S.Token}
    {rest : S.Reply question → Routine S}
    (hc : Reachable ThreadStart (Step (ThreadRule entry)) ⟨m, {⟨owned, .call question rest⟩}⟩)
    (reply : S.Reply question) (once : (S.made question reply).Nodup)
    (fresh : Disjoint (S.made question reply) m.live) :
    Reachable ThreadStart (Step (ThreadRule entry))
      ⟨m.answer question reply, {⟨after owned question reply, rest reply⟩}⟩ :=
  hc.fire 0 (.answers reply once fresh) rfl

variable (owns : ∀ parcel routine, entry parcel routine → routine.Owns parcel)
include owns

theorem threadRule_owns (m : Memory S) (taken : Multiset (Thread S)) (m' : Memory S)
    (left : Multiset (Thread S)) (rule : ThreadRule entry m taken m' left)
    (h : ∀ thread ∈ taken, thread.rest.Owns thread.owned) :
    ∀ thread ∈ left, thread.rest.Owns thread.owned := by
  cases rule with
  | begins hentry => exact leaves_one (owns _ _ hentry)
  | takes _ hentry => exact leaves_one (owns _ _ hentry)
  | answers reply =>
      have routine := h _ (Multiset.mem_singleton_self _)
      exact leaves_one (routine.2 reply _ rfl)
  | ends => exact leaves_none

theorem ThreadConfig.Sound.step {c c' : ThreadConfig S} (h : c.Sound)
    (step : Step (ThreadRule entry) c c') : c'.Sound := by
  obtain ⟨others, rule⟩ := step
  obtain ⟨threads, live, once, kept⟩ := h
  rename_i m m' taken left
  have owned := threadRule_owns owns m taken m' left rule
    fun thread hthread => threads thread (Multiset.mem_add.mpr (.inl hthread))
  have all : ∀ thread ∈ left + others, thread.rest.Owns thread.owned := by
    intro thread hthread
    cases Multiset.mem_add.mp hthread with
    | inl hleft => exact owned thread hleft
    | inr hothers => exact threads thread (Multiset.mem_add.mpr (.inr hothers))
  simp only [Config.held, Multiset.map_add, Multiset.sum_add] at live
  cases rule with
  | begins _ =>
      refine ⟨all, ?_, once, kept⟩
      simpa [Config.held] using live
  | takes there _ =>
      refine ⟨all, ?_, once, kept⟩
      rw [there] at live
      simp only [Multiset.sum_cons, Multiset.map_zero, Multiset.sum_zero, zero_add] at live
      simp only [Config.held, Multiset.map_add, Multiset.map_singleton, Multiset.sum_add,
        Multiset.sum_singleton, live]
      ac_rfl
  | @answers _ own question rest reply made fresh =>
      have routine : Routine.Owns (.call question rest) own :=
        threads _ (Multiset.mem_add.mpr (.inl (Multiset.mem_singleton_self _)))
      have hlive : m.live = m.parcels.sum + (own + (others.map Thread.owned).sum) := by
        simpa using live
      obtain ⟨live', less⟩ := answer_live (routine.1.2 reply) hlive
      refine ⟨all, ?_, ?_, kept⟩
      · simpa [Config.held] using live'
      · refine Multiset.nodup_add.mpr ⟨Multiset.nodup_of_le less once, made, ?_⟩
        exact (fresh.mono_right less).symm
  | @ends _ own given =>
      have routine : Routine.Owns (.done given) own :=
        threads _ (Multiset.mem_add.mpr (.inl (Multiset.mem_singleton_self _)))
      have same : own = given := routine
      subst same
      refine ⟨all, ?_, once, ?_⟩
      · simp only [Multiset.map_singleton, Multiset.sum_singleton] at live
        simp only [Config.held, Multiset.sum_add, Multiset.sum_singleton, live, zero_add]
        ac_rfl
      · show m.lost + (own - own) = 0
        rw [kept, tsub_self, zero_add]

theorem reachable_sound {c : ThreadConfig S}
    (hc : Reachable ThreadStart (Step (ThreadRule entry)) c) : c.Sound := by
  refine hc.invariant (I := ThreadConfig.Sound) ?_ fun c c' h step => h.step owns step
  rintro c rfl
  exact ⟨leaves_none, rfl, Multiset.nodup_zero, rfl⟩

end Runs

section Parcels
variable {entry : Multiset S.Token → Routine S → Prop} {P : Multiset S.Token → Prop}
  (hands : ∀ parcel routine, entry parcel routine → routine.Hands P)

def ThreadConfig.Hands (P : Multiset S.Token → Prop) (c : ThreadConfig S) : Prop :=
  (∀ parcel ∈ c.shared.parcels, P parcel) ∧ ∀ thread ∈ c.running, thread.rest.Hands P

include hands

theorem ThreadConfig.Hands.step {c c' : ThreadConfig S} (h : c.Hands P)
    (step : Step (ThreadRule entry) c c') : c'.Hands P := by
  obtain ⟨others, rule⟩ := step
  obtain ⟨parcels, threads⟩ := h
  rename_i m m' taken left
  have apart : ∀ thread ∈ others, thread.rest.Hands P := fun thread hthread =>
    threads thread (Multiset.mem_add.mpr (.inr hthread))
  have joined : (∀ thread ∈ left, thread.rest.Hands P) →
      ∀ thread ∈ left + others, thread.rest.Hands P := by
    intro hleft thread hthread
    cases Multiset.mem_add.mp hthread with
    | inl hmem => exact hleft thread hmem
    | inr hmem => exact apart thread hmem
  cases rule with
  | begins hentry => exact ⟨parcels, joined (leaves_one (hands _ _ hentry))⟩
  | takes there hentry =>
      refine ⟨fun parcel hparcel => parcels parcel ?_, joined (leaves_one (hands _ _ hentry))⟩
      show parcel ∈ m.parcels
      rw [there]
      exact Multiset.mem_cons_of_mem hparcel
  | @answers _ own question rest reply =>
      have routine : Routine.Hands P (.call question rest) :=
        threads _ (Multiset.mem_add.mpr (.inl (Multiset.mem_singleton_self _)))
      refine ⟨?_, joined (leaves_one (routine.2 reply () trivial))⟩
      intro parcel hparcel
      cases Multiset.mem_add.mp hparcel with
      | inl hmem => exact parcels parcel hmem
      | inr hmem =>
          rw [Multiset.mem_singleton.mp hmem]
          exact routine.1 reply
  | @ends _ own given =>
      have routine : Routine.Hands P (.done given) :=
        threads _ (Multiset.mem_add.mpr (.inl (Multiset.mem_singleton_self _)))
      refine ⟨?_, joined leaves_none⟩
      intro parcel hparcel
      cases Multiset.mem_add.mp hparcel with
      | inl hmem => exact parcels parcel hmem
      | inr hmem =>
          rw [Multiset.mem_singleton.mp hmem]
          exact routine

theorem reachable_hands {c : ThreadConfig S}
    (hc : Reachable ThreadStart (Step (ThreadRule entry)) c) : c.Hands P := by
  refine hc.invariant (I := ThreadConfig.Hands P) ?_ fun c c' h step => h.step hands step
  rintro c rfl
  exact ⟨fun parcel hparcel => absurd hparcel (Multiset.notMem_zero parcel), leaves_none⟩

end Parcels

/-! What holds of every run -/

section Holds
variable {c : ThreadConfig S} (h : c.Sound)
include h

theorem ThreadConfig.Sound.allowed {owned : Multiset S.Token} {question : S.Question}
    {rest : S.Reply question → Routine S} (running : ⟨owned, .call question rest⟩ ∈ c.running) :
    S.allowed question owned :=
  (show Routine.Owns _ _ from h.threads _ running).1.1

theorem ThreadConfig.Sound.owned_le {thread : Thread S} {others : Multiset (Thread S)}
    (running : c.running = thread ::ₘ others) : thread.owned ≤ c.shared.live := by
  rw [h.live, Config.held, running, Multiset.map_cons, Multiset.sum_cons]
  exact (Multiset.le_add_right _ _).trans (Multiset.le_add_left _ _)

/-- What a thread owns is live, and is nobody else's. -/
theorem ThreadConfig.Sound.alone {thread : Thread S} {others : Multiset (Thread S)}
    (running : c.running = thread ::ₘ others) {token : S.Token} (owned : token ∈ thread.owned) :
    token ∈ c.shared.live ∧ (∀ parcel ∈ c.shared.parcels, token ∉ parcel) ∧
      ∀ other ∈ others, token ∉ other.owned := by
  have live := h.live
  rw [Config.held, running, Multiset.map_cons, Multiset.sum_cons] at live
  have once := h.once
  rw [live] at once
  obtain ⟨-, mine, apart⟩ := Multiset.nodup_add.mp once
  obtain ⟨-, -, apart'⟩ := Multiset.nodup_add.mp mine
  refine ⟨?_, fun parcel hparcel hmem => ?_, fun other hother hmem => ?_⟩
  · rw [live]
    exact Multiset.mem_add.mpr (.inr (Multiset.mem_add.mpr (.inl owned)))
  · exact Multiset.disjoint_left.mp apart
      (Multiset.mem_of_le (Multiset.le_sum_of_mem hparcel) hmem)
      (Multiset.mem_add.mpr (.inl owned))
  · exact Multiset.disjoint_left.mp apart' owned
      (Multiset.mem_of_le (Multiset.le_sum_of_mem (Multiset.mem_map_of_mem _ hother)) hmem)

/-- Once all threads have ended, what is live is what has been handed over. -/
theorem ThreadConfig.Sound.rest (ended : c.running = 0) : c.shared.live = c.shared.parcels.sum := by
  rw [h.live, Config.held, ended]
  exact add_zero _

end Holds

end OwnedTokens
