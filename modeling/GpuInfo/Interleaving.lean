import Mathlib.Algebra.BigOperators.Group.Multiset.Basic
import Mathlib.Algebra.Order.BigOperators.Group.Multiset
import Mathlib.Algebra.Order.Group.Nat
import Mathlib.Data.Multiset.AddSub
import Mathlib.Data.Multiset.OrderedMonoid

/-!
Runs of a transition relation, and shared memory in which any number of
activities run. An activity is what one thread still has to do, so a rule that
consumes one activity and leaves another is one atomic section of that thread,
and a rule that consumes nothing starts a new one. Activities have no names: an
invariant proved here holds for every number of threads and every order in which
their sections take turns.
-/

namespace Interleaving
universe u v w

section Runs
variable {σ : Type u}

/-- The states a run has visited, the newest first. -/
inductive Run (initial : σ → Prop) (step : σ → σ → Prop) : List σ → Prop
  | start {s : σ} (h : initial s) : Run initial step [s]
  | next {s t : σ} {past : List σ} (run : Run initial step (s :: past)) (h : step s t) :
      Run initial step (t :: s :: past)

def Reachable (initial : σ → Prop) (step : σ → σ → Prop) (s : σ) : Prop :=
  ∃ past, Run initial step (s :: past)

variable {initial : σ → Prop} {step : σ → σ → Prop}

theorem Reachable.start {s : σ} (h : initial s) : Reachable initial step s := ⟨[], .start h⟩

theorem Reachable.next {s t : σ} (hs : Reachable initial step s) (h : step s t) :
    Reachable initial step t := by
  obtain ⟨past, run⟩ := hs
  exact ⟨s :: past, .next run h⟩

/-- What holds at the start and is kept by every step holds in every reachable state. -/
theorem Reachable.invariant {I : σ → Prop} (init : ∀ s, initial s → I s)
    (keep : ∀ s t, I s → step s t → I t) {s : σ} (hs : Reachable initial step s) : I s := by
  obtain ⟨past, run⟩ := hs
  suffices ∀ states, Run initial step states → ∀ s ∈ states.head?, I s from
    this _ run s rfl
  intro states run
  induction run with
  | start h => simpa using init _ h
  | next _ h ih => simpa using keep _ _ (ih _ rfl) h

theorem Reachable.mono {step' : σ → σ → Prop} (h : ∀ s t, step s t → step' s t) {s : σ}
    (hs : Reachable initial step s) : Reachable initial step' s :=
  hs.invariant (fun _ => .start) fun s t hs hstep => hs.next (h s t hstep)

/-- A statement about a state and everything visited before it, by induction on the run. -/
theorem Run.history {P : σ → List σ → Prop} (init : ∀ s, initial s → P s [])
    (keep : ∀ s t past, Run initial step (s :: past) → P s past → step s t → P t (s :: past))
    {s : σ} {past : List σ} (run : Run initial step (s :: past)) : P s past := by
  suffices ∀ states, Run initial step states → ∀ s past, states = s :: past → P s past from
    this _ run s past rfl
  intro states run
  induction run with
  | start h =>
      intro s past hs
      cases hs
      exact init _ h
  | next run h ih =>
      intro s past hs
      cases hs
      exact keep _ _ _ run (ih _ _ rfl) h

theorem Run.reachable {s : σ} {past : List σ} (run : Run initial step (s :: past)) :
    Reachable initial step s := ⟨past, run⟩

end Runs

/-- A shared state and the activities running in it. -/
structure Config (S : Type u) (A : Type v) where
  shared : S
  running : Multiset A

/-- `rule s taken s' left`: in shared state `s` the activities `taken` become
`left` in one atomic step that changes the shared state to `s'`. -/
abbrev Rule (S : Type u) (A : Type v) := S → Multiset A → S → Multiset A → Prop

variable {S : Type u} {A : Type v}

/-- A rule fires; the activities it does not name stay as they are. -/
inductive Step (rule : Rule S A) : Config S A → Config S A → Prop
  | fire {s s' : S} {taken left : Multiset A} (rest : Multiset A) (h : rule s taken s' left) :
      Step rule ⟨s, taken + rest⟩ ⟨s', left + rest⟩

/-! What a rule leaves of an activity is mostly nothing, or one -/

theorem leaves_none {P : A → Prop} : ∀ a ∈ (0 : Multiset A), P a :=
  fun a ha => absurd ha (Multiset.notMem_zero a)

theorem leaves_one {P : A → Prop} {a : A} (h : P a) : ∀ b ∈ ({a} : Multiset A), P b := by
  intro b hb
  rw [Multiset.mem_singleton.mp hb]
  exact h

theorem leaves_two {P : A → Prop} {a b : A} (ha : P a) (hb : P b) :
    ∀ c ∈ ({a, b} : Multiset A), P c :=
  Multiset.forall_mem_cons.mpr ⟨ha, leaves_one hb⟩

theorem Step.of_rule {rule : Rule S A} {c c' : Config S A} {taken left : Multiset A}
    (rest : Multiset A) (h : rule c.shared taken c'.shared left)
    (before : c.running = taken + rest) (after : c'.running = left + rest) :
    Step rule c c' := by
  obtain ⟨s, running⟩ := c
  obtain ⟨s', running'⟩ := c'
  subst before after
  exact .fire rest h

theorem Reachable.fire {rule : Rule S A} {initial : Config S A → Prop} {s s' : S}
    {running taken left : Multiset A} (hs : Reachable initial (Step rule) ⟨s, running⟩)
    (rest : Multiset A) (h : rule s taken s' left) (before : running = taken + rest) :
    Reachable initial (Step rule) ⟨s', left + rest⟩ :=
  hs.next (.of_rule rest h before rfl)

/-- A run of steps that all meet a condition goes on with a rule that meets it. -/
theorem Reachable.fire_meeting {rule : Rule S A} {initial : Config S A → Prop}
    {meets : Config S A → Config S A → Prop} {s s' : S} {running taken left : Multiset A}
    (hs : Reachable initial (fun c c' => Step rule c c' ∧ meets c c') ⟨s, running⟩)
    (rest : Multiset A) (h : rule s taken s' left) (before : running = taken + rest)
    (hmeets : meets ⟨s, running⟩ ⟨s', left + rest⟩) :
    Reachable initial (fun c c' => Step rule c c' ∧ meets c c') ⟨s', left + rest⟩ :=
  hs.next ⟨.of_rule rest h before rfl, hmeets⟩

theorem exists_of_map_eq_add {B : Type w} {f : A → B} {m : Multiset A} {s t : Multiset B}
    (h : m.map f = s + t) : ∃ s' t', m = s' + t' ∧ s'.map f = s ∧ t'.map f = t := by
  classical
  induction s using Multiset.induction generalizing m with
  | empty => exact ⟨0, m, (zero_add m).symm, Multiset.map_zero f, by rwa [zero_add] at h⟩
  | cons b s ih =>
      rw [Multiset.cons_add] at h
      obtain ⟨a, ha, hb, hrest⟩ := (Multiset.map_eq_cons f m (s + t) b).mpr h
      obtain ⟨s', t', hm, hs, ht⟩ := ih hrest
      refine ⟨a ::ₘ s', t', ?_, ?_, ht⟩
      · rw [Multiset.cons_add, ← hm]
        exact (Multiset.cons_erase ha).symm
      · rw [Multiset.map_cons, hb, hs]

/-- A record kept beside the state and the activities restricts no run: if every rule can
be recorded, every reachable configuration is what a recorded one leaves when the record
is forgotten. -/
theorem Reachable.recorded {S' : Type u} {A' : Type v} {rule : Rule S A} {rule' : Rule S' A'}
    {initial : Config S A → Prop} {initial' : Config S' A' → Prop} {state : S' → S}
    {activity : A' → A}
    (init : ∀ c, initial c → ∃ c', initial' c' ∧
      c = ⟨state c'.shared, c'.running.map activity⟩)
    (record : ∀ s' taken' s left, rule (state s') (taken'.map activity) s left →
      ∃ t' left', rule' s' taken' t' left' ∧ state t' = s ∧ left'.map activity = left)
    {c : Config S A} (hc : Reachable initial (Step rule) c) :
    ∃ c', Reachable initial' (Step rule') c' ∧
      c = ⟨state c'.shared, c'.running.map activity⟩ := by
  refine hc.invariant (I := fun c => ∃ c', Reachable initial' (Step rule') c' ∧
    c = ⟨state c'.shared, c'.running.map activity⟩) (fun c hinit => ?_) fun c d hrecorded step => ?_
  · obtain ⟨c', hc', heq⟩ := init c hinit
    exact ⟨c', .start hc', heq⟩
  · obtain ⟨⟨s', running⟩, hc', rfl⟩ := hrecorded
    generalize hs : state s' = s at step
    generalize hm : running.map activity = m at step
    obtain ⟨rest, hr⟩ := step
    obtain ⟨taken', rest', rfl, rfl, rfl⟩ := exists_of_map_eq_add hm
    subst hs
    obtain ⟨t', left', hr', rfl, rfl⟩ := record s' taken' _ _ hr
    refine ⟨⟨t', left' + rest'⟩, hc'.next (.fire rest' hr'), ?_⟩
    rw [Multiset.map_add]

/-- The sum over the running activities of what each of them holds. -/
def Config.held {M : Type w} [AddCommMonoid M] (f : A → M) (c : Config S A) : M :=
  (c.running.map f).sum

section Conservation
variable {M : Type w} [AddCommMonoid M] {rule : Rule S A}

/-- If every rule moves a quantity without changing its total, every step keeps
the total of the shared state and all activities. -/
theorem Step.conserves {g : S → M} {f : A → M}
    (h : ∀ s taken s' left, rule s taken s' left →
      g s' + (left.map f).sum = g s + (taken.map f).sum)
    {c c' : Config S A} (step : Step rule c c') :
    g c'.shared + c'.held f = g c.shared + c.held f := by
  obtain ⟨rest, hr⟩ := step
  simp only [Config.held, Multiset.map_add, Multiset.sum_add, ← add_assoc]
  rw [h _ _ _ _ hr]

/-- A counter in the shared state that follows what the activities hold: if every
rule moves both by the same amount, equality is kept. -/
theorem Step.tracks {N : Type w} [AddCancelCommMonoid N] {g : S → N} {f : A → N}
    (h : ∀ s taken s' left, rule s taken s' left →
      g s' + (taken.map f).sum = g s + (left.map f).sum)
    {c c' : Config S A} (step : Step rule c c') (hc : g c.shared = c.held f) :
    g c'.shared = c'.held f := by
  obtain ⟨rest, hr⟩ := step
  rename_i s s' taken left
  simp only [Config.held, Multiset.map_add, Multiset.sum_add] at hc ⊢
  have hbalance := h _ _ _ _ hr
  apply add_right_cancel (b := (taken.map f).sum)
  calc
    g s' + (taken.map f).sum = g s + (left.map f).sum := hbalance
    _ = (left.map f).sum + (rest.map f).sum + (taken.map f).sum := by rw [hc]; ac_rfl

/-- What is in the shared state and held by the activities adds up to `k`, if every rule
keeps the difference; `J` is known of the activities that take part. -/
theorem Step.balances {N : Type w} [AddCancelCommMonoid N] {g k : S → N} {f : A → N}
    {J : S → A → Prop}
    (h : ∀ s taken s' left, rule s taken s' left → (∀ a ∈ taken, J s a) →
      g s' + (left.map f).sum + k s = g s + (taken.map f).sum + k s')
    {c c' : Config S A} (step : Step rule c c') (hJ : ∀ a ∈ c.running, J c.shared a)
    (hc : g c.shared + c.held f = k c.shared) :
    g c'.shared + c'.held f = k c'.shared := by
  obtain ⟨rest, hr⟩ := step
  rename_i s s' taken left
  simp only [Config.held, Multiset.map_add, Multiset.sum_add] at hc ⊢
  have hbalance := h _ _ _ _ hr fun a ha => hJ a (Multiset.mem_add.mpr (.inl ha))
  apply add_right_cancel (b := k s)
  calc
    g s' + ((left.map f).sum + (rest.map f).sum) + k s
        = g s' + (left.map f).sum + k s + (rest.map f).sum := by ac_rfl
    _ = g s + ((taken.map f).sum + (rest.map f).sum) + k s' := by rw [hbalance]; ac_rfl
    _ = k s' + k s := by rw [hc, add_comm]

theorem Config.held_add {M : Type w} [AddCommMonoid M] (f g : A → M) (c : Config S A) :
    c.held (fun a => f a + g a) = c.held f + c.held g :=
  Multiset.sum_map_add

theorem Config.map_held {M N F : Type w} [AddCommMonoid M] [AddCommMonoid N] [FunLike F M N]
    [AddMonoidHomClass F M N] (g : F) (f : A → M) (c : Config S A) :
    g (c.held f) = c.held fun a => g (f a) := by
  rw [Config.held, map_multiset_sum, Multiset.map_map]
  rfl

theorem Config.held_zero {M : Type w} [AddCommMonoid M] {f : A → M} {c : Config S A}
    (h : ∀ a ∈ c.running, f a = 0) : c.held f = 0 := by
  rw [Config.held, Multiset.map_congr rfl h]
  exact Multiset.sum_map_zero

theorem Config.le_held {f : A → Nat} {c : Config S A} {a : A} (ha : a ∈ c.running) :
    f a ≤ c.held f :=
  Multiset.single_le_sum (fun _ _ => Nat.zero_le _) _ (Multiset.mem_map_of_mem f ha)

/-- What there is one of has one holder. -/
theorem Config.eq_of_held_le_one {f : A → Nat} {c : Config S A} (one : c.held f ≤ 1) {a b : A}
    (ha : a ∈ c.running) (hb : b ∈ c.running) (holds : 0 < f a) (holds' : 0 < f b) : a = b := by
  by_contra hne
  obtain ⟨rest, hrest⟩ := Multiset.exists_cons_of_mem ha
  have hb' : b ∈ rest := by
    rw [hrest] at hb
    exact (Multiset.mem_cons.mp hb).resolve_left (Ne.symm hne)
  have le : f b ≤ (rest.map f).sum :=
    Multiset.single_le_sum (fun _ _ => Nat.zero_le _) _ (Multiset.mem_map_of_mem f hb')
  rw [Config.held, hrest, Multiset.map_cons, Multiset.sum_cons] at one
  omega

end Conservation

section Invariants
variable {rule : Rule S A}

/-- A shared invariant `I` together with a fact `J` that every activity carries
about itself, kept by the rules one at a time. -/
theorem Step.keeps {I : S → Prop} {J : S → A → Prop}
    (h : ∀ s taken s' left, rule s taken s' left → I s → (∀ a ∈ taken, J s a) →
      I s' ∧ (∀ a ∈ left, J s' a) ∧ ∀ a, J s a → J s' a)
    {c c' : Config S A} (step : Step rule c c')
    (hc : I c.shared ∧ ∀ a ∈ c.running, J c.shared a) :
    I c'.shared ∧ ∀ a ∈ c'.running, J c'.shared a := by
  obtain ⟨rest, hr⟩ := step
  obtain ⟨hI, hJ⟩ := hc
  simp only [Multiset.mem_add] at hJ
  obtain ⟨hI', hleft, stable⟩ := h _ _ _ _ hr hI fun a ha => hJ a (.inl ha)
  refine ⟨hI', fun a ha => ?_⟩
  cases Multiset.mem_add.mp ha with
  | inl ha => exact hleft a ha
  | inr ha => exact stable a (hJ a (.inr ha))

theorem Reachable.keeps {initial : Config S A → Prop} {I : S → Prop} {J : S → A → Prop}
    (init : ∀ c, initial c → I c.shared ∧ ∀ a ∈ c.running, J c.shared a)
    (h : ∀ s taken s' left, rule s taken s' left → I s → (∀ a ∈ taken, J s a) →
      I s' ∧ (∀ a ∈ left, J s' a) ∧ ∀ a, J s a → J s' a)
    {c : Config S A} (hc : Reachable initial (Step rule) c) :
    I c.shared ∧ ∀ a ∈ c.running, J c.shared a :=
  Reachable.invariant (I := fun c => I c.shared ∧ ∀ a ∈ c.running, J c.shared a) init
    (fun _ _ hs step => step.keeps h hs) hc

/-- As `Step.keeps`, for activities that hold claims no two of them may share: a
rule only has to respect the activities whose claims are apart from its own. -/
theorem Step.keeps_claims {K : Type w} {claims : A → Multiset K} {I : S → Prop}
    {J : S → A → Prop}
    (h : ∀ s taken s' left, rule s taken s' left → I s → (∀ a ∈ taken, J s a) →
      I s' ∧ (∀ a ∈ left, J s' a) ∧
        ∀ a, Disjoint (claims a) ((taken.map claims).sum) →
          Disjoint (claims a) ((left.map claims).sum) → J s a → J s' a)
    {c c' : Config S A} (step : Step rule c c') (apart : (c.held claims).Nodup)
    (apart' : (c'.held claims).Nodup)
    (hc : I c.shared ∧ ∀ a ∈ c.running, J c.shared a) :
    I c'.shared ∧ ∀ a ∈ c'.running, J c'.shared a := by
  obtain ⟨rest, hr⟩ := step
  obtain ⟨hI, hJ⟩ := hc
  simp only [Config.held, Multiset.map_add, Multiset.sum_add] at apart apart'
  simp only [Multiset.mem_add] at hJ
  obtain ⟨hI', hleft, stable⟩ := h _ _ _ _ hr hI fun a ha => hJ a (.inl ha)
  refine ⟨hI', fun a ha => ?_⟩
  cases Multiset.mem_add.mp ha with
  | inl ha => exact hleft a ha
  | inr ha =>
      have hclaims : claims a ≤ (rest.map claims).sum :=
        Multiset.le_sum_of_mem (Multiset.mem_map_of_mem claims ha)
      have within : ∀ {m : Multiset K}, (m + (rest.map claims).sum).Nodup →
          Disjoint (claims a) m := by
        intro m hm
        exact ((Multiset.nodup_add.mp hm).2.2.mono_right hclaims).symm
      exact stable a (within apart) (within apart') (hJ a (.inr ha))

/-- As `Step.keeps_claims`, where the shared state makes claims of its own: a rule may
take it that all claims are apart; `K` is known of the state, and `L` of the activities that
take part. -/
theorem Step.keeps_apart {N : Type w} {own : S → Multiset N} {claims : A → Multiset N}
    {I K : S → Prop} {J L : S → A → Prop}
    (h : ∀ s taken s' left, rule s taken s' left →
      (own s + (taken.map claims).sum).Nodup → K s → (∀ a ∈ taken, L s a) → I s →
      (∀ a ∈ taken, J s a) →
      I s' ∧ (∀ a ∈ left, J s' a) ∧
        ∀ a, Disjoint (claims a) (own s + (taken.map claims).sum) → J s a → J s' a)
    {c c' : Config S A} (step : Step rule c c')
    (apart : (own c.shared + c.held claims).Nodup) (hK : K c.shared)
    (hL : ∀ a ∈ c.running, L c.shared a)
    (hc : I c.shared ∧ ∀ a ∈ c.running, J c.shared a) :
    I c'.shared ∧ ∀ a ∈ c'.running, J c'.shared a := by
  obtain ⟨rest, hr⟩ := step
  obtain ⟨hI, hJ⟩ := hc
  simp only [Config.held, Multiset.map_add, Multiset.sum_add, ← add_assoc] at apart
  simp only [Multiset.mem_add] at hJ hL
  obtain ⟨hnodup, -, hdisjoint⟩ := Multiset.nodup_add.mp apart
  obtain ⟨hI', hleft, stable⟩ := h _ _ _ _ hr hnodup hK (fun a ha => hL a (.inl ha)) hI
    fun a ha => hJ a (.inl ha)
  refine ⟨hI', fun a ha => ?_⟩
  cases Multiset.mem_add.mp ha with
  | inl ha => exact hleft a ha
  | inr ha =>
      have hclaims : claims a ≤ (rest.map claims).sum :=
        Multiset.le_sum_of_mem (Multiset.mem_map_of_mem claims ha)
      exact stable a (hdisjoint.mono_right hclaims).symm (hJ a (.inr ha))

/-- As `Step.keeps_claims`, where `K` is known of the state, and `L` of the activities that take
part. -/
theorem Step.keeps_known {N : Type w} {claims : A → Multiset N} {I K : S → Prop}
    {J L : S → A → Prop}
    (h : ∀ s taken s' left, rule s taken s' left → K s → (∀ a ∈ taken, L s a) → I s →
      (∀ a ∈ taken, J s a) →
      I s' ∧ (∀ a ∈ left, J s' a) ∧
        ∀ a, Disjoint (claims a) ((taken.map claims).sum) → J s a → J s' a)
    {c c' : Config S A} (step : Step rule c c') (apart : (c.held claims).Nodup) (hK : K c.shared)
    (hL : ∀ a ∈ c.running, L c.shared a)
    (hc : I c.shared ∧ ∀ a ∈ c.running, J c.shared a) :
    I c'.shared ∧ ∀ a ∈ c'.running, J c'.shared a := by
  refine @Step.keeps_apart _ _ _ _ (fun _ => 0) claims I K J L ?_ c c' step
    ((zero_add (c.held claims)).symm ▸ apart) hK hL hc
  intro s taken s' left rule _ hs htaken hI hJ
  obtain ⟨hI', hleft, stable⟩ := h s taken s' left rule hs htaken hI hJ
  refine ⟨hI', hleft, fun a disjoint => stable a ?_⟩
  rwa [zero_add] at disjoint

end Invariants

end Interleaving
