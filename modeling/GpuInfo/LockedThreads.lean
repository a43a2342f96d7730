import GpuInfo.Interleaving
import GpuInfo.OwnedScopes
import Mathlib.Algebra.BigOperators.Group.Multiset.Basic
import Mathlib.Data.Finset.Max
import Mathlib.Data.Multiset.Bind

/-!
Any number of threads that call clean functions over shared locks. A lock is waited for while
another thread, or the same one, holds it, and what it protects stays as it is left. A
destructor may call functions of its own before it ends. If the data satisfy their invariants
at the start, no destructor ever starts under a lock, no thread waits for a lock that it holds,
and as long as there are threads, one of them can go on.
-/

namespace OwnedScopes
open CallProgram Interleaving

/-- Code that holds no lock of its own: it calls functions, goes on with what they answer, and
may catch their panics. -/
inductive Client {S : Signature} (entry : (α : Type) → Routine S α → Prop) : Routine S Unit → Prop
  | ends (answer : Option Unit) : Client entry (.done answer)
  | calls {α : Type} {routine : Routine S α} {next : Option α → Routine S Unit}
      (h : entry α routine) (goesOn : ∀ answer, Client entry (next answer)) :
      Client entry (routine.bind next)

/-- What a thread still has to do, and the locks it holds. -/
structure Thread (S : Signature) where
  held : List S.Lock
  rest : Routine S Unit

/-- A destructor started on a thread that held these locks. -/
structure Destruction (S : Signature) where
  resource : S.Resource
  held : List S.Lock

structure Memory (S : Signature) where
  data : (l : S.Lock) → S.Data l
  taken : Multiset S.Lock
  destroyed : List (Destruction S)

variable {S : Signature} [DecidableEq S.Lock]

/-- One operation of one thread. -/
inductive ThreadRule (entry : (α : Type) → Routine S α → Prop) :
    Interleaving.Rule (Memory S) (Thread S)
  | begins {m : Memory S} {client : Routine S Unit} (h : Client entry client) :
      ThreadRule entry m 0 m {⟨[], client⟩}
  | locks {m : Memory S} {held : List S.Lock} {l : S.Lock} {rest : S.Data l → Routine S Unit}
      (free : l ∉ m.taken) :
      ThreadRule entry m {⟨held, .call (.lock l) rest⟩} { m with taken := l ::ₘ m.taken }
        {⟨l :: held, rest (m.data l)⟩}
  | unlocks {m : Memory S} {held : List S.Lock} {l : S.Lock} {data : S.Data l}
      {rest : Unit → Routine S Unit} :
      ThreadRule entry m {⟨held, .call (.unlock l data) rest⟩}
        { m with data := Function.update m.data l data, taken := m.taken.erase l }
        {⟨held.erase l, rest ()⟩}
  | destroys {m : Memory S} {held : List S.Lock} {resource : S.Resource}
      {rest : Bool → Routine S Unit} {destructor : Routine S Unit} (h : Client entry destructor) :
      ThreadRule entry m {⟨held, .call (.destroy resource) rest⟩}
        { m with destroyed := ⟨resource, held⟩ :: m.destroyed }
        {⟨held, destructor.bind fun left => rest left.isNone⟩}
  | asks {m : Memory S} {held : List S.Lock} {question : S.Question}
      {rest : S.Reply question → Routine S Unit} (reply : S.Reply question) :
      ThreadRule entry m {⟨held, .call (.ask question) rest⟩} m {⟨held, rest reply⟩}
  | finishes {m : Memory S} {held : List S.Lock} {answer : Option Unit} :
      ThreadRule entry m {⟨held, .done answer⟩} m 0

variable {entry : (α : Type) → Routine S α → Prop} {inv : (l : S.Lock) → S.Data l → Prop}

theorem Client.clean (clean : ∀ α routine, entry α routine → routine.Clean inv)
    {client : Routine S Unit} (h : Client entry client) : client.Clean inv := by
  induction h with
  | ends answer => exact .done answer
  | calls h _ ih => exact (clean _ _ h).andThen ih

/-- What is known of the memory: what no thread has locked is as its invariant says. -/
structure Memory.Orderly (inv : (l : S.Lock) → S.Data l → Prop) (m : Memory S) : Prop where
  free : ∀ l ∉ m.taken, inv l (m.data l)
  once : m.taken.Nodup
  destroyed : ∀ destruction ∈ m.destroyed, destruction.held = []

def Thread.Orderly (inv : (l : S.Lock) → S.Data l → Prop) (thread : Thread S) : Prop :=
  Disciplined inv thread.rest (fun _ held => held = []) thread.held

theorem threadRule_orderly (clean : ∀ α routine, entry α routine → routine.Clean inv)
    (m : Memory S) (taken : Multiset (Thread S)) (m' : Memory S) (left : Multiset (Thread S))
    (rule : ThreadRule entry m taken m' left)
    (hm : m.Orderly inv) (h : ∀ thread ∈ taken, thread.Orderly inv) :
    m'.Orderly inv ∧ ∀ thread ∈ left, thread.Orderly inv := by
  cases rule with
  | begins hclient =>
      exact ⟨hm, leaves_one (hclient.clean clean)⟩
  | @locks _ held l rest free =>
      have hrest := h _ (Multiset.mem_singleton_self _)
      refine ⟨⟨fun l' hl' => ?_, Multiset.nodup_cons.mpr ⟨free, hm.once⟩, hm.destroyed⟩,
        leaves_one (hrest.2 _ _ ⟨hm.free l free, rfl⟩)⟩
      exact hm.free l' fun hmem => hl' (Multiset.mem_cons_of_mem hmem)
  | @unlocks _ held l data rest =>
      have hrest := h _ (Multiset.mem_singleton_self _)
      refine ⟨⟨fun l' hl' => ?_, hm.once.erase l, hm.destroyed⟩, leaves_one (hrest.2 _ _ rfl)⟩
      by_cases hl : l' = l
      · subst hl
        dsimp only
        rw [Function.update_self]
        exact hrest.1.2
      · dsimp only
        rw [Function.update_of_ne hl]
        exact hm.free l' fun hmem => hl' ((Multiset.mem_erase_of_ne hl).mpr hmem)
  | @destroys _ held resource rest destructor hdestructor =>
      have hrest := h _ (Multiset.mem_singleton_self _)
      have hheld : held = [] := hrest.1
      subst hheld
      refine ⟨⟨hm.free, hm.once, fun destruction hmem => ?_⟩, leaves_one ?_⟩
      · cases List.mem_cons.mp hmem with
        | inl heq => rw [heq]
        | inr hmem => exact hm.destroyed destruction hmem
      · exact (hdestructor.clean clean).andThen fun left => hrest.2 _ _ rfl
  | asks reply =>
      have hrest := h _ (Multiset.mem_singleton_self _)
      exact ⟨hm, leaves_one (hrest.2 _ _ rfl)⟩
  | finishes => exact ⟨hm, leaves_none⟩

abbrev ThreadConfig (S : Signature) := Interleaving.Config (Memory S) (Thread S)

def Thread.locks (thread : Thread S) : Multiset S.Lock := thread.held

/-- The locks that are taken are those that the threads hold. -/
theorem step_taken {c c' : ThreadConfig S} (step : Step (ThreadRule entry) c c')
    (h : ∀ thread ∈ c.running, thread.Orderly inv) (hc : c.held Thread.locks = c.shared.taken) :
    c'.held Thread.locks = c'.shared.taken := by
  obtain ⟨others, rule⟩ := step
  simp only [Config.held, Multiset.map_add, Multiset.sum_add] at hc ⊢
  cases rule with
  | begins _ => simpa [Thread.locks] using hc
  | locks _ =>
      rw [← hc]
      simp [Thread.locks, ← Multiset.cons_coe]
  | @unlocks _ held l data rest =>
      have hrest := h _ (Multiset.mem_add.mpr (.inl (Multiset.mem_singleton_self _)))
      have hl : l ∈ (held : Multiset S.Lock) := hrest.1.1
      rw [← hc]
      simp only [Multiset.map_singleton, Multiset.sum_singleton, Thread.locks]
      rw [Multiset.erase_add_left_pos _ hl, Multiset.coe_erase]
  | destroys _ => simpa [Thread.locks] using hc
  | asks _ => simpa [Thread.locks] using hc
  | @finishes _ held answer =>
      have hheld : held = [] := h _ (Multiset.mem_add.mpr (.inl (Multiset.mem_singleton_self _)))
      simpa [Thread.locks, hheld] using hc

/-- Data that satisfy their invariants, no lock taken, no thread. -/
inductive ThreadStart (inv : (l : S.Lock) → S.Data l → Prop) : ThreadConfig S → Prop
  | new {data : (l : S.Lock) → S.Data l} (h : ∀ l, inv l (data l)) :
      ThreadStart inv ⟨⟨data, 0, []⟩, 0⟩

structure ThreadConfig.Orderly (inv : (l : S.Lock) → S.Data l → Prop) (c : ThreadConfig S) :
    Prop where
  memory : c.shared.Orderly inv
  threads : ∀ thread ∈ c.running, thread.Orderly inv
  taken : c.held Thread.locks = c.shared.taken

theorem reachable_orderly (clean : ∀ α routine, entry α routine → routine.Clean inv)
    {c : ThreadConfig S} (hc : Reachable (ThreadStart inv) (Step (ThreadRule entry)) c) :
    ThreadConfig.Orderly inv c := by
  refine hc.invariant (fun c start => ?_) fun c c' hc step => ?_
  · obtain ⟨h⟩ := start
    refine ⟨⟨fun l _ => h l, Multiset.nodup_zero, fun _ hmem => ?_⟩, fun _ hmem => ?_, rfl⟩
    · exact absurd hmem List.not_mem_nil
    · exact absurd hmem (Multiset.notMem_zero _)
  · have next := step.keeps (I := Memory.Orderly inv) (J := fun _ thread => thread.Orderly inv)
      (fun m taken m' left rule hm h =>
        ⟨(threadRule_orderly clean m taken m' left rule hm h).1,
          (threadRule_orderly clean m taken m' left rule hm h).2, fun _ h => h⟩)
      ⟨hc.memory, hc.threads⟩
    exact ⟨next.1, next.2, step_taken step hc.threads hc.taken⟩

/-- A thread can go on, or it waits for a lock that is taken. -/
theorem moves_or_waits (answers : ∀ question, Nonempty (S.Reply question)) (m : Memory S)
    (thread : Thread S) : (∃ m' left, ThreadRule entry m {thread} m' left) ∨
      ∃ l rest, thread.rest = .call (.lock l) rest ∧ l ∈ m.taken := by
  obtain ⟨held, rest⟩ := thread
  cases rest with
  | done answer => exact .inl ⟨m, 0, .finishes⟩
  | call op rest =>
      cases op with
      | lock l =>
          by_cases free : l ∈ m.taken
          · exact .inr ⟨l, rest, rfl, free⟩
          · exact .inl ⟨_, _, .locks free⟩
      | unlock l data => exact .inl ⟨_, _, .unlocks⟩
      | destroy resource => exact .inl ⟨_, _, .destroys (.ends (some ()))⟩
      | ask question =>
          obtain ⟨reply⟩ := answers question
          exact .inl ⟨_, _, .asks reply⟩

/-- The rank of the lock that a thread asks for. -/
def Thread.wanted (thread : Thread S) : Nat :=
  match thread.rest with
  | .call (.lock l) _ => S.rank l
  | _ => 0

/-- The thread that waits for the lock of the highest rank would wait for one that waits for a
lock of a higher rank. -/
theorem ThreadConfig.Orderly.progress {c : ThreadConfig S} (hc : c.Orderly inv)
    (answers : ∀ question, Nonempty (S.Reply question)) (running : c.running ≠ 0) :
    ∃ thread ∈ c.running, ∃ m left, ThreadRule entry c.shared {thread} m left := by
  classical
  by_contra stuck
  have waits : ∀ thread ∈ c.running, ∃ l rest, thread.rest = .call (.lock l) rest ∧
      l ∈ c.shared.taken := fun thread hthread =>
    (moves_or_waits answers c.shared thread).resolve_left fun moves =>
      stuck ⟨thread, hthread, moves⟩
  obtain ⟨first, hfirst⟩ := Multiset.exists_mem_of_ne_zero running
  obtain ⟨last, hlast, highest⟩ := c.running.toFinset.exists_max_image Thread.wanted
    ⟨first, Multiset.mem_toFinset.mpr hfirst⟩
  obtain ⟨l, rest, hrest, htaken⟩ := waits last (Multiset.mem_toFinset.mp hlast)
  have hheld : l ∈ c.running.bind Thread.locks := by
    rw [← hc.taken] at htaken
    exact htaken
  obtain ⟨owner, howner, hl⟩ := Multiset.mem_bind.mp hheld
  obtain ⟨l', rest', hrest', -⟩ := waits owner howner
  have allowed := hc.threads owner howner
  rw [Thread.Orderly, hrest'] at allowed
  have hle := highest owner (Multiset.mem_toFinset.mpr howner)
  rw [Thread.wanted, Thread.wanted, hrest, hrest'] at hle
  exact absurd (allowed.1 l hl) (Nat.not_lt_of_le hle)

/-- No destructor has started under a lock, no thread waits for a lock that it holds, and as
long as there are threads, one of them can go on. -/
structure Undisturbed (entry : (α : Type) → Routine S α → Prop) (c : ThreadConfig S) : Prop where
  destroyed : ∀ destruction ∈ c.shared.destroyed, destruction.held = []
  available : ∀ thread ∈ c.running, ∀ l rest, thread.rest = .call (.lock l) rest →
    l ∉ thread.held
  progress : c.running ≠ 0 →
    ∃ thread ∈ c.running, ∃ m left, ThreadRule entry c.shared {thread} m left

theorem reachable_undisturbed (clean : ∀ α routine, entry α routine → routine.Clean inv)
    (answers : ∀ question, Nonempty (S.Reply question)) {c : ThreadConfig S}
    (hc : Reachable (ThreadStart inv) (Step (ThreadRule entry)) c) : Undisturbed entry c := by
  have orderly := reachable_orderly clean hc
  refine ⟨orderly.memory.destroyed, fun thread hthread l rest hrest hl => ?_,
    orderly.progress answers⟩
  have allowed := orderly.threads thread hthread
  rw [Thread.Orderly, hrest] at allowed
  exact Nat.lt_irrefl _ (allowed.1 l hl)

end OwnedScopes
