import GpuInfo.StateProgram
import Mathlib.Control.Basic

/-!
Programs that make calls. What a call answers is up to the world, and a program goes on with
the answer; its safety says that each of its calls is allowed in the world in which it is made,
whatever the calls before it have answered. Where the world moves on by itself, at any time,
what a program knows is what the answers have told it.
-/

namespace CallProgram
variable {Q : Type} {R : Q → Type} {α β : Type}

inductive Program (Q : Type) (R : Q → Type) (α : Type)
  | done (a : α)
  | call (question : Q) (rest : R question → Program Q R α)

namespace Program

def bind (program : Program Q R α) (f : α → Program Q R β) : Program Q R β :=
  match program with
  | .done a => f a
  | .call question rest => .call question fun answer => (rest answer).bind f

instance : Monad (Program Q R) where
  pure := done
  bind := bind

/-- Each call is answered at once. -/
def run {m : Type → Type} [Monad m] (answer : (question : Q) → m (R question)) :
    Program Q R α → m α
  | .done a => pure a
  | .call question rest => do
      let told ← answer question
      (rest told).run answer

theorem run_bind {m : Type → Type} [Monad m] [LawfulMonad m]
    (answer : (question : Q) → m (R question)) (program : Program Q R α)
    (f : α → Program Q R β) :
    (program >>= f).run answer = program.run answer >>= fun a => (f a).run answer := by
  induction program with
  | done a => exact (pure_bind a fun a => (f a).run answer).symm
  | call question rest ih =>
      show (answer question >>= fun told => (rest told >>= f).run answer) = _
      rw [run, bind_assoc]
      exact bind_congr ih

section Safe
variable {W : Type} {allowed : W → Q → Prop}
  {step : W → (question : Q) → R question → W → Prop} {post : α → W → Prop}
  {program : Program Q R α} {w : W}

/-- Each call is allowed where it is made, an answer moves the world by `step`, and the
program ends with what satisfies `post`. -/
def Safe (allowed : W → Q → Prop) (step : W → (question : Q) → R question → W → Prop)
    (post : α → W → Prop) : Program Q R α → W → Prop
  | .done a, w => post a w
  | .call question rest, w => allowed w question ∧ ∀ answer w', step w question answer w' →
      (rest answer).Safe allowed step post w'

theorem Safe.mono {post' : α → W → Prop} (h : program.Safe allowed step post w)
    (weaker : ∀ a w', post a w' → post' a w') : program.Safe allowed step post' w := by
  induction program generalizing w with
  | done a => exact weaker a w h
  | call question rest ih =>
      exact ⟨h.1, fun answer w' moved => ih answer (h.2 answer w' moved)⟩

theorem Safe.bind {f : α → Program Q R β} {post : β → W → Prop}
    (h : program.Safe allowed step (fun a => (f a).Safe allowed step post) w) :
    (program >>= f).Safe allowed step post w := by
  induction program generalizing w with
  | done a => exact h
  | call question rest ih =>
      exact ⟨h.1, fun answer w' moved => ih answer (h.2 answer w' moved)⟩

end Safe

section Meets
variable {W : Type} (later : W → W → Prop) (tells : (question : Q) → R question → W → Prop)

/-- Whatever happens from `w` on within `later`, if each answer tells of the world in which
it is given, the program ends with what satisfies `post`. -/
def Meets (post : α → W → Prop) : Program Q R α → W → Prop :=
  Safe (fun _ _ => True) (fun w question answer w' => later w w' ∧ tells question answer w')
    fun a w => ∀ w', later w w' → post a w'

variable {later tells} {post : α → W → Prop} {program : Program Q R α} {w w' : W}

theorem Meets.moved [IsPreorder W later] (h : program.Meets later tells post w)
    (moved : later w w') : program.Meets later tells post w' := by
  cases program with
  | done a => exact fun w'' moved' => h w'' (trans_of later moved moved')
  | call question rest =>
      refine ⟨trivial, fun answer w'' told => h.2 answer w'' ?_⟩
      exact ⟨trans_of later moved told.1, told.2⟩

theorem Meets.mono {post' : α → W → Prop} (h : program.Meets later tells post w)
    (weaker : ∀ a w', post a w' → post' a w') : program.Meets later tells post' w :=
  Safe.mono h fun a _ hpost w' moved => weaker a w' (hpost w' moved)

theorem Meets.bind [IsPreorder W later] {f : α → Program Q R β} {post : β → W → Prop}
    (h : program.Meets later tells (fun a => (f a).Meets later tells post) w) :
    (program >>= f).Meets later tells post w :=
  Safe.bind (Safe.mono h fun _ w' hpost => hpost w' (refl_of later w'))

/-- Run alone, a program ends with what it meets if the answers tell of the state. -/
theorem Meets.ensures [IsPreorder W later] {answer : (question : Q) → StateM W (R question)}
    (answers : ∀ question s, StateProgram.Ensures (answer question) s fun told s' =>
      later s s' ∧ tells question told s')
    (h : program.Meets later tells post w) :
    StateProgram.Ensures (program.run answer) w post := by
  induction program generalizing w with
  | done a => exact h w (refl_of later w)
  | call question rest ih =>
      exact (answers question w).bind fun told w' moved => ih told (h.2 told w' moved)

end Meets

end Program

end CallProgram
