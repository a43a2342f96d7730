import Mathlib.Order.Defs.PartialOrder
import Mathlib.Algebra.Order.Group.Nat

/-!
Programs whose loops carry fuel. Every loop of a program is given the same fuel, and the
program answers nothing if one of them runs out of it. It ends with an answer if all from
some amount of fuel on lead to it.
-/

namespace FuelProgram
variable {ε α β : Type}

/-- Given its fuel, a program fails, answers nothing or answers. -/
abbrev Fuelled (ε : Type) := ReaderT Nat (OptionT (Except ε))

def Ends (f : Fuelled ε α) (a : α) : Prop :=
  ∃ fuel, ∀ more, f (fuel + more) = (.ok (some a) : Except ε (Option α))

theorem Ends.pure (a : α) : Ends (Pure.pure a : Fuelled ε α) a := ⟨0, fun _ => rfl⟩

theorem Ends.lift {x : Except ε α} {a : α} (h : x = .ok a) : Ends (liftM x : Fuelled ε α) a := by
  subst h
  exact ⟨0, fun _ => rfl⟩

theorem Ends.bind {f : Fuelled ε α} {g : α → Fuelled ε β} {a : α} {b : β} (h : Ends f a)
    (rest : Ends (g a) b) : Ends (f >>= g) b := by
  obtain ⟨fuel, hf⟩ := h
  obtain ⟨fuel', hg⟩ := rest
  refine ⟨fuel + fuel', fun more => ?_⟩
  have first := hf (fuel' + more)
  have second := hg (fuel + more)
  rw [← Nat.add_assoc] at first second
  rw [Nat.add_comm fuel' fuel] at second
  change (f (fuel + fuel' + more) : Except ε (Option α)) >>= _ = _
  rw [first]
  exact second

/-! One amount of fuel -/

/-- With this much fuel the program answers `a`. -/
def AnswersWith (fuel : Nat) (f : Fuelled ε α) (a : α) : Prop :=
  f fuel = (.ok (some a) : Except ε (Option α))

theorem Ends.answersWith {f : Fuelled ε α} {a : α} (h : Ends f a) :
    ∃ fuel, AnswersWith fuel f a := by
  obtain ⟨fuel, hf⟩ := h
  exact ⟨fuel, hf 0⟩

theorem AnswersWith.of_pure {fuel : Nat} {a b : α}
    (h : AnswersWith fuel (Pure.pure a : Fuelled ε α) b) : b = a := by
  cases h
  rfl

theorem AnswersWith.of_lift {fuel : Nat} {x : Except ε α} {a : α}
    (h : AnswersWith fuel (liftM x : Fuelled ε α) a) : x = .ok a := by
  cases x with
  | error e => cases h
  | ok b =>
      cases h
      rfl

theorem AnswersWith.of_bind {fuel : Nat} {f : Fuelled ε α} {g : α → Fuelled ε β} {b : β}
    (h : AnswersWith fuel (f >>= g) b) :
    ∃ a, AnswersWith fuel f a ∧ AnswersWith fuel (g a) b := by
  change (f fuel : Except ε (Option α)) >>= _ = _ at h
  cases hf : (f fuel : Except ε (Option α)) with
  | error e =>
      rw [hf] at h
      cases h
  | ok answer =>
      rw [hf] at h
      cases answer with
      | none => cases h
      | some a => exact ⟨a, hf, h⟩

/-- A program ends with one answer. -/
theorem Ends.unique {f : Fuelled ε α} {a b : α} (h : Ends f a) (h' : Ends f b) : a = b := by
  obtain ⟨fuel, hf⟩ := h
  obtain ⟨fuel', hf'⟩ := h'
  have first := hf fuel'
  have second := hf' fuel
  rw [Nat.add_comm] at second
  cases first.symm.trans second
  rfl

end FuelProgram
