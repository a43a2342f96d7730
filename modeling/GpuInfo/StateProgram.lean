import Mathlib.Order.Defs.Unbundled

/-!
Postconditions of programs that read and change one state. A rule takes the
postcondition of each part to that of the whole, so the specification of a program
is assembled from those of the programs it calls, in the order of the text.
-/

namespace StateProgram
variable {σ α β : Type}

/-- Run from `s`, `f` returns a value and leaves a state that satisfy `Q`. -/
def Ensures (f : StateM σ α) (s : σ) (Q : α → σ → Prop) : Prop :=
  Q (f s).1 (f s).2

theorem Ensures.mono {f : StateM σ α} {s : σ} {P Q : α → σ → Prop} (h : Ensures f s P)
    (weaker : ∀ a t, P a t → Q a t) : Ensures f s Q :=
  weaker _ _ h

theorem Ensures.pure {a : α} {s : σ} {Q : α → σ → Prop} (h : Q a s) :
    Ensures (Pure.pure a) s Q := h

theorem Ensures.bind {f : StateM σ α} {g : α → StateM σ β} {s : σ} {P : α → σ → Prop}
    {Q : β → σ → Prop} (h : Ensures f s P) (rest : ∀ a t, P a t → Ensures (g a) t Q) :
    Ensures (f >>= g) s Q :=
  rest _ _ h

/-- Nothing is needed of the first part. -/
theorem Ensures.andThen {f : StateM σ α} {g : α → StateM σ β} {s : σ} {Q : β → σ → Prop}
    (h : ∀ a t, Ensures (g a) t Q) : Ensures (f >>= g) s Q :=
  h _ _

theorem Ensures.get {g : σ → StateM σ β} {s : σ} {Q : β → σ → Prop}
    (h : Ensures (g s) s Q) : Ensures (MonadState.get >>= g) s Q := h

theorem Ensures.and {f : StateM σ α} {s : σ} {P Q : α → σ → Prop} (h : Ensures f s P)
    (h' : Ensures f s Q) : Ensures f s fun a t => P a t ∧ Q a t :=
  ⟨h, h'⟩

/-- Wherever it starts, `f` moves the state within `rel`. -/
def Keeps (rel : σ → σ → Prop) (f : StateM σ α) : Prop :=
  ∀ s, Ensures f s fun _ t => rel s t

section Keeps
variable {rel : σ → σ → Prop}

theorem Keeps.get {g : σ → StateM σ β} (h : ∀ s, Keeps rel (g s)) :
    Keeps rel (MonadState.get >>= g) :=
  fun s => Ensures.get (h s s)

variable [IsPreorder σ rel]

theorem Keeps.pure (a : α) : Keeps rel (Pure.pure a : StateM σ α) :=
  fun s => Ensures.pure (refl_of rel s)

theorem Keeps.bind {f : StateM σ α} {g : α → StateM σ β} (hf : Keeps rel f)
    (hg : ∀ a, Keeps rel (g a)) : Keeps rel (f >>= g) :=
  fun s => (hf s).bind fun a t h => (hg a t).mono fun _ _ h' => trans_of rel h h'

end Keeps

end StateProgram
