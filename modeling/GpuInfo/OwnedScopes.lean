import GpuInfo.CallProgram
import Mathlib.Data.List.Basic

/-!
Scopes that own what their locals hold, and locks. A local holds the guard of a lock or a value
that knows how it is dropped. A scope ends by dropping what its locals still hold, the newest
first, whichever way it is left, and a panic is one of the ways. The rules go through a function
in the order of its text with the locals and the locks held at each point: a destructor may
only start where no lock is held, and the locks are taken in the order of their ranks.
-/

namespace OwnedScopes
open CallProgram

/-- Locks, the data they protect and the order in which they are taken, resources, and what a
function may ask of the world. -/
structure Signature where
  Lock : Type
  Data : Lock → Type
  rank : Lock → Nat
  Resource : Type
  Question : Type
  Reply : Question → Type

variable {S : Signature} {X α β : Type}

inductive Op (S : Signature)
  | lock (l : S.Lock)
  /-- The lock is released with these data. -/
  | unlock (l : S.Lock) (data : S.Data l)
  /-- The destructor of a resource starts. -/
  | destroy (resource : S.Resource)
  | ask (question : S.Question)

/-- A destructor answers whether it unwinds. -/
abbrev Op.Answer : Op S → Type
  | .lock l => S.Data l
  | .unlock _ _ => Unit
  | .destroy _ => Bool
  | .ask question => S.Reply question

/-- A function that answers nothing unwinds. -/
abbrev Routine (S : Signature) (α : Type) := Program (Op S) Op.Answer (Option α)

namespace Routine

/-- A panic of the first does not keep the second from being run. -/
def both (first next : Routine S Unit) : Routine S Unit :=
  first.bind fun left => next.bind fun right => .done (left.bind fun _ => right)

def dropAll : List (Routine S Unit) → Routine S Unit
  | [] => .done (some ())
  | glue :: glues => both glue (dropAll glues)

/-- The destructor of a resource is run. -/
def destroy (resource : S.Resource) : Routine S Unit :=
  .call (.destroy resource) fun unwinds => .done (if unwinds then none else some ())

end Routine

/-- What a local holds: a guard with the data it protects, or a value with its drop glue. -/
inductive Item (S : Signature)
  | guard (l : S.Lock) (data : S.Data l)
  | owned (glue : Routine S Unit)

/-- The locals of one scope, the newest first; one that has been moved out of holds nothing. -/
abbrev Frame (S : Signature) (X : Type) := List (X × Option (Item S))

/-- The scopes that are open, the innermost first. -/
abbrev Stack (S : Signature) (X : Type) := List (Frame S X)

/-- Code within a function. -/
def Code (S : Signature) (X α : Type) : Type :=
  Stack S X → Program (Op S) Op.Answer (Option α × Stack S X)

def Item.drop : Option (Item S) → Routine S Unit
  | some (.guard l data) => .call (.unlock l data) fun _ => .done (some ())
  | some (.owned glue) => glue
  | none => .done (some ())

namespace Frame

def drop (frame : Frame S X) : Routine S Unit :=
  Routine.dropAll (frame.map fun slot => Item.drop slot.2)

/-- Give a local another content; the first component is what it has held. -/
@[simp] def replace [DecidableEq X] (x : X) (content : Option (Item S)) :
    Frame S X → Option (Option (Item S) × Frame S X)
  | [] => none
  | (y, held) :: frame =>
      if y = x then some (held, (y, content) :: frame)
      else (replace x content frame).map fun found => (found.1, (y, held) :: found.2)

end Frame

namespace Stack

@[simp] def push (x : X) (item : Item S) : Stack S X → Stack S X
  | [] => [[(x, some item)]]
  | frame :: frames => ((x, some item) :: frame) :: frames

/-- As `Frame.replace`, in the innermost scope that has such a local. -/
@[simp] def replace [DecidableEq X] (x : X) (content : Option (Item S)) :
    Stack S X → Option (Item S) × Stack S X
  | [] => (none, [])
  | frame :: frames =>
      match frame.replace x content with
      | some found => (found.1, found.2 :: frames)
      | none => ((replace x content frames).1, frame :: (replace x content frames).2)

/-- All scopes are left. -/
def drop : Stack S X → Routine S Unit
  | [] => .done (some ())
  | frame :: frames => Routine.both frame.drop (drop frames)

end Stack

namespace Code

instance : Monad (Code S X) where
  pure a stack := .done (some a, stack)
  bind code f stack := (code stack).bind fun result =>
    match result.1 with
    | some a => f a result.2
    | none => .done (none, result.2)

def unwind : Code S X α := fun stack => .done (none, stack)

/-- The value of an operation that unwinds where it fails. -/
def checked {ε : Type} : Except ε α → Code S X α
  | .ok a => pure a
  | .error _ => unwind

def ask (question : S.Question) : Code S X (S.Reply question) := fun stack =>
  .call (.ask question) fun reply => .done (some reply, stack)

/-- A call of a function, which has its own locals. -/
def call (routine : Routine S α) : Code S X α := fun stack =>
  routine.bind fun answer => .done (answer, stack)

/-- A call whose panic is caught. -/
def catchUnwind (routine : Routine S α) : Code S X (Option α) := fun stack =>
  routine.bind fun answer => .done (some answer, stack)

/-- A new local holds a value. -/
def own (x : X) (glue : Routine S Unit) : Code S X Unit := fun stack =>
  .done (some (), stack.push x (.owned glue))

/-- A new local holds the guard of a lock. -/
def lock (x : X) (l : S.Lock) : Code S X (S.Data l) := fun stack =>
  .call (.lock l) fun data => .done (some data, stack.push x (.guard l data))

/-- A block: its own locals are dropped at its end. -/
def scope (code : Code S X α) : Code S X α := fun stack =>
  (code ([] :: stack)).bind fun result =>
    match result.2 with
    | [] => .done (result.1, [])
    | frame :: frames =>
        frame.drop.bind fun left => .done (left.bind fun _ => result.1, frames)

/-- The body of a function; its parameters are its oldest locals. -/
def body (code : Code S X α) : Routine S α :=
  (code [[]]).bind fun result =>
    (Stack.drop result.2).bind fun left => .done (left.bind fun _ => result.1)

variable [DecidableEq X]

/-- Write to what a guard protects. -/
def write (x : X) (l : S.Lock) (data : S.Data l) : Code S X Unit := fun stack =>
  .done (some (), (stack.replace x (some (.guard l data))).2)

/-- What a local owns has changed. -/
def reown (x : X) (glue : Routine S Unit) : Code S X Unit := fun stack =>
  .done (some (), (stack.replace x (some (.owned glue))).2)

/-- What a local holds is given away. -/
def moveOut (x : X) : Code S X Unit := fun stack =>
  .done (some (), (stack.replace x none).2)

def dropLocal (x : X) : Code S X Unit := fun stack =>
  (Item.drop (stack.replace x none).1).bind fun left => .done (left, (stack.replace x none).2)

/-- A local that has been moved out of gets a new guard. -/
def relock (x : X) (l : S.Lock) : Code S X (S.Data l) := fun stack =>
  .call (.lock l) fun data => .done (some data, (stack.replace x (some (.guard l data))).2)

end Code

section Rules
variable [DecidableEq S.Lock] {inv : (l : S.Lock) → S.Data l → Prop}

/-- What a thread that holds these locks may do. -/
def Op.Allowed (inv : (l : S.Lock) → S.Data l → Prop) (held : List S.Lock) : Op S → Prop
  | .lock l => ∀ other ∈ held, S.rank other < S.rank l
  | .unlock l data => l ∈ held ∧ inv l data
  | .destroy _ => held = []
  | .ask _ => True

/-- What a thread holds after an operation; the data it finds satisfy their invariant. -/
def Op.Moves (inv : (l : S.Lock) → S.Data l → Prop) (held : List S.Lock) :
    (op : Op S) → op.Answer → List S.Lock → Prop
  | .lock l, data, held' => inv l data ∧ held' = l :: held
  | .unlock l _, _, held' => held' = held.erase l
  | .destroy _, _, held' | .ask _, _, held' => held' = held

/-- Every operation is allowed where it is done. -/
abbrev Disciplined (inv : (l : S.Lock) → S.Data l → Prop)
    (program : Program (Op S) Op.Answer α) (post : α → List S.Lock → Prop)
    (held : List S.Lock) : Prop :=
  program.Safe (Op.Allowed inv) (Op.Moves inv) post held

/-- A function that is called without a lock, and returns or unwinds without one. -/
def Routine.Clean (inv : (l : S.Lock) → S.Data l → Prop) (routine : Routine S α) : Prop :=
  Disciplined inv routine (fun _ held => held = []) []

namespace Routine

theorem both_disciplined {first next : Routine S Unit} {post : List S.Lock → Prop}
    {held : List S.Lock}
    (h : Disciplined inv first (fun _ => Disciplined inv next fun _ => post) held) :
    Disciplined inv (both first next) (fun _ => post) held :=
  Program.Safe.bind (h.mono fun _ _ hnext => Program.Safe.bind hnext)

theorem Clean.done (answer : Option α) : Clean inv (.done answer : Routine S α) := rfl

theorem Clean.both {first next : Routine S Unit} (hfirst : first.Clean inv)
    (hnext : next.Clean inv) : (both first next).Clean inv := by
  refine both_disciplined (hfirst.mono fun _ held hheld => ?_)
  rw [hheld]
  exact hnext

theorem Clean.dropAll {glues : List (Routine S Unit)} (h : ∀ glue ∈ glues, glue.Clean inv) :
    (dropAll glues).Clean inv := by
  induction glues with
  | nil => exact Clean.done (some ())
  | cons glue glues ih =>
      exact .both (h glue List.mem_cons_self) (ih fun glue hglue => h glue (.tail _ hglue))

theorem Clean.destroy (resource : S.Resource) : (destroy resource).Clean inv :=
  ⟨rfl, fun _ _ moved => moved⟩

theorem Clean.andThen {routine : Routine S α} {next : Option α → Routine S β}
    (h : routine.Clean inv) (hnext : ∀ answer, (next answer).Clean inv) :
    Clean inv (routine.bind next : Routine S β) := by
  refine Program.Safe.bind (h.mono fun answer held hheld => ?_)
  rw [hheld]
  exact hnext answer

end Routine

/-- The locals of a scope can be dropped, and what is then held satisfies `post`. -/
@[simp] def Frame.Sheds (inv : (l : S.Lock) → S.Data l → Prop) (post : List S.Lock → Prop) :
    Frame S X → List S.Lock → Prop
  | [], held => post held
  | (_, none) :: frame, held => Frame.Sheds inv post frame held
  | (_, some (.guard l data)) :: frame, held =>
      l ∈ held ∧ inv l data ∧ Frame.Sheds inv post frame (held.erase l)
  | (_, some (.owned glue)) :: frame, held =>
      held = [] ∧ glue.Clean inv ∧ Frame.Sheds inv post frame []

/-- All scopes can be left, as a panic leaves them. -/
@[simp] def Stack.Sheds (inv : (l : S.Lock) → S.Data l → Prop) :
    Stack S X → List S.Lock → Prop
  | [], held => held = []
  | frame :: frames, held => Frame.Sheds inv (Stack.Sheds inv frames) frame held

/-- The newest guard is of the newest lock. -/
theorem Frame.Sheds.guard {post : List S.Lock → Prop} (x : X) {l : S.Lock} {data : S.Data l}
    {frame : Frame S X} {held : List S.Lock} (hdata : inv l data)
    (h : Frame.Sheds inv post frame held) :
    Frame.Sheds inv post ((x, some (.guard l data)) :: frame) (l :: held) := by
  refine ⟨List.mem_cons_self, hdata, ?_⟩
  rwa [List.erase_cons_head]

theorem Frame.drop_disciplined {post : List S.Lock → Prop} {frame : Frame S X}
    {held : List S.Lock} (h : Frame.Sheds inv post frame held) :
    Disciplined inv (Frame.drop frame) (fun _ => post) held := by
  induction frame generalizing held with
  | nil => exact h
  | cons slot frame ih =>
      obtain ⟨x, content⟩ := slot
      refine Routine.both_disciplined ?_
      cases content with
      | none => exact ih h
      | some item =>
          cases item with
          | guard l data =>
              refine ⟨⟨h.1, h.2.1⟩, fun _ held' moved => ?_⟩
              rw [show held' = held.erase l from moved]
              exact ih h.2.2
          | owned glue =>
              rw [h.1]
              refine h.2.1.mono fun _ held' hheld => ?_
              rw [hheld]
              exact ih h.2.2

theorem Stack.drop_disciplined {stack : Stack S X} {held : List S.Lock}
    (h : Stack.Sheds inv stack held) :
    Disciplined inv stack.drop (fun _ held => held = []) held := by
  induction stack generalizing held with
  | nil => exact h
  | cons frame frames ih =>
      exact Routine.both_disciplined ((Frame.drop_disciplined h).mono fun _ _ hframes => ih hframes)

/-- From these locals and locks, code goes on to what satisfies `post`, or it unwinds and all
scopes can be left. -/
def Code.Meets (inv : (l : S.Lock) → S.Data l → Prop) (code : Code S X α)
    (post : α → Stack S X → List S.Lock → Prop) (stack : Stack S X) (held : List S.Lock) : Prop :=
  Disciplined inv (code stack) (fun result held' =>
    match result.1 with
    | some a => post a result.2 held'
    | none => Stack.Sheds inv result.2 held') held

/-- What holds after a block: its locals can be dropped, and then `post` holds, or all scopes
around it can be left. -/
@[simp] def Stack.Scoped (inv : (l : S.Lock) → S.Data l → Prop)
    (post : α → Stack S X → List S.Lock → Prop) (a : α) : Stack S X → List S.Lock → Prop
  | [], _ => False
  | frame :: frames, held => Frame.Sheds inv
      (fun held => post a frames held ∧ Stack.Sheds inv frames held) frame held

namespace Code
variable {post : α → Stack S X → List S.Lock → Prop} {stack : Stack S X} {held : List S.Lock}

theorem Meets.pure {a : α} (h : post a stack held) :
    (Pure.pure a : Code S X α).Meets inv post stack held := h

theorem Meets.bind {code : Code S X α} {f : α → Code S X β}
    {post : β → Stack S X → List S.Lock → Prop}
    (h : code.Meets inv (fun a => (f a).Meets inv post) stack held) :
    (code >>= f).Meets inv post stack held := by
  refine Program.Safe.bind (h.mono fun result held' hresult => ?_)
  obtain ⟨answer, stack'⟩ := result
  cases answer with
  | none => exact hresult
  | some a => exact hresult

theorem Meets.unwind (h : Stack.Sheds inv stack held) :
    (unwind : Code S X α).Meets inv post stack held := h

theorem Meets.checked {ε : Type} {result : Except ε α} (leave : Stack.Sheds inv stack held)
    (h : ∀ a, post a stack held) :
    (Code.checked result : Code S X α).Meets inv post stack held := by
  cases result with
  | ok a => exact h a
  | error e => exact leave

/-- The operation does not fail. -/
theorem Meets.exact {ε : Type} {result : Except ε α} {a : α} (ok : result = .ok a)
    (h : post a stack held) : (Code.checked result : Code S X α).Meets inv post stack held := by
  rw [ok]
  exact h

theorem Meets.ask {question : S.Question} {post : S.Reply question → Stack S X →
    List S.Lock → Prop} (h : ∀ reply, post reply stack held) :
    (ask question).Meets inv post stack held := by
  refine ⟨trivial, fun reply held' moved => ?_⟩
  rw [show held' = held from moved]
  exact h reply

theorem Meets.call {routine : Routine S α} (h : routine.Clean inv) (unlocked : held = [])
    (leave : Stack.Sheds inv stack []) (goOn : ∀ a, post a stack []) :
    (call routine).Meets inv post stack held := by
  subst unlocked
  refine Program.Safe.bind (h.mono fun answer held' hheld => ?_)
  rw [hheld]
  cases answer with
  | none => exact leave
  | some a => exact goOn a

theorem Meets.catchUnwind {routine : Routine S α} {post : Option α → Stack S X →
    List S.Lock → Prop} (h : routine.Clean inv) (unlocked : held = [])
    (goOn : ∀ answer, post answer stack []) :
    (catchUnwind routine).Meets inv post stack held := by
  subst unlocked
  refine Program.Safe.bind (h.mono fun answer held' hheld => ?_)
  rw [hheld]
  exact goOn answer

theorem Meets.own {x : X} {glue : Routine S Unit} {post : Unit → Stack S X → List S.Lock → Prop}
    (h : post () (stack.push x (.owned glue)) held) :
    (own x glue).Meets inv post stack held := h

theorem Meets.lock {x : X} {l : S.Lock} {post : S.Data l → Stack S X → List S.Lock → Prop}
    (first : ∀ other ∈ held, S.rank other < S.rank l)
    (h : ∀ data, inv l data → post data (stack.push x (.guard l data)) (l :: held)) :
    (lock x l).Meets inv post stack held := by
  refine ⟨first, fun data held' moved => ?_⟩
  rw [moved.2]
  exact h data moved.1

theorem Meets.scope {code : Code S X α}
    (h : code.Meets inv (Stack.Scoped inv post) ([] :: stack) held) :
    (scope code).Meets inv post stack held := by
  refine Program.Safe.bind (h.mono fun result held' hresult => ?_)
  obtain ⟨answer, _ | ⟨frame, frames⟩⟩ := result
  · cases answer with
    | none => exact hresult
    | some a => exact hresult.elim
  · cases answer with
    | none =>
        refine Program.Safe.bind ((Frame.drop_disciplined hresult).mono fun left _ hleave => ?_)
        cases left with
        | none => exact hleave
        | some _ => exact hleave
    | some a =>
        refine Program.Safe.bind ((Frame.drop_disciplined hresult).mono fun left _ hleave => ?_)
        cases left with
        | none => exact hleave.2
        | some _ => exact hleave.1

/-- A function is clean if all its scopes can be left from wherever its code ends. -/
theorem Meets.body {code : Code S X α}
    (h : code.Meets inv (fun _ => Stack.Sheds inv) [[]] []) : (body code).Clean inv := by
  refine Program.Safe.bind (h.mono fun result held hresult => ?_)
  have hleave : Stack.Sheds inv result.2 held := by
    obtain ⟨answer, stack⟩ := result
    cases answer with
    | none => exact hresult
    | some a => exact hresult
  exact Program.Safe.bind (Stack.drop_disciplined hleave)

variable [DecidableEq X]

theorem Meets.write {x : X} {l : S.Lock} {data : S.Data l}
    {post : Unit → Stack S X → List S.Lock → Prop}
    (h : post () (stack.replace x (some (.guard l data))).2 held) :
    (write x l data).Meets inv post stack held := h

theorem Meets.reown {x : X} {glue : Routine S Unit}
    {post : Unit → Stack S X → List S.Lock → Prop}
    (h : post () (stack.replace x (some (.owned glue))).2 held) :
    (reown x glue).Meets inv post stack held := h

theorem Meets.moveOut {x : X} {post : Unit → Stack S X → List S.Lock → Prop}
    (h : post () (stack.replace x none).2 held) : (moveOut x).Meets inv post stack held := h

/-- The guard of the newest lock is dropped. -/
theorem Meets.unlock {x : X} {l : S.Lock} {data : S.Data l} {stack' : Stack S X}
    {post : Unit → Stack S X → List S.Lock → Prop}
    (found : stack.replace x none = (some (.guard l data), stack')) (hdata : inv l data)
    (h : post () stack' held) : (dropLocal x).Meets inv post stack (l :: held) := by
  rw [Code.Meets, dropLocal, found]
  refine ⟨⟨List.mem_cons_self, hdata⟩, fun _ held' moved => ?_⟩
  rw [show held' = (l :: held).erase l from moved, List.erase_cons_head]
  exact h

/-- A value is dropped, and its destructor may unwind. -/
theorem Meets.dropOwned {x : X} {glue : Routine S Unit} {stack' : Stack S X}
    {post : Unit → Stack S X → List S.Lock → Prop}
    (found : stack.replace x none = (some (.owned glue), stack')) (hglue : glue.Clean inv)
    (unlocked : held = []) (leave : Stack.Sheds inv stack' []) (h : post () stack' []) :
    (dropLocal x).Meets inv post stack held := by
  rw [Code.Meets, dropLocal, found]
  exact Meets.call hglue unlocked leave fun _ => h

theorem Meets.relock {x : X} {l : S.Lock} {post : S.Data l → Stack S X → List S.Lock → Prop}
    (first : ∀ other ∈ held, S.rank other < S.rank l)
    (h : ∀ data, inv l data →
      post data (stack.replace x (some (.guard l data))).2 (l :: held)) :
    (relock x l).Meets inv post stack held := by
  refine ⟨first, fun data held' moved => ?_⟩
  rw [moved.2]
  exact h data moved.1

end Code
end Rules

end OwnedScopes
