import Mathlib.Data.List.DropRight
import Mathlib.Data.List.Infix

/-!
Texts as lists of characters, and what line parsers do with them: lines, prefixes, padding and
decimal numbers. What is printed one field a line is read again field by field, the last one of a
name first.
-/

namespace TextFields

/-! Deciding goes through the characters of a text, never through all that there are. -/

instance (priority := 2000) decidableForallMem {p : Char → Prop} [DecidablePred p]
    (text : List Char) : Decidable (∀ c ∈ text, p c) :=
  List.decidableBAll p text

instance (priority := 2000) decidableForallSome {p : Char → Prop} [DecidablePred p]
    (found : Option Char) : Decidable (∀ c ∈ found, p c) :=
  Option.decidableForallMem found

/-! Lines -/

/-- A line ends at a newline, with the return before it if there is one. -/
def lines : List Char → List (List Char)
  | [] => []
  | '\n' :: text => [] :: lines text
  | '\r' :: '\n' :: text => [] :: lines text
  | c :: text =>
      match lines text with
      | [] => [[c]]
      | line :: rest => (c :: line) :: rest

def unlines (all : List (List Char)) : List Char := all.flatMap (· ++ ['\n'])

/-- No character that ends a line. -/
def Inline (line : List Char) : Prop := ∀ c ∈ line, c ≠ '\n' ∧ c ≠ '\r'

instance (line : List Char) : Decidable (Inline line) := decidableForallMem line

theorem Inline.append {line line' : List Char} (h : Inline line) (h' : Inline line') :
    Inline (line ++ line') := by
  intro c hc
  cases List.mem_append.mp hc with
  | inl hmem => exact h c hmem
  | inr hmem => exact h' c hmem

theorem lines_append {line : List Char} (h : Inline line) (text : List Char) :
    lines (line ++ '\n' :: text) = line :: lines text := by
  induction line with
  | nil => rfl
  | cons c line ih =>
      obtain ⟨newline, turn⟩ := h c List.mem_cons_self
      have rest := ih fun d hd => h d (List.mem_cons_of_mem c hd)
      rw [List.cons_append, lines, rest]
      · exact newline
      · exact fun _ heq => absurd heq turn

theorem lines_unlines {all : List (List Char)} (h : ∀ line ∈ all, Inline line) :
    lines (unlines all) = all := by
  induction all with
  | nil => rfl
  | cons line all ih =>
      have first : unlines (line :: all) = line ++ '\n' :: unlines all := by
        rw [unlines, List.flatMap_cons, List.append_assoc, List.singleton_append, unlines]
      rw [first, lines_append (h line List.mem_cons_self),
        ih fun other hother => h other (List.mem_cons_of_mem line hother)]

/-! Prefixes -/

def stripPrefix (start text : List Char) : Option (List Char) :=
  if start <+: text then some (text.drop start.length) else none

theorem stripPrefix_append (start text : List Char) :
    stripPrefix start (start ++ text) = some text := by
  rw [stripPrefix, if_pos (List.prefix_append start text), List.drop_left]

/-- What ends a name occurs in no name, so names are told apart by it. -/
theorem name_prefix_iff {name other : List Char} {mark : Char} (h : mark ∉ name)
    (h' : mark ∉ other) (text : List Char) :
    name ++ [mark] <+: other ++ mark :: text ↔ other = name := by
  induction name generalizing other with
  | nil =>
      cases other with
      | nil => simp
      | cons d other =>
          have hne : mark ≠ d := fun heq => h' (heq ▸ List.mem_cons_self)
          simp [List.cons_prefix_cons, hne]
  | cons c name ih =>
      cases other with
      | nil =>
          have hne : c ≠ mark := fun heq => h (heq ▸ List.mem_cons_self)
          simp [List.cons_prefix_cons, hne]
      | cons d other =>
          have names := ih (fun hmem => h (List.mem_cons_of_mem c hmem))
            (fun hmem => h' (List.mem_cons_of_mem d hmem))
          rw [List.cons_append, List.cons_append, List.cons_prefix_cons, names, List.cons.injEq,
            eq_comm (a := c)]

theorem stripPrefix_name {name other : List Char} {mark : Char} (h : mark ∉ name)
    (h' : mark ∉ other) (text : List Char) :
    stripPrefix (name ++ [mark]) (other ++ mark :: text) =
      if other = name then some text else none := by
  by_cases heq : other = name
  · subst heq
    rw [if_pos rfl, List.append_cons other mark text, stripPrefix_append]
  · rw [if_neg heq, stripPrefix, if_neg fun hpre => heq ((name_prefix_iff h h' text).mp hpre)]

/-- What follows the first occurrence. -/
def afterFirst (mark : List Char) : List Char → Option (List Char)
  | [] => stripPrefix mark []
  | c :: text =>
      match stripPrefix mark (c :: text) with
      | some rest => some rest
      | none => afterFirst mark text

/-- What comes before the first occurrence, or all there is. -/
def beforeFirst (mark : List Char) : List Char → List Char
  | [] => []
  | c :: text => if mark <+: c :: text then [] else c :: beforeFirst mark text

/-- `str::contains` -/
def contains (mark text : List Char) : Bool := (afterFirst mark text).isSome

/-- Nothing begins where what the mark begins with does not stand. -/
theorem afterFirst_skip {c : Char} {start : List Char} (h : c ∉ start) (mark text : List Char) :
    afterFirst (c :: mark) (start ++ text) = afterFirst (c :: mark) text := by
  induction start with
  | nil => rfl
  | cons d start ih =>
      obtain ⟨hne, hrest⟩ := not_or.mp (mt List.mem_cons.mpr h)
      have here : stripPrefix (c :: mark) (d :: (start ++ text)) = none := by
        simp [stripPrefix, List.cons_prefix_cons, hne]
      rw [List.cons_append, afterFirst, here]
      exact ih hrest

theorem afterFirst_mark {mark : List Char} (h : mark ≠ []) (text : List Char) :
    afterFirst mark (mark ++ text) = some text := by
  cases mark with
  | nil => exact absurd rfl h
  | cons c mark => rw [List.cons_append, afterFirst, ← List.cons_append, stripPrefix_append]

theorem afterFirst_eq_none {mark text : List Char} (h : ¬ mark <:+: text) :
    afterFirst mark text = none := by
  induction text with
  | nil => exact if_neg fun hpre => h hpre.isInfix
  | cons c text ih =>
      have here : stripPrefix mark (c :: text) = none := if_neg fun hpre => h hpre.isInfix
      rw [afterFirst, here]
      exact ih fun hinfix => h (List.infix_cons hinfix)

theorem not_infix_append {c : Char} {word start text : List Char} (hstart : c ∉ start)
    (h : ¬ c :: word <:+: text) : ¬ c :: word <:+: start ++ text := by
  induction start with
  | nil => exact h
  | cons d start ih =>
      obtain ⟨hne, hrest⟩ := not_or.mp (mt List.mem_cons.mpr hstart)
      rw [List.cons_append, List.infix_cons_iff, List.cons_prefix_cons]
      rintro (here | later)
      · exact hne here.1
      · exact ih hrest later

theorem beforeFirst_of_not_infix {mark text : List Char} (h : ¬ mark <:+: text) :
    beforeFirst mark text = text := by
  induction text with
  | nil => rfl
  | cons c text ih =>
      rw [beforeFirst, if_neg fun hpre => h hpre.isInfix,
        ih fun hinfix => h (List.infix_cons hinfix)]

/-- A word that begins with its own first character, as long as the one that stands there. -/
theorem contains_word {c : Char} {word other start rest : List Char} (hstart : c ∉ start)
    (hother : c ∉ other) (length : word.length = other.length) (hrest : ¬ c :: word <:+: rest) :
    contains (c :: word) (start ++ c :: other ++ rest) = true ↔ other = word := by
  have found : afterFirst (c :: word) (start ++ c :: other ++ rest) =
      if other = word then some rest else none := by
    rw [List.append_assoc, afterFirst_skip hstart]
    by_cases heq : other = word
    · rw [heq, if_pos rfl, afterFirst_mark (List.cons_ne_nil c word)]
    · have here : stripPrefix (c :: word) (c :: (other ++ rest)) = none := by
        refine if_neg fun hpre => heq ?_
        have inside : word <+: other ++ rest := (List.cons_prefix_cons.mp hpre).2
        have short := List.prefix_of_prefix_length_le inside (List.prefix_append other rest)
          length.le
        exact (short.eq_of_length length).symm
      rw [List.cons_append, afterFirst, here, if_neg heq]
      exact (afterFirst_skip hother word rest).trans (afterFirst_eq_none hrest)
  rw [contains, found]
  by_cases heq : other = word <;> simp [heq]

/-- What follows the last occurrence. -/
def afterLast (mark : List Char) : List Char → Option (List Char)
  | [] => stripPrefix mark []
  | c :: text =>
      match afterLast mark text with
      | some rest => some rest
      | none => stripPrefix mark (c :: text)

/-- Where what the mark begins with does not occur again. -/
theorem afterLast_mark {c : Char} {mark text : List Char} (hmark : c ∉ mark) (htext : c ∉ text)
    (start : List Char) :
    afterLast (c :: mark) (start ++ c :: mark ++ text) = some text := by
  have later : ∀ rest, c ∉ rest → afterLast (c :: mark) rest = none := by
    intro rest hrest
    induction rest with
    | nil => rfl
    | cons d rest ih =>
        obtain ⟨hne, hrest⟩ := not_or.mp (mt List.mem_cons.mpr hrest)
        rw [afterLast, ih hrest]
        simp [stripPrefix, List.cons_prefix_cons, hne]
  induction start with
  | nil =>
      have none := later (mark ++ text) fun hmem =>
        (List.mem_append.mp hmem).elim hmark htext
      rw [List.nil_append, List.cons_append, afterLast, none]
      exact stripPrefix_append (c :: mark) text
  | cons d start ih =>
      rw [List.cons_append, List.cons_append, afterLast, ih]

/-! Padding -/

/-- Without the characters of a kind at both ends. -/
def trimBy (kind : Char → Bool) (text : List Char) : List Char :=
  (text.dropWhile kind).rdropWhile kind

theorem rdropWhile_append {kind : Char → Bool} {right : List Char} (h : ∀ c ∈ right, kind c)
    (word : List Char) : (word ++ right).rdropWhile kind = word.rdropWhile kind := by
  rw [List.rdropWhile, List.reverse_append, List.dropWhile_append_of_pos (by simpa using h)]
  rfl

theorem rdropWhile_of_last {kind : Char → Bool} {word : List Char}
    (h : ∀ c ∈ word.getLast?, ¬ kind c) : word.rdropWhile kind = word :=
  List.rdropWhile_eq_self_iff.mpr fun hne => h _ (List.getLast?_eq_some_getLast hne)

theorem trimBy_padded {kind : Char → Bool} {left word right : List Char}
    (hleft : ∀ c ∈ left, kind c) (hright : ∀ c ∈ right, kind c)
    (hfirst : ∀ c ∈ word.head?, ¬ kind c) (hlast : ∀ c ∈ word.getLast?, ¬ kind c) :
    trimBy kind (left ++ word ++ right) = word := by
  have inner : (left ++ word ++ right).dropWhile kind = (word ++ right).dropWhile kind := by
    rw [List.append_assoc, List.dropWhile_append_of_pos hleft]
  rw [trimBy, inner]
  cases word with
  | nil =>
      rw [List.nil_append, List.dropWhile_eq_nil_iff.mpr hright, List.rdropWhile_nil]
  | cons c word =>
      rw [List.cons_append, List.dropWhile_cons_of_neg (hfirst c rfl), ← List.cons_append,
        rdropWhile_append hright, rdropWhile_of_last hlast]

/-! Decimal numbers -/

/-- `str::parse` of an unsigned integer: a plus sign at most, and digits. -/
def parseDecimal (limit : Nat) (text : List Char) : Option Nat :=
  let digits := match text with
    | '+' :: digits => digits
    | digits => digits
  if digits ≠ [] ∧ digits.all Char.isDigit then
    let value := Nat.ofDigitChars 10 digits 0
    if value ≤ limit then some value else none
  else none

theorem digits_ne_plus {value : Nat} {c : Char} (h : c ∈ Nat.toDigits 10 value) : c ≠ '+' := by
  have digit := Nat.isDigit_of_mem_toDigits (by decide) (by decide) h
  rintro rfl
  exact absurd digit (by decide)

theorem parseDecimal_toDigits (limit value : Nat) :
    parseDecimal limit (Nat.toDigits 10 value) = if value ≤ limit then some value else none := by
  have digits : (Nat.toDigits 10 value).all Char.isDigit := List.all_eq_true.mpr fun c hc =>
    Nat.isDigit_of_mem_toDigits (by decide) (by decide) hc
  unfold parseDecimal
  split
  next rest heq =>
    have plus : '+' ∈ Nat.toDigits 10 value := heq ▸ List.mem_cons_self
    exact absurd rfl (digits_ne_plus plus)
  next =>
    simp only [ne_eq, Nat.toDigits_ne_nil, not_false_eq_true, digits, and_self, if_true,
      Nat.ofDigitChars_ten_toDigits]

/-! Fields -/

theorem stripPrefix_other {start other line rest : List Char} (h : ¬ start <+: other)
    (h' : ¬ other <+: start) (hline : stripPrefix start line = some rest) :
    stripPrefix other line = none := by
  have hstart : start <+: line := by
    by_contra hnot
    rw [stripPrefix, if_neg hnot] at hline
    cases hline
  rw [stripPrefix, if_neg]
  intro hother
  cases List.prefix_or_prefix_of_prefix hstart hother with
  | inl hpre => exact h hpre
  | inr hpre => exact h' hpre

/-- What a loop over lines has in the end that keeps what it reads behind a prefix. -/
def lastOf {α : Type} (read : List Char → α) (start : List Char) (initial : α)
    (all : List (List Char)) : α :=
  all.foldl (fun value line => ((stripPrefix start line).map read).getD value) initial

/-- The value of the last field of that name. -/
def valueOf {F V : Type} (name : F → List Char) (value : F → V) (initial : V) (fields : List F)
    (wanted : List Char) : V :=
  ((fields.reverse.find? fun field => name field = wanted).map value).getD initial

theorem valueOf_concat {F V : Type} (name : F → List Char) (value : F → V) (initial : V)
    (fields : List F) (field : F) (wanted : List Char) :
    valueOf name value initial (fields ++ [field]) wanted =
      if name field = wanted then value field else valueOf name value initial fields wanted := by
  by_cases heq : name field = wanted <;> simp [valueOf, heq]

/-- Where each field is a line that begins with its name and the mark. -/
theorem lastOf_named {F V : Type} {name text : F → List Char} {value : F → V}
    {read : List Char → V} {mark : Char} {wanted : List Char} (initial : V) {fields : List F}
    (hwanted : mark ∉ wanted) (h : ∀ field ∈ fields, mark ∉ name field)
    (hread : ∀ field ∈ fields, read (text field) = value field) :
    lastOf read (wanted ++ [mark]) initial
        (fields.map fun field => name field ++ mark :: text field) =
      valueOf name value initial fields wanted := by
  induction fields using List.reverseRecOn with
  | nil => rfl
  | append_singleton fields field ih =>
      have earlier := ih (fun other hother => h other (List.mem_append_left _ hother))
        fun other hother => hread other (List.mem_append_left _ hother)
      have own : field ∈ fields ++ [field] := List.mem_append_right _ List.mem_cons_self
      unfold lastOf at earlier ⊢
      rw [List.map_append, List.foldl_append, earlier, List.map_singleton, List.foldl_cons,
        List.foldl_nil, stripPrefix_name hwanted (h field own), valueOf_concat, ← hread field own]
      by_cases heq : name field = wanted <;> simp [heq]

end TextFields
