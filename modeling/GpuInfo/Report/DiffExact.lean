import GpuInfo.Report.Diff

/-!
The difference of two reports is empty exactly if they are equal, and the other way round it
is the same with the two sides of each line exchanged.
-/

namespace GpuInfo
open SortedMap

/-- Both are objects, or both are arrays. -/
def Json.Paired : Json → Json → Prop
  | .object _, .object _ | .array _, .array _ => True
  | _, _ => False

/-- The induction that `diffValue` follows. -/
theorem Json.pairs {P : Json → Json → Prop}
    (object : ∀ ma mb, (∀ k va vb, ma.lookup k = some va → mb.lookup k = some vb → P va vb) →
      P (.object ma) (.object mb))
    (array : ∀ aa ab : List Json, (∀ (i : Nat) va vb, aa[i]? = some va → ab[i]? = some vb →
      P va vb) → P (.array aa) (.array ab))
    (other : ∀ a b, ¬ a.Paired b → P a b) (a b : Json) : P a b := by
  by_cases h : a.Paired b
  · cases a with
    | object ma =>
        cases b with
        | object mb => exact object ma mb fun _ va vb _ _ => pairs object array other va vb
        | _ => cases h
    | array aa =>
        cases b with
        | array ab => exact array aa ab fun _ va vb _ _ => pairs object array other va vb
        | _ => cases h
    | _ => cases h
  · exact other a b h
termination_by sizeOf a
decreasing_by
  · exact Json.sizeOf_getElem? ‹_›
  · exact Json.sizeOf_lookup ‹_›

theorem forall₂_iff_getElem? {α : Type} {r : α → α → Prop} {as bs : List α} :
    List.Forall₂ r as bs ↔ ∀ i : Nat, Option.Rel r as[i]? bs[i]? := by
  induction as generalizing bs with
  | nil =>
      cases bs with
      | nil => exact ⟨fun _ _ => .none, fun _ => .nil⟩
      | cons b bs => exact ⟨nofun, fun h => nomatch h 0⟩
  | cons a as ih =>
      cases bs with
      | nil => exact ⟨nofun, fun h => nomatch h 0⟩
      | cons b bs =>
          rw [List.forall₂_cons, ih]
          have hfirst : Option.Rel r (some a) (some b) ↔ r a b := Option.rel_some_some
          rw [← hfirst]
          exact Nat.and_forall_add_one (p := fun i => Option.Rel r (a :: as)[i]? (b :: bs)[i]?)

/-- What a pair of sides comes to, where one may be missing. -/
def diffSides (path : String) : Option Json → Option Json → List DiffLine
  | some va, some vb => diffValue path va vb []
  | some va, none => [⟨path, .removed va⟩]
  | none, some vb => [⟨path, .added vb⟩]
  | none, none => []

/-- The walk only adds lines. -/
def Appends (a b : Json) : Prop :=
  ∀ path out, diffValue path a b out = out ++ diffValue path a b []

theorem Appends.sides (va vb : Option Json) (path : String) (out : List DiffLine) :
    (∀ a b, va = some a → vb = some b → Appends a b) →
    (match _h : va, vb with
      | some a, some b => diffValue path a b out
      | some a, none => out ++ [⟨path, .removed a⟩]
      | none, some b => out ++ [⟨path, .added b⟩]
      | none, none => out) = out ++ diffSides path va vb := by
  intro ih
  cases va with
  | none =>
      cases vb with
      | none => exact (List.append_nil out).symm
      | some b => rfl
  | some a =>
      cases vb with
      | none => rfl
      | some b => exact ih a b rfl rfl path out

theorem Appends.object {ma mb : List (String × Json)}
    (ih : ∀ k va vb, ma.lookup k = some va → mb.lookup k = some vb → Appends va vb)
    (path : String) (out : List DiffLine) : diffValue path (.object ma) (.object mb) out =
      out ++ (mergedKeys ma mb).flatMap fun k =>
        diffSides (keyPath path k) (ma.lookup k) (mb.lookup k) := by
  rw [diffValue, List.flatMap_def, ← List.foldl_append_eq_append]
  refine List.foldl_ext _ _ _ fun out k _ => ?_
  exact Appends.sides _ _ (keyPath path k) out (ih k)

theorem Appends.array {aa ab : List Json}
    (ih : ∀ (i : Nat) va vb, aa[i]? = some va → ab[i]? = some vb → Appends va vb)
    (path : String) (out : List DiffLine) : diffValue path (.array aa) (.array ab) out =
      out ++ (List.range (max aa.length ab.length)).flatMap fun i =>
        diffSides (indexPath path i) aa[i]? ab[i]? := by
  rw [diffValue, List.flatMap_def, ← List.foldl_append_eq_append]
  refine List.foldl_ext _ _ _ fun out i _ => ?_
  exact Appends.sides _ _ (indexPath path i) out (ih i)

theorem diffValue_other {path : String} {a b : Json} {out : List DiffLine} (h : ¬ a.Paired b) :
    diffValue path a b out = if a != b then out ++ [⟨path, .changed a b⟩] else out := by
  rw [diffValue]
  · rintro ma mb rfl rfl
    exact h trivial
  · rintro aa ab rfl rfl
    exact h trivial

theorem appends (a b : Json) : Appends a b := by
  induction a, b using Json.pairs with
  | object ma mb ih =>
      intro path out
      rw [Appends.object ih, Appends.object ih, List.nil_append]
  | array aa ab ih =>
      intro path out
      rw [Appends.array ih, Appends.array ih, List.nil_append]
  | other a b h =>
      intro path out
      rw [diffValue_other h, diffValue_other h]
      by_cases hne : (a != b) = true
      · rw [if_pos hne, if_pos hne, List.nil_append]
      · rw [if_neg hne, if_neg hne, List.append_nil]

theorem diffValue_object (path : String) (ma mb : List (String × Json)) :
    diffValue path (.object ma) (.object mb) [] = (mergedKeys ma mb).flatMap fun k =>
      diffSides (keyPath path k) (ma.lookup k) (mb.lookup k) :=
  Appends.object (fun _ va vb _ _ => appends va vb) path []

theorem diffValue_array (path : String) (aa ab : List Json) :
    diffValue path (.array aa) (.array ab) [] =
      (List.range (max aa.length ab.length)).flatMap fun i =>
        diffSides (indexPath path i) aa[i]? ab[i]? :=
  Appends.array (fun _ va vb _ _ => appends va vb) path []

/-! The other way round -/

def Change.swap : Change → Change
  | .changed old new => .changed new old
  | .removed old => .added old
  | .added new => .removed new

/-- The line with its sides exchanged. -/
def DiffLine.swap (line : DiffLine) : DiffLine := ⟨line.path, line.change.swap⟩

theorem Json.Paired.symm {a b : Json} (h : a.Paired b) : b.Paired a := by
  cases a <;> cases b <;> exact h

theorem Json.beq_comm_of_not_paired {a b : Json} (h : ¬ a.Paired b) : (a == b) = (b == a) := by
  cases a with
  | null => cases b <;> rfl
  | bool c =>
      cases b with
      | bool d => exact (BEq.comm : (c == d) = (d == c))
      | _ => rfl
  | number n =>
      cases b with
      | number m => exact n.beq_comm m
      | _ => rfl
  | string s =>
      cases b with
      | string t => exact (BEq.comm : (s == t) = (t == s))
      | _ => rfl
  | array aa =>
      cases b with
      | array ab => exact absurd trivial h
      | _ => rfl
  | object ma =>
      cases b with
      | object mb => exact absurd trivial h
      | _ => rfl

theorem diffSides_swap {va vb : Option Json}
    (h : ∀ a b, va = some a → vb = some b → ∀ path,
      diffValue path b a [] = (diffValue path a b []).map DiffLine.swap) (path : String) :
    diffSides path vb va = (diffSides path va vb).map DiffLine.swap := by
  cases va with
  | none => cases vb <;> rfl
  | some a =>
      cases vb with
      | none => rfl
      | some b => exact h a b rfl rfl path

theorem diffValue_swap (a b : Json) : ∀ path,
    diffValue path b a [] = (diffValue path a b []).map DiffLine.swap := by
  induction a, b using Json.pairs with
  | object ma mb ih =>
      intro path
      rw [diffValue_object, diffValue_object, mergedKeys_comm, List.map_flatMap]
      congr 1
      funext k
      exact diffSides_swap (ih k) (keyPath path k)
  | array aa ab ih =>
      intro path
      rw [diffValue_array, diffValue_array, Nat.max_comm, List.map_flatMap]
      congr 1
      funext i
      exact diffSides_swap (ih i) (indexPath path i)
  | other a b h =>
      intro path
      rw [diffValue_other h, diffValue_other fun hba => h hba.symm]
      rw [bne, bne, Json.beq_comm_of_not_paired h]
      by_cases hne : (!b == a) = true
      · rw [if_pos hne, if_pos hne]
        rfl
      · rw [if_neg hne, if_neg hne]
        rfl

/-! What an empty difference means -/

variable {path : String}

theorem diffSides_eq_nil {va vb : Option Json}
    (h : ∀ a b, va = some a → vb = some b → (diffValue path a b [] = [] ↔ (a == b) = true)) :
    diffSides path va vb = [] ↔ Option.Rel (fun a b => (a == b) = true) va vb := by
  cases va with
  | none =>
      cases vb with
      | none => exact ⟨fun _ => .none, fun _ => rfl⟩
      | some b => exact ⟨nofun, nofun⟩
  | some a =>
      cases vb with
      | none => exact ⟨nofun, nofun⟩
      | some b => rw [Option.rel_some_some, ← h a b rfl rfl, diffSides]

theorem diffValue_object_eq_nil {ma mb : List (String × Json)} (ha : (Json.object ma).Canonical)
    (hb : (Json.object mb).Canonical)
    (ih : ∀ k path, diffSides path (ma.lookup k) (mb.lookup k) = [] ↔
      Option.Rel (fun a b => (a == b) = true) (ma.lookup k) (mb.lookup k)) :
    diffValue path (.object ma) (.object mb) [] = [] ↔ (Json.object ma == .object mb) = true := by
  have hentries : (Json.object ma == .object mb) = true ↔
      ∀ k, Option.Rel (fun a b => (a == b) = true) (ma.lookup k) (mb.lookup k) := by
    rw [← agree_iff ha.sorted hb.sorted]
    exact Json.beqEntries_iff
  rw [hentries, diffValue_object, List.flatMap_eq_nil_iff]
  constructor
  · intro h k
    by_cases hk : k ∈ mergedKeys ma mb
    · exact (ih k _).mp (h k hk)
    · rw [mem_mergedKeys, not_or] at hk
      rw [lookup_eq_none hk.1, lookup_eq_none hk.2]
      exact .none
  · intro h k _
    exact (ih k _).mpr (h k)

theorem diffValue_array_eq_nil {aa ab : List Json}
    (ih : ∀ (i : Nat) path, diffSides path aa[i]? ab[i]? = [] ↔
      Option.Rel (fun a b => (a == b) = true) aa[i]? ab[i]?) :
    diffValue path (.array aa) (.array ab) [] = [] ↔ (Json.array aa == .array ab) = true := by
  have helements : (Json.array aa == .array ab) = true ↔
      ∀ i : Nat, Option.Rel (fun a b => (a == b) = true) aa[i]? ab[i]? := by
    rw [← forall₂_iff_getElem?]
    exact Json.beqElements_iff
  rw [helements, diffValue_array, List.flatMap_eq_nil_iff]
  constructor
  · intro h i
    by_cases hi : i < max aa.length ab.length
    · exact (ih i _).mp (h i (List.mem_range.mpr hi))
    · have hlength := not_lt.mp hi
      rw [List.getElem?_eq_none (le_trans (le_max_left _ _) hlength),
        List.getElem?_eq_none (le_trans (le_max_right _ _) hlength)]
      exact .none
  · intro h i _
    exact (ih i _).mpr (h i)

theorem diffValue_eq_nil (a b : Json) : a.Canonical → b.Canonical → ∀ path,
    (diffValue path a b [] = [] ↔ (a == b) = true) := by
  induction a, b using Json.pairs with
  | object ma mb ih =>
      intro ha hb path
      refine diffValue_object_eq_nil ha hb fun k path => diffSides_eq_nil fun va vb hva hvb => ?_
      exact ih k va vb hva hvb (ha.of_lookup hva) (hb.of_lookup hvb) path
  | array aa ab ih =>
      intro ha hb path
      refine diffValue_array_eq_nil fun i path => diffSides_eq_nil fun va vb hva hvb => ?_
      exact ih i va vb hva hvb (ha.of_getElem? hva) (hb.of_getElem? hvb) path
  | other a b h =>
      intro _ _ path
      rw [diffValue_other h, bne]
      by_cases heq : (a == b) = true
      · simp [heq]
      · simp [heq]

/-! The reports -/

/-- Every line at its path, the sides of each exchanged the other way round. -/
theorem report_diff_exact (a b : Value) (path : String) :
    (diffValue path a.json b.json [] = [] ↔ (a.json == b.json) = true) ∧
    diffValue path b.json a.json [] = (diffValue path a.json b.json []).map DiffLine.swap :=
  ⟨diffValue_eq_nil a.json b.json a.canonical b.canonical path,
    diffValue_swap a.json b.json path⟩

/-- No difference is printed exactly if the two forms are equal. -/
theorem GpuReport.diff_eq_nil {Report : Type} (toValue : Report → Value)
    (display : Json → String) (self other : Report) :
    GpuReport.diff toValue display self other = [] ↔
      ((toValue self).json == (toValue other).json) = true := by
  rw [GpuReport.diff, List.map_eq_nil_iff]
  exact diffValue_eq_nil _ _ (toValue self).canonical (toValue other).canonical ""

end GpuInfo
