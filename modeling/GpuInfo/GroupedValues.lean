import Mathlib.Data.List.Basic
import Mathlib.Data.List.Induction
import Mathlib.Data.List.Nodup

/-!
Values that are combined group by group in one pass: a row a group, in the order in which the
groups come up. In the end each row has what its own values combine to, one after the other.
-/

namespace GroupedValues
universe u v
variable {K : Type u} {V : Type v} [DecidableEq K] (combine : V → V → V)

def put (k : K) (v : V) : List (K × V) → List (K × V)
  | [] => [(k, v)]
  | row :: rows =>
      if row.1 = k then (row.1, combine row.2 v) :: rows else row :: put k v rows

def groups (pairs : List (K × V)) : List (K × V) :=
  pairs.foldl (fun rows pair => put combine pair.1 pair.2 rows) []

/-- What is to be combined in one group. -/
def valuesOf (k : K) (pairs : List (K × V)) : List V :=
  (pairs.filter fun pair => pair.1 = k).map Prod.snd

def combined : List V → Option V
  | [] => none
  | v :: values => some (values.foldl combine v)

theorem combined_concat (values : List V) (v : V) :
    combined combine (values ++ [v]) =
      some (((combined combine values).map (combine · v)).getD v) := by
  cases values with
  | nil => rfl
  | cons first values => simp [combined]

theorem keys_put (k : K) (v : V) (rows : List (K × V)) :
    (put combine k v rows).map Prod.fst =
      if k ∈ rows.map Prod.fst then rows.map Prod.fst else rows.map Prod.fst ++ [k] := by
  induction rows with
  | nil => rfl
  | cons row rows ih =>
      by_cases heq : row.1 = k
      · simp [put, heq]
      · have hne : k ≠ row.1 := fun h => heq h.symm
        rw [put, if_neg heq, List.map_cons, ih]
        by_cases hmem : k ∈ rows.map Prod.fst
        · rw [if_pos hmem, List.map_cons, if_pos (List.mem_cons_of_mem _ hmem)]
        · rw [if_neg hmem, List.map_cons, if_neg (by simp [hne, hmem]), List.cons_append]

theorem nodup_put (k : K) (v : V) {rows : List (K × V)} (h : (rows.map Prod.fst).Nodup) :
    ((put combine k v rows).map Prod.fst).Nodup := by
  rw [keys_put]
  split
  · exact h
  · next hnot => exact List.nodup_append.mpr ⟨h, List.nodup_singleton k, by
      rintro other hother _ hk rfl
      rw [List.mem_singleton.mp hk] at hother
      exact hnot hother⟩

theorem lookup_put (k : K) (v : V) (rows : List (K × V)) (wanted : K) :
    (put combine k v rows).lookup wanted =
      if wanted = k then some (((rows.lookup k).map (combine · v)).getD v)
      else rows.lookup wanted := by
  induction rows with
  | nil => by_cases heq : wanted = k <;> simp [put, heq]
  | cons row rows ih =>
      obtain ⟨key, old⟩ := row
      by_cases hkey : key = k
      · subst hkey
        by_cases heq : wanted = key
        · simp [put, heq]
        · have hne : (wanted == key) = false := beq_false_of_ne heq
          simp [put, List.lookup_cons, hne, heq]
      · rw [put, if_neg hkey, List.lookup_cons, ih]
        by_cases heq : wanted = k
        · subst heq
          simp [List.lookup_cons, beq_false_of_ne (Ne.symm hkey)]
        · simp [List.lookup_cons, heq]

theorem groups_concat (pairs : List (K × V)) (pair : K × V) :
    groups combine (pairs ++ [pair]) = put combine pair.1 pair.2 (groups combine pairs) := by
  rw [groups, List.foldl_append]
  rfl

/-- A row has what the values of its group combine to. -/
theorem lookup_groups (pairs : List (K × V)) (k : K) :
    (groups combine pairs).lookup k = combined combine (valuesOf k pairs) := by
  induction pairs using List.reverseRecOn with
  | nil => rfl
  | append_singleton pairs pair ih =>
      rw [groups_concat, lookup_put]
      by_cases heq : k = pair.1
      · subst heq
        rw [if_pos rfl, ih]
        simp [valuesOf, combined_concat]
      · rw [if_neg heq, ih]
        simp [valuesOf, Ne.symm heq]

theorem nodup_groups (pairs : List (K × V)) : ((groups combine pairs).map Prod.fst).Nodup := by
  induction pairs using List.reverseRecOn with
  | nil => exact List.nodup_nil
  | append_singleton pairs pair ih =>
      rw [groups_concat]
      exact nodup_put combine pair.1 pair.2 ih

theorem lookup_of_mem {rows : List (K × V)} (h : (rows.map Prod.fst).Nodup) {k : K} {v : V}
    (hrow : (k, v) ∈ rows) : rows.lookup k = some v := by
  induction rows with
  | nil => cases hrow
  | cons row rows ih =>
      rw [List.map_cons, List.nodup_cons] at h
      rw [List.lookup_cons]
      cases List.mem_cons.mp hrow with
      | inl heq => simp [← heq]
      | inr hmem =>
          have hne : (k == row.1) = false := by
            refine beq_false_of_ne fun heq => h.1 ?_
            rw [← heq]
            exact List.mem_map_of_mem hmem
          rw [hne]
          exact ih h.2 hmem

theorem mem_of_lookup {rows : List (K × V)} {k : K} {v : V} (h : rows.lookup k = some v) :
    (k, v) ∈ rows := by
  obtain ⟨before, after, rfl, -⟩ := List.lookup_eq_some_iff.mp h
  simp

/-- The rows are the groups there are, once each, with what their values combine to. -/
theorem mem_groups (pairs : List (K × V)) (k : K) (v : V) :
    (k, v) ∈ groups combine pairs ↔ combined combine (valuesOf k pairs) = some v := by
  rw [← lookup_groups]
  exact ⟨lookup_of_mem (nodup_groups combine pairs), mem_of_lookup⟩

end GroupedValues
