import Mathlib.Data.List.Basic
import Mathlib.Data.List.Nodup

/-!
A table of rows in the order in which their keys were first used. A row is looked up by its
key, and where there is none an update adds a fresh one before it changes it.
-/

namespace KeyedTable
universe u v

variable {K : Type u} {R : Type v} [DecidableEq K] (key : R → K) (fresh : K → R)

/-- The row of a key, or what an update would start with. -/
def row (k : K) (rows : List R) : R := (rows.find? fun r => key r = k).getD (fresh k)

def update (k : K) (change : R → R) (rows : List R) : List R :=
  match rows.findIdx? fun r => key r = k with
  | some index => rows.modify index change
  | none => (rows ++ [fresh k]).modify rows.length change

variable {key fresh} {k : K} {change : R → R}

theorem update_nil : update key fresh k change [] = [change (fresh k)] := rfl

theorem update_cons (r : R) (rows : List R) :
    update key fresh k change (r :: rows) =
      if key r = k then change r :: rows else r :: update key fresh k change rows := by
  unfold update
  rw [List.findIdx?_cons]
  by_cases h : key r = k
  · simp [h]
  · cases rows.findIdx? fun r => key r = k <;> simp [h]

theorem row_cons (r : R) (rows : List R) :
    row key fresh k (r :: rows) = if key r = k then r else row key fresh k rows := by
  by_cases h : key r = k <;> simp [row, h]

/-- With distinct keys, a row of the table is the one its key finds. -/
theorem row_of_mem {rows : List R} (distinct : (rows.map key).Nodup) {r : R} (hr : r ∈ rows) :
    row key fresh (key r) rows = r := by
  induction rows with
  | nil => cases hr
  | cons head rows ih =>
      rw [List.map_cons, List.nodup_cons] at distinct
      rw [row_cons]
      cases List.mem_cons.mp hr with
      | inl heq => rw [if_pos (congrArg key heq.symm), heq]
      | inr hr =>
          have hne : key head ≠ key r := fun heq =>
            distinct.1 (heq ▸ List.mem_map_of_mem hr)
          rw [if_neg hne, ih distinct.2 hr]

section Keys
variable (hfresh : ∀ k, key (fresh k) = k) (hchange : ∀ r, key (change r) = key r)
include hfresh hchange

theorem keys_update (rows : List R) : (update key fresh k change rows).map key =
    if k ∈ rows.map key then rows.map key else rows.map key ++ [k] := by
  induction rows with
  | nil => simp [update_nil, hfresh, hchange]
  | cons r rows ih =>
      rw [update_cons]
      by_cases h : key r = k
      · simp [h, hchange]
      · rw [if_neg h, List.map_cons, ih]
        by_cases hmem : k ∈ rows.map key
        · rw [if_pos hmem, List.map_cons, if_pos (List.mem_cons_of_mem _ hmem)]
        · have hnot : k ∉ key r :: rows.map key := fun hk =>
            (List.mem_cons.mp hk).elim (fun heq => h heq.symm) hmem
          rw [if_neg hmem, List.map_cons, if_neg hnot]
          rfl

/-- The keys stay distinct. -/
theorem nodup_update {rows : List R} (distinct : (rows.map key).Nodup) :
    ((update key fresh k change rows).map key).Nodup := by
  rw [keys_update hfresh hchange]
  by_cases hmem : k ∈ rows.map key
  · rwa [if_pos hmem]
  · rw [if_neg hmem]
    exact distinct.append (List.nodup_singleton k) (by simpa using hmem)

theorem mem_keys_update {rows : List R} {j : K} :
    j ∈ (update key fresh k change rows).map key ↔ j = k ∨ j ∈ rows.map key := by
  rw [keys_update hfresh hchange]
  by_cases hmem : k ∈ rows.map key
  · rw [if_pos hmem]
    exact ⟨.inr, fun h => h.elim (fun heq => heq ▸ hmem) id⟩
  · rw [if_neg hmem, List.mem_append, List.mem_singleton, or_comm]

theorem row_update_self (rows : List R) :
    row key fresh k (update key fresh k change rows) = change (row key fresh k rows) := by
  induction rows with
  | nil => rw [update_nil, row_cons, if_pos (by rw [hchange, hfresh])]; rfl
  | cons r rows ih =>
      rw [update_cons, row_cons]
      by_cases h : key r = k
      · rw [if_pos h, if_pos h, row_cons, if_pos (by rw [hchange, h])]
      · rw [if_neg h, if_neg h, row_cons, if_neg h, ih]

/-- The rows of the other keys are left alone. -/
theorem row_update_of_ne {j : K} (hne : j ≠ k) (rows : List R) :
    row key fresh j (update key fresh k change rows) = row key fresh j rows := by
  induction rows with
  | nil => rw [update_nil, row_cons, if_neg (by rw [hchange, hfresh]; exact hne.symm)]
  | cons r rows ih =>
      rw [update_cons, row_cons]
      by_cases h : key r = k
      · have hother : key (change r) ≠ j := by
          rw [hchange, h]
          exact hne.symm
        rw [if_pos h, row_cons, if_neg hother, if_neg (by rw [h]; exact hne.symm)]
      · rw [if_neg h, row_cons, ih]

end Keys

end KeyedTable
