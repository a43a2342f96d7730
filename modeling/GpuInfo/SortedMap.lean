import Mathlib.Data.List.Destutter
import Mathlib.Data.List.Sort

/-!
Maps as lists of entries in the order of their keys. Two of them agree entry by entry
exactly if they agree key by key, and the keys of two maps can be walked together.
-/

namespace SortedMap
universe u v

variable {K : Type u} {V : Type v} [LinearOrder K]

/-- The keys ascend strictly. -/
def Sorted (entries : List (K × V)) : Prop := entries.Pairwise fun a b => a.1 < b.1

/-- The keys of two maps, sorted and without repetition. -/
def mergedKeys (a b : List (K × V)) : List K :=
  (((a.map Prod.fst) ++ (b.map Prod.fst)).mergeSort (· ≤ ·)).destutter (· ≠ ·)

theorem mergedKeys_eq_dedup (a b : List (K × V)) : mergedKeys a b =
    (((a.map Prod.fst) ++ (b.map Prod.fst)).mergeSort (· ≤ ·)).dedup :=
  (List.pairwise_mergeSort' (· ≤ ·) _).destutter_eq_dedup

theorem mem_mergedKeys {a b : List (K × V)} {k : K} :
    k ∈ mergedKeys a b ↔ k ∈ a.map Prod.fst ∨ k ∈ b.map Prod.fst := by
  rw [mergedKeys_eq_dedup, List.mem_dedup, List.mem_mergeSort, List.mem_append]

/-- Which map comes first does not matter. -/
theorem mergedKeys_comm (a b : List (K × V)) : mergedKeys a b = mergedKeys b a := by
  have hperm : ((a.map Prod.fst) ++ (b.map Prod.fst)).mergeSort (· ≤ ·) =
      ((b.map Prod.fst) ++ (a.map Prod.fst)).mergeSort (· ≤ ·) := by
    refine List.Perm.eq_of_pairwise' (r := (· ≤ ·)) ?_ ?_ ?_
    · exact List.pairwise_mergeSort' _ _
    · exact List.pairwise_mergeSort' _ _
    · exact (List.mergeSort_perm _ _).trans
        (List.perm_append_comm.trans (List.mergeSort_perm _ _).symm)
  rw [mergedKeys, mergedKeys, hperm]

theorem mem_of_lookup {entries : List (K × V)} {k : K} {v : V}
    (h : entries.lookup k = some v) : (k, v) ∈ entries := by
  obtain ⟨before, after, rfl, -⟩ := List.lookup_eq_some_iff.mp h
  exact List.mem_append_right before List.mem_cons_self

theorem lookup_eq_none {entries : List (K × V)} {k : K} (h : k ∉ entries.map Prod.fst) :
    entries.lookup k = none := by
  rw [List.lookup_eq_none_iff]
  intro entry hmem
  refine bne_iff_ne.mpr fun heq => h ?_
  exact heq ▸ List.mem_map_of_mem hmem

section Agreement
variable {first : K × V} {rest : List (K × V)}

/-- The first key is the least. -/
theorem Sorted.le_of_lookup (h : Sorted (first :: rest)) {k : K}
    (hlookup : ((first :: rest).lookup k).isSome) : first.1 ≤ k := by
  obtain ⟨v, hlookup⟩ := Option.isSome_iff_exists.mp hlookup
  cases List.mem_cons.mp (mem_of_lookup hlookup) with
  | inl heq => exact le_of_eq (congrArg Prod.fst heq).symm
  | inr hmem => exact le_of_lt (List.rel_of_pairwise_cons h hmem)

theorem Sorted.lookup_rest (h : Sorted (first :: rest)) : rest.lookup first.1 = none := by
  rw [List.lookup_eq_none_iff]
  intro entry hmem
  exact bne_iff_ne.mpr (ne_of_lt (List.rel_of_pairwise_cons h hmem))

theorem lookup_cons_of_ne {k : K} (h : k ≠ first.1) : (first :: rest).lookup k = rest.lookup k := by
  rw [List.lookup_cons, beq_eq_false_iff_ne.mpr h]

variable {r : V → V → Prop}

theorem isSome_of_rel {x y : Option V} (h : Option.Rel r x y) : x.isSome = y.isSome := by
  cases h <;> rfl

/-- Entry by entry, or key by key. -/
theorem agree_iff {a b : List (K × V)} (ha : Sorted a) (hb : Sorted b) :
    List.Forall₂ (fun x y => x.1 = y.1 ∧ r x.2 y.2) a b ↔
      ∀ k, Option.Rel r (a.lookup k) (b.lookup k) := by
  induction a generalizing b with
  | nil =>
      cases b with
      | nil => exact ⟨fun _ _ => .none, fun _ => .nil⟩
      | cons y b =>
          refine ⟨nofun, fun h => ?_⟩
          have hkey := h y.1
          rw [List.lookup_cons_self] at hkey
          cases hkey
  | cons x a ih =>
      cases b with
      | nil =>
          refine ⟨nofun, fun h => ?_⟩
          have hkey := h x.1
          rw [List.lookup_cons_self] at hkey
          cases hkey
      | cons y b =>
          rw [List.forall₂_cons, ih ha.of_cons hb.of_cons]
          constructor
          · rintro ⟨⟨hkey, hvalue⟩, hrest⟩ k
            by_cases hk : k = x.1
            · subst hk
              rw [List.lookup_cons_self, hkey, List.lookup_cons_self]
              exact .some hvalue
            · rw [lookup_cons_of_ne hk, lookup_cons_of_ne (hkey ▸ hk)]
              exact hrest k
          · intro h
            have hkey : x.1 = y.1 := by
              have hx : ((y :: b).lookup x.1).isSome := by
                rw [← isSome_of_rel (h x.1), List.lookup_cons_self]
                rfl
              have hy : ((x :: a).lookup y.1).isSome := by
                rw [isSome_of_rel (h y.1), List.lookup_cons_self]
                rfl
              exact le_antisymm (ha.le_of_lookup hy) (hb.le_of_lookup hx)
            refine ⟨⟨hkey, ?_⟩, fun k => ?_⟩
            · have hvalue := h x.1
              rw [List.lookup_cons_self, hkey, List.lookup_cons_self] at hvalue
              cases hvalue
              assumption
            · by_cases hk : k = x.1
              · rw [hk, ha.lookup_rest, hkey, hb.lookup_rest]
                exact .none
              · have hother := h k
                rwa [lookup_cons_of_ne hk, lookup_cons_of_ne (hkey ▸ hk)] at hother

end Agreement

end SortedMap
