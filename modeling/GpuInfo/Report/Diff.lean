import GpuInfo.Report.JsonValue

/-!
The difference of two capability reports (`GpuReport::diff` in `src/model.rs`), a walk over
their JSON forms. Its lines are kept in their parts here; `DiffLine.text` is what is printed
of one.
-/

namespace GpuInfo
open SortedMap

/-- What a line says of the value at its path. -/
inductive Change
  | changed (old new : Json)
  | removed (old : Json)
  | added (new : Json)

structure DiffLine where
  path : String
  change : Change

/-- `display` is how `serde_json` prints a value. -/
def DiffLine.text (display : Json → String) (line : DiffLine) : String :=
  match line.change with
  | .changed old new => line.path ++ ": " ++ display old ++ " -> " ++ display new
  | .removed old => line.path ++ ": " ++ display old ++ " -> (removed)"
  | .added new => line.path ++ ": (added) -> " ++ display new

/-- The path of an object's entry. -/
def keyPath (path k : String) : String := if path.isEmpty then k else path ++ "." ++ k

/-- The path of an array's element. -/
def indexPath (path : String) (i : Nat) : String := path ++ "[" ++ toString i ++ "]"

theorem Json.sizeOf_lookup {entries : List (String × Json)} {k : String} {a : Json}
    (h : entries.lookup k = some a) : sizeOf a < sizeOf (Json.object entries) := by
  have hmem := List.sizeOf_lt_of_mem (mem_of_lookup h)
  simp only [Prod.mk.sizeOf_spec] at hmem
  simp only [Json.object.sizeOf_spec]
  omega

theorem Json.sizeOf_getElem? {elements : List Json} {i : Nat} {a : Json}
    (h : elements[i]? = some a) : sizeOf a < sizeOf (Json.array elements) := by
  have hmem := List.sizeOf_lt_of_mem (List.mem_of_getElem? h)
  simp only [Json.array.sizeOf_spec]
  omega

def diffValue (path : String) (a b : Json) (out : List DiffLine) : List DiffLine :=
  match a, b with
  | .object ma, .object mb =>
      (mergedKeys ma mb).foldl (fun out k =>
        match h : ma.lookup k, mb.lookup k with
        | some va, some vb => diffValue (keyPath path k) va vb out
        | some va, none => out ++ [⟨keyPath path k, .removed va⟩]
        | none, some vb => out ++ [⟨keyPath path k, .added vb⟩]
        | none, none => out) out
  | .array aa, .array ab =>
      (List.range (max aa.length ab.length)).foldl (fun out i =>
        match h : aa[i]?, ab[i]? with
        | some va, some vb => diffValue (indexPath path i) va vb out
        | some va, none => out ++ [⟨indexPath path i, .removed va⟩]
        | none, some vb => out ++ [⟨indexPath path i, .added vb⟩]
        | none, none => out) out
  | a, b => if a != b then out ++ [⟨path, .changed a b⟩] else out
termination_by sizeOf a
decreasing_by
  · exact Json.sizeOf_lookup h
  · exact Json.sizeOf_getElem? h

/-- `toValue` is the report's JSON form. -/
def GpuReport.diff {GpuReport : Type} (toValue : GpuReport → Value) (display : Json → String)
    (self other : GpuReport) : List String :=
  (diffValue "" (toValue self).json (toValue other).json []).map (DiffLine.text display)

end GpuInfo
