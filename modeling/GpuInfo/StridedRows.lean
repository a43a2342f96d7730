import Mathlib.Algebra.Order.Ring.Nat
import Mathlib.Data.List.Basic

/-!
A picture in a flat store: its rows begin at the multiples of a stride, and what stands between
the end of a row and the next stride is no part of it. A loop that takes the rows one by one
and writes each behind the last ends with all of them, without the gaps.
-/

namespace StridedRows
universe u v w

variable {α : Type u} {β : Type v}

/-- Row `y` of a picture. -/
def row (picture : Nat → Nat → α) (width y : Nat) : List α := (List.range width).map (picture y)

def rows (picture : Nat → Nat → α) (width height : Nat) : List α :=
  (List.range height).flatMap (row picture width)

@[simp] theorem rows_zero (picture : Nat → Nat → α) (width : Nat) : rows picture width 0 = [] := rfl

theorem rows_succ (picture : Nat → Nat → α) (width height : Nat) :
    rows picture width (height + 1) = rows picture width height ++ row picture width height := by
  rw [rows, List.range_succ, List.flatMap_append, List.flatMap_singleton, ← rows]

/-- The cells of every row are in the store. -/
def Holds (cells : List α) (stride width height : Nat) (picture : Nat → Nat → α) : Prop :=
  ∀ y < height, ∀ i < width, cells[y * stride + i]? = some (picture y i)

variable {cells : List α} {stride width height : Nat} {picture : Nat → Nat → α}

@[simp] theorem length_row (picture : Nat → Nat → α) (width y : Nat) :
    (row picture width y).length = width := by
  rw [row, List.length_map, List.length_range]

@[simp] theorem length_rows (picture : Nat → Nat → α) (width height : Nat) :
    (rows picture width height).length = height * width := by
  induction height with
  | zero => rw [rows_zero, List.length_nil, Nat.zero_mul]
  | succ height ih => rw [rows_succ, List.length_append, ih, length_row, Nat.succ_mul]

theorem Holds.inRange (h : Holds cells stride width height picture) (hwidth : 0 < width) {y : Nat}
    (hy : y < height) : y * stride + width ≤ cells.length := by
  have last := h y hy (width - 1) (by omega)
  have inside := (List.getElem?_eq_some_iff.mp last).1
  omega

/-- The slice at a multiple of the stride is the row. -/
theorem Holds.slice_eq (h : Holds cells stride width height picture) {y : Nat} (hy : y < height) :
    (cells.drop (y * stride)).take width = row picture width y := by
  apply List.ext_getElem?
  intro i
  rw [row, List.getElem?_map]
  by_cases hi : i < width
  · rw [List.getElem?_take_of_lt hi, List.getElem?_drop, h y hy i hi, List.getElem?_range hi]
    rfl
  · rw [List.getElem?_take_eq_none (not_lt.mp hi), List.getElem?_eq_none]
    · rfl
    · rw [List.length_range]
      exact not_lt.mp hi

/-- Without gaps, the rows follow each other. -/
theorem Holds.take_eq_rows (h : Holds cells width width height picture) {y : Nat}
    (hy : y ≤ height) : cells.take (y * width) = rows picture width y := by
  induction y with
  | zero => rw [Nat.zero_mul, List.take_zero, rows_zero]
  | succ y ih =>
      rw [Nat.succ_mul, List.take_add, ih (Nat.le_of_succ_le hy), h.slice_eq hy, rows_succ]

theorem Holds.eq_rows (h : Holds cells width width height picture)
    (hlength : cells.length = height * width) : cells = rows picture width height := by
  rw [← h.take_eq_rows (le_refl height), ← hlength, List.take_length]

/-! Row by row -/

/-- What stands at `start` is overwritten. -/
def splice (cells : List β) (start : Nat) (news : List β) : List β :=
  cells.take start ++ news ++ cells.drop (start + news.length)

theorem splice_append (before after news : List β) :
    splice (before ++ after) before.length news = before ++ news ++ after.drop news.length := by
  rw [splice, List.take_left, List.drop_length_add_append]

section Fill
variable {filled : Nat → List β} {n : Nat} {blank : β}

/-- The rows written so far, and the blanks behind them. -/
def progress (filled : Nat → List β) (n : Nat) (blank : β) (height y : Nat) : List β :=
  (List.range y).flatMap filled ++ List.replicate ((height - y) * n) blank

theorem length_flatMap_range (hfilled : ∀ y, (filled y).length = n) (y : Nat) :
    ((List.range y).flatMap filled).length = y * n := by
  induction y with
  | zero => rw [List.range_zero, List.flatMap_nil, List.length_nil, Nat.zero_mul]
  | succ y ih =>
      rw [List.range_succ, List.flatMap_append, List.length_append, ih, List.flatMap_singleton,
        hfilled, Nat.succ_mul]

theorem length_progress (hfilled : ∀ y, (filled y).length = n) {y : Nat} (hy : y ≤ height) :
    (progress filled n blank height y).length = height * n := by
  rw [progress, List.length_append, length_flatMap_range hfilled, List.length_replicate,
    ← Nat.add_mul, Nat.add_sub_cancel' hy]

/-- The next row comes behind those written. -/
theorem splice_progress (hfilled : ∀ y, (filled y).length = n) (height y : Nat) :
    splice (progress filled n blank height y) (y * n) (filled y) =
      progress filled n blank height (y + 1) := by
  have hblank : (height - y) * n - n = (height - (y + 1)) * n := by
    rw [← Nat.sub_one_mul, Nat.sub_add_eq]
  rw [progress, ← length_flatMap_range hfilled y, splice_append, progress, List.range_succ,
    List.flatMap_append, List.flatMap_singleton, List.drop_replicate, hfilled, hblank]

variable {m : Type v → Type w} [Monad m] [LawfulMonad m] {step : List β → Nat → m (List β)}

theorem foldlM_progress (hstep : ∀ y < height, step (progress filled n blank height y) y =
      pure (progress filled n blank height (y + 1))) {y : Nat} (hy : y ≤ height) :
    (List.range y).foldlM step (progress filled n blank height 0) =
      pure (progress filled n blank height y) := by
  induction y with
  | zero => rfl
  | succ y ih =>
      rw [List.range_succ, List.foldlM_append, ih (Nat.le_of_succ_le hy), pure_bind,
        List.foldlM_cons, hstep y hy, pure_bind]
      rfl

/-- A loop over the rows that takes each step as it should leaves no blank. -/
theorem foldlM_fill (hstep : ∀ y < height, step (progress filled n blank height y) y =
      pure (progress filled n blank height (y + 1))) :
    (List.range height).foldlM step (List.replicate (height * n) blank) =
      pure ((List.range height).flatMap filled) := by
  have hrun := foldlM_progress hstep (le_refl height)
  rw [progress, progress, List.range_zero, List.flatMap_nil, List.nil_append, Nat.sub_zero,
    Nat.sub_self, Nat.zero_mul, List.replicate_zero, List.append_nil] at hrun
  exact hrun

end Fill

end StridedRows
