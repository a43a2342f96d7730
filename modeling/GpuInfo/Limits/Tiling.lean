import GpuInfo.MachineInteger

/-!
What a device accepts, and whether one dispatch can cover an image (`src/limits.rs`). The
bytes of a row are a plain product, which a build lets panic or wrap; only their product with
the height saturates. So the question is answered exactly while the bytes of a row fit 64 bits.
-/

namespace GpuInfo
open MachineInteger

def u32Max : Nat := 2 ^ 32 - 1

inductive TilingReason
  | textureDimension
  | bufferBinding
  deriving DecidableEq, Repr

structure GpuLimits where
  maxTileDim : Nat
  maxBufferBytes : Nat
  totalMemory : Nat
  availableMemory : Nat
  detected : Bool

namespace GpuLimits

/-- Limits for a CPU backend. -/
def cpu (availableMemory : Nat) : GpuLimits :=
  ⟨u32Max, u64Max, availableMemory, availableMemory, true⟩

def unconstrained : GpuLimits := ⟨u32Max, u64Max, u64Max, u64Max, false⟩

def imageBytes (build : Build) (width height bytesPerPixel : Nat) : Except Fault Nat := do
  let pixels ← build.mul width height
  build.mul pixels bytesPerPixel

variable (limits : GpuLimits)

def tilingReasonRows (width height rowBytes : Nat) : Option TilingReason :=
  if limits.maxTileDim < width || limits.maxTileDim < height then some .textureDimension
  else if limits.maxBufferBytes < saturatingMul rowBytes height then some .bufferBinding
  else none

def tilingReason (build : Build) (width height bytesPerPixel : Nat) :
    Except Fault (Option TilingReason) := do
  let rowBytes ← build.mul width bytesPerPixel
  pure (limits.tilingReasonRows width height rowBytes)

def needsTiling (build : Build) (width height bytesPerPixel : Nat) : Except Fault Bool := do
  let reason ← limits.tilingReason build width height bytesPerPixel
  pure reason.isSome

/-- Why an image does not fit, by its exact size. -/
def exactReason (width height bytesPerPixel : Nat) : Option TilingReason :=
  if limits.maxTileDim < width ∨ limits.maxTileDim < height then some .textureDimension
  else if limits.maxBufferBytes < width * height * bytesPerPixel then some .bufferBinding
  else none

/-- The answer about an image is the exact one. Where it fits, its bytes are exact, and every
smaller image fits too. -/
structure Exact (build : Build) (width height bytesPerPixel : Nat) : Prop where
  reason : limits.tilingReason build width height bytesPerPixel =
    .ok (limits.exactReason width height bytesPerPixel)
  bytes : limits.tilingReason build width height bytesPerPixel = .ok none →
    imageBytes build width height bytesPerPixel = .ok (width * height * bytesPerPixel)
  smaller : limits.tilingReason build width height bytesPerPixel = .ok none →
    ∀ width' height' bytesPerPixel', width' ≤ width → height' ≤ height →
      bytesPerPixel' ≤ bytesPerPixel →
        limits.tilingReason build width' height' bytesPerPixel' = .ok none

/-- The bytes of a row fit 64 bits, or have wrapped where they decide nothing: the image is
too wide or too high anyway, it has no rows, or its wrapped rows still do not fit. -/
def RowsAnswer (build : Build) (width height bytesPerPixel : Nat) : Prop :=
  width * bytesPerPixel ≤ u64Max ∨ build = .release ∧
    (limits.maxTileDim < width ∨ limits.maxTileDim < height ∨ height = 0 ∨
      limits.maxBufferBytes < width * bytesPerPixel % 2 ^ 64 * height)

variable {limits} {build : Build} {width height bytesPerPixel : Nat}

/-- The saturated bytes of a binding exceed what is below the largest number exactly if the
true ones do. -/
theorem tilingReasonRows_eq (bounded : limits.maxBufferBytes < u64Max)
    (width height rowBytes : Nat) :
    limits.tilingReasonRows width height rowBytes =
      if limits.maxTileDim < width ∨ limits.maxTileDim < height then some .textureDimension
      else if limits.maxBufferBytes < rowBytes * height then some .bufferBinding
      else none := by
  have hbytes : limits.maxBufferBytes < saturatingMul rowBytes height ↔
      limits.maxBufferBytes < rowBytes * height := by
    rw [saturatingMul, lt_min_iff, and_iff_left bounded]
  simp only [tilingReasonRows, hbytes, Bool.or_eq_true, decide_eq_true_eq]

theorem tilingReasonRows_product (bounded : limits.maxBufferBytes < u64Max)
    (width height bytesPerPixel : Nat) :
    limits.tilingReasonRows width height (width * bytesPerPixel) =
      limits.exactReason width height bytesPerPixel := by
  rw [tilingReasonRows_eq bounded, exactReason, Nat.mul_right_comm]

theorem tilingReason_of_rows (bounded : limits.maxBufferBytes < u64Max)
    (rows : width * bytesPerPixel ≤ u64Max) :
    limits.tilingReason build width height bytesPerPixel =
      .ok (limits.exactReason width height bytesPerPixel) := by
  rw [tilingReason, Build.mul_of_le rows, ok_bind, tilingReasonRows_product bounded]
  rfl

theorem exactReason_eq_none : limits.exactReason width height bytesPerPixel = none ↔
    (width ≤ limits.maxTileDim ∧ height ≤ limits.maxTileDim) ∧
      width * height * bytesPerPixel ≤ limits.maxBufferBytes := by
  rw [exactReason]
  split
  · rename_i wide
    simp only [reduceCtorEq, false_iff, not_and]
    omega
  · rename_i narrow
    rw [not_or, Nat.not_lt, Nat.not_lt] at narrow
    split
    · rename_i large
      simp [Nat.not_le.mpr large]
    · rename_i small
      simp [narrow, Nat.le_of_not_lt small]

theorem exactReason_none_mono {width' height' bytesPerPixel' : Nat}
    (fits : limits.exactReason width height bytesPerPixel = none) (hwidth : width' ≤ width)
    (hheight : height' ≤ height) (hbytes : bytesPerPixel' ≤ bytesPerPixel) :
    limits.exactReason width' height' bytesPerPixel' = none := by
  obtain ⟨⟨wide, high⟩, large⟩ := exactReason_eq_none.mp fits
  have hproduct : width' * height' * bytesPerPixel' ≤ width * height * bytesPerPixel :=
    Nat.mul_le_mul (Nat.mul_le_mul hwidth hheight) hbytes
  exact exactReason_eq_none.mpr
    ⟨⟨hwidth.trans wide, hheight.trans high⟩, hproduct.trans large⟩

theorem imageBytes_of_le (pixels : width * height ≤ u64Max)
    (h : width * height * bytesPerPixel ≤ u64Max) :
    imageBytes build width height bytesPerPixel = .ok (width * height * bytesPerPixel) := by
  rw [imageBytes, Build.mul_of_le pixels, ok_bind, Build.mul_of_le h]

theorem pixels_le (hwidth : width ≤ u32Max) (hheight : height ≤ u32Max) :
    width * height ≤ u64Max :=
  (Nat.mul_le_mul hwidth hheight).trans (by decide)

theorem tilingReasonRows_unlimited (dimensions : limits.maxTileDim = u32Max)
    (bytes : limits.maxBufferBytes = u64Max) (hwidth : width ≤ u32Max) (hheight : height ≤ u32Max)
    (rowBytes : Nat) : limits.tilingReasonRows width height rowBytes = none := by
  have hbytes : saturatingMul rowBytes height ≤ u64Max := Nat.min_le_right _ _
  simp [tilingReasonRows, dimensions, bytes, Nat.not_lt.mpr hwidth, Nat.not_lt.mpr hheight,
    Nat.not_lt.mpr hbytes]

/-- The unlimited constructors never ask for tiles. -/
theorem unlimited_never_tile (availableMemory : Nat) (hwidth : width ≤ u32Max)
    (hheight : height ≤ u32Max) (rows : width * bytesPerPixel ≤ u64Max) :
    (cpu availableMemory).needsTiling build width height bytesPerPixel = .ok false ∧
      unconstrained.needsTiling build width height bytesPerPixel = .ok false := by
  have hcpu : (cpu availableMemory).tilingReasonRows width height (width * bytesPerPixel) = none :=
    tilingReasonRows_unlimited rfl rfl hwidth hheight _
  have hfree : unconstrained.tilingReasonRows width height (width * bytesPerPixel) = none :=
    tilingReasonRows_unlimited rfl rfl hwidth hheight _
  simp only [needsTiling, tilingReason, Build.mul_of_le rows, ok_bind, hcpu, hfree]
  exact ⟨rfl, rfl⟩

/-- The answer about an image whose rows fit. -/
theorem exact_of_rows (bounded : limits.maxBufferBytes < u64Max) (hwidth : width ≤ u32Max)
    (hheight : height ≤ u32Max) (rows : width * bytesPerPixel ≤ u64Max) :
    limits.Exact build width height bytesPerPixel := by
  have answer : limits.tilingReason build width height bytesPerPixel =
      .ok (limits.exactReason width height bytesPerPixel) := tilingReason_of_rows bounded rows
  refine ⟨answer, fun fits => ?_, fun fits width' height' bytesPerPixel' hw hh hb => ?_⟩
  · rw [answer, Except.ok.injEq] at fits
    have large := (exactReason_eq_none.mp fits).2
    exact imageBytes_of_le (pixels_le hwidth hheight) (large.trans bounded.le)
  · rw [answer, Except.ok.injEq] at fits
    have rows' := (Nat.mul_le_mul hw hb).trans rows
    rw [tilingReason_of_rows bounded rows', exactReason_none_mono fits hw hh hb]

/-! Rows that wrap -/

theorem exact_of_refusal {reason : TilingReason}
    (answer : limits.tilingReason build width height bytesPerPixel = .ok (some reason))
    (exactly : limits.exactReason width height bytesPerPixel = some reason) :
    limits.Exact build width height bytesPerPixel where
  reason := by rw [answer, exactly]
  bytes fits := by
    rw [answer] at fits
    cases fits
  smaller fits := by
    rw [answer] at fits
    cases fits

theorem tilingReason_release (limits : GpuLimits) (width height bytesPerPixel : Nat) :
    limits.tilingReason .release width height bytesPerPixel =
      .ok (limits.tilingReasonRows width height (width * bytesPerPixel % 2 ^ 64)) := by
  rw [tilingReason, Build.release_mul]
  rfl

theorem exactReason_wide (wide : limits.maxTileDim < width ∨ limits.maxTileDim < height) :
    limits.exactReason width height bytesPerPixel = some .textureDimension := if_pos wide

theorem exactReason_large (narrow : ¬ (limits.maxTileDim < width ∨ limits.maxTileDim < height))
    (bounded : limits.maxBufferBytes < u64Max) (rows : u64Max < width * bytesPerPixel)
    (tall : height ≠ 0) :
    limits.exactReason width height bytesPerPixel = some .bufferBinding := by
  have hproduct : width * bytesPerPixel ≤ width * height * bytesPerPixel := by
    rw [Nat.mul_right_comm]
    exact Nat.le_mul_of_pos_right _ (Nat.pos_of_ne_zero tall)
  rw [exactReason, if_neg narrow, if_pos (by omega)]

/-- An image without rows fits if it is narrow enough, and so does every smaller one. -/
theorem exact_without_rows (bounded : limits.maxBufferBytes < u64Max) :
    limits.Exact .release width 0 bytesPerPixel := by
  have answer (width bytesPerPixel : Nat) : limits.tilingReason .release width 0 bytesPerPixel =
      .ok (limits.exactReason width 0 bytesPerPixel) := by
    rw [tilingReason_release, tilingReasonRows_eq bounded, exactReason]
    simp
  refine ⟨answer width bytesPerPixel, fun _ => ?_, ?_⟩
  · exact imageBytes_of_le (by simp) (by simp)
  · intro fits width' height' bytesPerPixel' hw hh hb
    rw [answer, Except.ok.injEq] at fits
    rw [Nat.le_zero.mp hh, answer, exactReason_none_mono fits hw (Nat.le_refl 0) hb]

theorem exact_of_answer (bounded : limits.maxBufferBytes < u64Max) (hwidth : width ≤ u32Max)
    (hheight : height ≤ u32Max) (h : limits.RowsAnswer build width height bytesPerPixel) :
    limits.Exact build width height bytesPerPixel := by
  obtain rows | ⟨rfl, hwrapped⟩ := h
  · exact exact_of_rows bounded hwidth hheight rows
  by_cases rows : width * bytesPerPixel ≤ u64Max
  · exact exact_of_rows bounded hwidth hheight rows
  by_cases wide : limits.maxTileDim < width ∨ limits.maxTileDim < height
  · refine exact_of_refusal ?_ (exactReason_wide wide)
    rw [tilingReason_release, tilingReasonRows_eq bounded, if_pos wide]
  by_cases empty : height = 0
  · exact empty ▸ exact_without_rows bounded
  · have large : limits.maxBufferBytes < width * bytesPerPixel % 2 ^ 64 * height := by
      rw [not_or] at wide
      simpa only [wide, empty, false_or] using hwrapped
    refine exact_of_refusal ?_
      (exactReason_large wide bounded (Nat.lt_of_not_le rows) empty)
    rw [tilingReason_release, tilingReasonRows_eq bounded, if_neg wide, if_pos large]

theorem answer_of_exact (bounded : limits.maxBufferBytes < u64Max)
    (h : limits.Exact build width height bytesPerPixel) :
    limits.RowsAnswer build width height bytesPerPixel := by
  by_contra unanswered
  obtain ⟨rows, hwrapped⟩ := not_or.mp unanswered
  have answer := h.reason
  cases build with
  | debug => simp [tilingReason, Build.mul, rows] at answer
  | release =>
      have hrest := not_and.mp hwrapped rfl
      simp only [not_or] at hrest
      obtain ⟨hwide, hhigh, tall, small⟩ := hrest
      have narrow := not_or.mpr ⟨hwide, hhigh⟩
      rw [tilingReason_release, tilingReasonRows_eq bounded, if_neg narrow, if_neg small,
        exactReason_large narrow bounded (Nat.lt_of_not_le rows) tall] at answer
      cases answer

end GpuLimits

/-- For every image and every build, the answer about the image is exact if and only if the
bytes of its rows fit 64 bits or have wrapped where they decide nothing. -/
theorem tiling_answer_exact {limits : GpuLimits} (bounded : limits.maxBufferBytes < u64Max)
    (build : Build) {width height : Nat} (hwidth : width ≤ u32Max) (hheight : height ≤ u32Max)
    (bytesPerPixel : Nat) :
    limits.Exact build width height bytesPerPixel ↔
      limits.RowsAnswer build width height bytesPerPixel :=
  ⟨GpuLimits.answer_of_exact bounded, GpuLimits.exact_of_answer bounded hwidth hheight⟩

/-- A device that binds 128 MiB. -/
def bindings128 : GpuLimits := ⟨16384, 2 ^ 27, 2 ^ 33, 2 ^ 33, true⟩

theorem tiling_answer_exact_4k : bindings128.Exact .release 3840 2160 16 ↔
    bindings128.RowsAnswer .release 3840 2160 16 :=
  tiling_answer_exact (by decide) .release (by decide) (by decide) 16

/-- A row of 2⁶⁴ bytes is found to fit 128 MiB. -/
theorem tiling_answer_can_wrap :
    bindings128.tilingReason .release 2 1 (2 ^ 63) = .ok none ∧
      bindings128.exactReason 2 1 (2 ^ 63) = some .bufferBinding ∧
      ¬ bindings128.Exact .release 2 1 (2 ^ 63) ∧
      bindings128.tilingReason .debug 2 1 (2 ^ 63) = .error .overflow := by
  have wraps : bindings128.tilingReason .release 2 1 (2 ^ 63) = .ok none := by decide
  refine ⟨wraps, by decide, fun h => ?_, by decide⟩
  have answer := wraps.symm.trans h.reason
  exact absurd answer (by decide)

end GpuInfo
