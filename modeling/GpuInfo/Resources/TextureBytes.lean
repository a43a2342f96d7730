import GpuInfo.Resources.Spec
import Mathlib.Algebra.Order.Floor.Div
import Mathlib.Data.Nat.Size

/-!
The bytes of a texture (`TextureSpec::bytes`) are those of its mip levels, counted without a
bound, or the count does not fit in 64 bits. What the code computes step by step with checked
operations stops early only where the whole count would not fit, as no factor of it is zero.
-/

namespace GpuInfo
open MachineInteger

/-- A side of a mip level: halved that often, but at least 1. -/
def halved (side level : Nat) : Nat := max 1 (side / 2 ^ level)

namespace Extent3d

/-- The extent of a mip level. Only a volume halves its depth. -/
def mip (size : Extent3d) (dimension : TextureDimension) (level : Nat) : Extent3d where
  width := halved size.width level
  height := halved size.height level
  depthOrArrayLayers := match dimension with
    | .d3 => halved size.depthOrArrayLayers level
    | _ => size.depthOrArrayLayers

/-- The longest side that a mip level halves. -/
def longest (size : Extent3d) : TextureDimension → Nat
  | .d3 => max (max size.width size.height) size.depthOrArrayLayers
  | _ => max size.width size.height

/-- As many levels as the longest side has bits. -/
def levels (size : Extent3d) : TextureDimension → Nat
  | .d1 => 1
  | dimension => (size.longest dimension).size

/-- The sides are of 32 bits. -/
def Sides32 (size : Extent3d) : Prop :=
  size.width < 2 ^ 32 ∧ size.height < 2 ^ 32 ∧ size.depthOrArrayLayers < 2 ^ 32

/-- A line has one row and one layer. -/
def FitsDimension (size : Extent3d) (dimension : TextureDimension) : Prop :=
  dimension = .d1 → size.height = 1 ∧ size.depthOrArrayLayers = 1

theorem longest_lt {size : Extent3d} (sides : size.Sides32) (dimension : TextureDimension) :
    size.longest dimension < 2 ^ 32 := by
  obtain ⟨width, height, depth⟩ := sides
  cases dimension with
  | d1 => exact max_lt width height
  | d2 => exact max_lt width height
  | d3 => exact max_lt (max_lt width height) depth

theorem levels_le {size : Extent3d} (sides : size.Sides32) (dimension : TextureDimension) :
    size.levels dimension ≤ 32 := by
  cases dimension with
  | d1 => exact show 1 ≤ 32 by decide
  | d2 => exact Nat.size_le.mpr (longest_lt sides .d2)
  | d3 => exact Nat.size_le.mpr (longest_lt sides .d3)

end Extent3d

/-- What wgpu documents of its mip levels. -/
class DocumentedWgpu (Format : Type) [Wgpu Format] : Prop extends LawfulWgpu Format where
  mipLevelSize_eq : ∀ (size : Extent3d) (level : Nat) (dimension : TextureDimension),
    level < 32 → size.FitsDimension dimension →
      Wgpu.mipLevelSize Format size level dimension = size.mip dimension level
  maxMips_eq : ∀ (size : Extent3d) (dimension : TextureDimension),
    Wgpu.maxMips Format size dimension = size.levels dimension

theorem halved_pos (side level : Nat) : 0 < halved side level :=
  Nat.lt_of_lt_of_le Nat.one_pos (Nat.le_max_left _ _)

theorem Extent3d.mip_depth_pos {size : Extent3d} (depth : 0 < size.depthOrArrayLayers)
    (dimension : TextureDimension) (level : Nat) :
    0 < (size.mip dimension level).depthOrArrayLayers := by
  cases dimension with
  | d1 => exact depth
  | d2 => exact depth
  | d3 => exact halved_pos _ _

namespace TextureSpec
variable {Format : Type} [DecidableEq Format] [Wgpu Format] (spec : TextureSpec Format)

/-- What a mip level takes, as a number without a bound. -/
def mipBytes (block level : Nat) : Nat :=
  let mip := spec.size.mip spec.dimension level
  let dimensions := Wgpu.blockDimensions spec.format
  (mip.width ⌈/⌉ dimensions.1) * (mip.height ⌈/⌉ dimensions.2) * mip.depthOrArrayLayers *
    spec.sampleCount * block

/-- What the texture takes, as a number without a bound. -/
def totalBytes (block : Nat) : Nat :=
  ((List.range spec.mipLevelCount).map (spec.mipBytes block)).sum

omit [DecidableEq Format] in
/-- No factor of a level is zero, so only the whole product can overflow. -/
theorem levelBytes_eq [DocumentedWgpu Format] {spec : TextureSpec Format} {block level : Nat}
    (shift : level < 32) (fits : spec.size.FitsDimension spec.dimension)
    (depth : 0 < spec.size.depthOrArrayLayers) (samples : 0 < spec.sampleCount)
    (hblock : 0 < block) :
    spec.levelBytes block level = fit64 (spec.mipBytes block level) := by
  have hmip : Wgpu.mipLevelSize Format spec.size level spec.dimension =
      spec.size.mip spec.dimension level :=
    DocumentedWgpu.mipLevelSize_eq spec.size level spec.dimension shift fits
  have hlayers := Extent3d.mip_depth_pos depth spec.dimension level
  rw [levelBytes, hmip]
  change (fit64 _).bind (fun n => (checkedMul n _).bind fun n => (checkedMul n _).bind _) = _
  rw [fit64_bind_checkedMul_bind hlayers, fit64_bind_checkedMul_bind samples,
    fit64_bind_checkedMul hblock]
  rfl

omit [DecidableEq Format] in
theorem mipBytes_pos [LawfulWgpu Format] {spec : TextureSpec Format} {block level : Nat}
    (depth : 0 < spec.size.depthOrArrayLayers) (samples : 0 < spec.sampleCount)
    (hblock : 0 < block) : 0 < spec.mipBytes block level := by
  obtain ⟨hbw, hbh⟩ := LawfulWgpu.blockDimensions_pos spec.format
  have hwidth := ceilDiv_pos (halved_pos spec.size.width level) hbw
  have hheight := ceilDiv_pos (halved_pos spec.size.height level) hbh
  have hlayers := Extent3d.mip_depth_pos depth spec.dimension level
  exact Nat.mul_pos (Nat.mul_pos (Nat.mul_pos (Nat.mul_pos hwidth hheight) hlayers) samples) hblock

omit [DecidableEq Format] in
/-- The loop overflows only where all of its levels together do. -/
theorem addLevels_eq {spec : TextureSpec Format} {block : Nat} {levels : List Nat}
    (hlevels : ∀ level ∈ levels, spec.levelBytes block level = fit64 (spec.mipBytes block level))
    {bytes : Nat} (start : bytes ≤ u64Max) :
    spec.addLevels block levels bytes =
      if bytes + (levels.map (spec.mipBytes block)).sum < 2 ^ 64
      then .ok (bytes + (levels.map (spec.mipBytes block)).sum) else .error .overflow := by
  induction levels generalizing bytes with
  | nil =>
      exact (if_pos (Nat.lt_of_le_of_lt start (by decide))).symm
  | cons level levels ih =>
      have hlevel := hlevels level List.mem_cons_self
      rw [addLevels, hlevel, fit64_bind_checkedAdd, List.map_cons, List.sum_cons, ← Nat.add_assoc]
      by_cases fits : bytes + spec.mipBytes block level ≤ u64Max
      · rw [show fit64 _ = some _ from if_pos fits]
        exact ih (fun later hlater => hlevels later (List.mem_cons_of_mem _ hlater)) fits
      · rw [show fit64 _ = none from if_neg fits]
        -- What is added later only makes it more.
        have exceeds : ¬ bytes + spec.mipBytes block level +
            (levels.map (spec.mipBytes block)).sum < 2 ^ 64 := fun h =>
          fits (Nat.le_pred_of_lt (Nat.lt_of_le_of_lt (Nat.le_add_right _ _) h))
        exact (if_neg exceeds).symm

/-- What a descriptor has passed where its checks find nothing against it. -/
theorem bytes_checked {spec : TextureSpec Format} {limits : Limits} {block : Nat}
    (known : Wgpu.blockCopySize spec.format = some block)
    (valid : ∀ descriptor, spec.bytes limits ≠ .error (.invalidDescriptor descriptor)) :
    0 < spec.size.depthOrArrayLayers ∧ 0 < spec.mipLevelCount ∧ 0 < spec.sampleCount ∧
      spec.mipLevelCount ≤ Wgpu.maxMips Format spec.size spec.dimension ∧
      spec.size.FitsDimension spec.dimension ∧
      spec.bytes limits = spec.addLevels block (List.range spec.mipLevelCount) 0 := by
  generalize answered : spec.bytes limits = answer at valid
  simp only [bytes, known] at answered
  split at answered
  · exact absurd answered.symm (valid _)
  rename_i extent
  split at answered
  · exact absurd answered.symm (valid _)
  rename_i dimensions
  split at answered
  · exact absurd answered.symm (valid _)
  split at answered
  · exact absurd answered.symm (valid _)
  simp only [Bool.or_eq_true, decide_eq_true_eq, not_or, Bool.not_eq_true', Bool.not_eq_false,
    not_lt] at extent
  obtain ⟨⟨⟨⟨⟨⟨⟨-, -⟩, hlayers⟩, -⟩, -⟩, hmips⟩, hmax⟩, hsamples⟩ := extent
  have samples : 0 < spec.sampleCount := by
    simp only [List.contains_eq_mem, List.mem_cons, List.not_mem_nil, or_false,
      decide_eq_true_eq] at hsamples
    omega
  have hdimension : spec.size.FitsDimension spec.dimension := by
    intro line
    simp only [Bool.or_eq_true, not_or, Bool.not_eq_true', Bool.not_eq_false, extentOk, line,
      Bool.and_eq_true, beq_iff_eq] at dimensions
    exact ⟨dimensions.1.1.1.2, dimensions.1.1.2⟩
  exact ⟨Nat.pos_of_ne_zero hlayers, Nat.pos_of_ne_zero hmips, samples, hmax, hdimension,
    answered.symm⟩

end TextureSpec

variable {Format : Type} [DecidableEq Format] [Wgpu Format]

theorem texture_bytes_exact [DocumentedWgpu Format] (spec : TextureSpec Format) (limits : Limits)
    {block : Nat} (sides : spec.size.Sides32)
    (known : Wgpu.blockCopySize spec.format = some block)
    (valid : ∀ descriptor, spec.bytes limits ≠ .error (.invalidDescriptor descriptor)) :
    spec.bytes limits = (if spec.totalBytes block < 2 ^ 64 then .ok (spec.totalBytes block)
      else .error .overflow) ∧
    1 ≤ spec.totalBytes block ∧ ∀ level < spec.mipLevelCount, level < 32 := by
  obtain ⟨hlayers, hmips, hsamples, hmax, hdimension, hbytes⟩ :=
    TextureSpec.bytes_checked known valid
  have hblock := LawfulWgpu.blockCopySize_pos spec.format block known
  have shift : ∀ level < spec.mipLevelCount, level < 32 := by
    intro level hlevel
    rw [DocumentedWgpu.maxMips_eq] at hmax
    exact (hlevel.trans_le hmax).trans_le (Extent3d.levels_le sides spec.dimension)
  refine ⟨?_, ?_, shift⟩
  · rw [hbytes, TextureSpec.addLevels_eq _ (Nat.zero_le _), Nat.zero_add, TextureSpec.totalBytes]
    intro level hlevel
    exact TextureSpec.levelBytes_eq (shift level (List.mem_range.mp hlevel)) hdimension hlayers
      hsamples hblock
  · -- The first level alone takes some.
    obtain ⟨count, hcount⟩ := Nat.exists_eq_succ_of_ne_zero hmips.ne'
    rw [TextureSpec.totalBytes, hcount, List.range_succ_eq_map, List.map_cons, List.sum_cons]
    exact Nat.le_add_right_of_le (TextureSpec.mipBytes_pos hlayers hsamples hblock)

/-- A format of each kind: plain, compressed and opaque. -/
inductive TextureFormat
  | rgba32Float
  | bc1RgbaUnorm
  | depth24Plus
  deriving DecidableEq, Repr

instance : Wgpu TextureFormat where
  removeSrgbSuffix := id
  blockCopySize
    | .rgba32Float => some 16
    | .bc1RgbaUnorm => some 8
    | .depth24Plus => none
  blockDimensions
    | .bc1RgbaUnorm => (4, 4)
    | _ => (1, 1)
  maxMips := Extent3d.levels
  mipLevelSize size level dimension := size.mip dimension level
  allBufferUsages := 0xFFF
  allTextureUsages := 0x1F

instance : DocumentedWgpu TextureFormat where
  blockCopySize_pos format block h := by
    cases format with
    | rgba32Float => exact Option.some_inj.mp h ▸ (by decide)
    | bc1RgbaUnorm => exact Option.some_inj.mp h ▸ (by decide)
    | depth24Plus => cases h
  blockDimensions_pos format := by cases format <;> decide
  mipLevelSize_pos size level dimension _ _ depth :=
    ⟨halved_pos _ _, halved_pos _ _, Extent3d.mip_depth_pos depth dimension level⟩
  mipLevelSize_eq _ _ _ _ _ := rfl
  maxMips_eq _ _ := rfl

/-- Compressed, with as many mip levels as there are. -/
def compressed : TextureSpec TextureFormat :=
  ⟨⟨8, 4, 1⟩, .d2, 4, 1, .bc1RgbaUnorm, 0x3, none⟩

def defaultLimits : Limits := ⟨2 ^ 28, 8192, 8192, 2048, 256⟩

theorem compressed_bytes : compressed.bytes defaultLimits = .ok 40 := by decide

theorem texture_bytes_exact_compressed :
    compressed.totalBytes 8 = 40 ∧ compressed.bytes defaultLimits = .ok 40 := by
  have total : compressed.totalBytes 8 = 40 := by decide
  have hbytes := (texture_bytes_exact compressed defaultLimits (by unfold Extent3d.Sides32; decide)
    rfl fun descriptor h => by rw [compressed_bytes] at h; cases h).1
  rw [total] at hbytes
  exact ⟨total, hbytes⟩

end GpuInfo
