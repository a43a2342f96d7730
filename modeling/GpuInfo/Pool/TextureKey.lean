import GpuInfo.Pool.ResourcePool
import GpuInfo.Resources.TextureBytes
import Mathlib.Data.Nat.ModEq

/-!
Textures in the pool of idle resources (`src/pool.rs`). The pool counts a texture by its
texels; a descriptor is counted by its blocks (`TextureSpec::bytes`). A block of a compressed
format covers several texels, and there the two counts are different.
-/

namespace GpuInfo
open MachineInteger

/-- A 2D texture's key (one mip, one sample, one layer). -/
structure TextureKey (Format : Type) where
  width : Nat
  height : Nat
  format : Format
  usage : Usages
  deriving DecidableEq, Repr

/-- What a `wgpu::Texture` tells of itself. -/
structure Texture (Format : Type) where
  width : Nat
  height : Nat
  format : Format
  usage : Usages
  deriving DecidableEq, Repr

variable {Format : Type} [Wgpu Format]

namespace Texture
variable (texture : Texture Format)

omit [Wgpu Format] in
def key : TextureKey Format :=
  ⟨texture.width, texture.height, texture.format, texture.usage⟩

def texel : Nat := (Wgpu.blockCopySize texture.format).getD 16

def bytes (build : Build) : Except Fault Nat := do
  let texels ← build.mul texture.width texture.height
  build.mul texels texture.texel

/-- A release build counts a texture without a panic. -/
theorem bytes_release :
    texture.bytes .release = .ok (texture.width * texture.height * texture.texel % 2 ^ 64) := by
  rw [bytes, Build.release_mul, ok_bind, Build.release_mul, Nat.mod_mul_mod]

/-- A debug build counts it only where the count fits. -/
theorem bytes_debug_eq_ok {bytes : Nat} (htexel : 0 < texture.texel) :
    texture.bytes .debug = .ok bytes ↔
      texture.width * texture.height * texture.texel ≤ u64Max ∧
        bytes = texture.width * texture.height * texture.texel := by
  rw [Texture.bytes]
  by_cases fits : texture.width * texture.height ≤ u64Max
  · rw [Build.mul_of_le fits, ok_bind, Build.debug_mul_eq_ok]
  · rw [Build.debug_mul_of_exceeds fits, error_bind]
    constructor
    · intro h
      cases h
    · intro h
      exact absurd ((Nat.le_mul_of_pos_right _ htexel).trans h.1) fits

end Texture

instance : Pooled (Texture Format) (TextureKey Format) where
  key := Texture.key
  bytes texture := texture.width * texture.height * texture.texel % 2 ^ 64
  bytes_le _ := Nat.le_pred_of_lt (Nat.mod_lt _ (by decide))

namespace TextureSpec

/-- What a `TextureKey` covers: one mip, one sample, one layer. -/
def Covered (spec : TextureSpec Format) : Prop :=
  spec.dimension = .d2 ∧ spec.mipLevelCount = 1 ∧ spec.sampleCount = 1 ∧
    spec.size.depthOrArrayLayers = 1

/-- The texture made of a descriptor. -/
def created (spec : TextureSpec Format) : Texture Format :=
  ⟨spec.size.width, spec.size.height, spec.format, spec.usage⟩

/-- The blocks of a format that the texture is made of. -/
def blocks (spec : TextureSpec Format) : Nat :=
  spec.size.width / (Wgpu.blockDimensions spec.format).1 *
    (spec.size.height / (Wgpu.blockDimensions spec.format).2)

/-- The texels of a block of the format. -/
def texelsPerBlock (spec : TextureSpec Format) : Nat :=
  (Wgpu.blockDimensions spec.format).1 * (Wgpu.blockDimensions spec.format).2

variable [DecidableEq Format]

theorem bytes_aligned {spec : TextureSpec Format} {limits : Limits} {bytes : Nat}
    (h : spec.bytes limits = .ok bytes) :
    (Wgpu.blockDimensions spec.format).1 ∣ spec.size.width ∧
      (Wgpu.blockDimensions spec.format).2 ∣ spec.size.height := by
  simp only [TextureSpec.bytes] at h
  iterate 4
    split at h
    · cases h
  split at h
  · cases h
  rename_i aligned
  simp only [Bool.or_eq_true, bne_iff_ne, not_or, not_not] at aligned
  exact ⟨Nat.dvd_of_mod_eq_zero aligned.1, Nat.dvd_of_mod_eq_zero aligned.2⟩

omit [DecidableEq Format] in
theorem blocks_mul_texelsPerBlock {spec : TextureSpec Format}
    (width : (Wgpu.blockDimensions spec.format).1 ∣ spec.size.width)
    (height : (Wgpu.blockDimensions spec.format).2 ∣ spec.size.height) :
    spec.size.width * spec.size.height = spec.texelsPerBlock * spec.blocks := by
  rw [texelsPerBlock, blocks, Nat.mul_mul_mul_comm, Nat.mul_div_cancel' width,
    Nat.mul_div_cancel' height]

omit [DecidableEq Format] in
/-- The first mip level is the texture itself, which whole blocks cover. -/
theorem mipBytes_zero [LawfulWgpu Format] {spec : TextureSpec Format} {block : Nat}
    (covered : spec.Covered) (positive : 0 < spec.size.width ∧ 0 < spec.size.height)
    (width : (Wgpu.blockDimensions spec.format).1 ∣ spec.size.width)
    (height : (Wgpu.blockDimensions spec.format).2 ∣ spec.size.height) :
    spec.mipBytes block 0 = spec.blocks * block := by
  obtain ⟨hdimension, -, hsamples, hlayers⟩ := covered
  obtain ⟨hbw, hbh⟩ := LawfulWgpu.blockDimensions_pos spec.format
  have whole : ∀ {side step : Nat}, 0 < side → 0 < step → step ∣ side →
      halved side 0 ⌈/⌉ step = side / step := by
    intro side step hside hstep hdvd
    obtain ⟨count, rfl⟩ := hdvd
    rw [halved, pow_zero, Nat.div_one, max_eq_right hside, ← smul_eq_mul, smul_ceilDiv hstep,
      smul_eq_mul, Nat.mul_div_cancel_left count hstep]
  simp only [mipBytes, Extent3d.mip, hdimension, hlayers, hsamples, blocks,
    whole positive.1 hbw width, whole positive.2 hbh height, Nat.mul_one]

/-- The descriptor is counted by its blocks. -/
theorem bytes_covered [DocumentedWgpu Format] {spec : TextureSpec Format} {limits : Limits}
    {block bytes : Nat} (covered : spec.Covered)
    (known : Wgpu.blockCopySize spec.format = some block)
    (accepted : spec.bytes limits = .ok bytes) :
    bytes = spec.blocks * block ∧ bytes ≤ u64Max ∧ 0 < bytes := by
  obtain ⟨width, height⟩ := bytes_aligned accepted
  obtain ⟨⟨hwidth, hheight, hlayers⟩, -, hsamples, block', hblock, hlevels⟩ := bytes_ok accepted
  obtain rfl : block = block' := Option.some_inj.mp (known.symm.trans hblock)
  have line : spec.size.FitsDimension spec.dimension := by
    intro h
    exact absurd (covered.1.symm.trans h) (by decide)
  have hpositive := LawfulWgpu.blockCopySize_pos spec.format block known
  have hlevel : spec.levelBytes block 0 = fit64 (spec.mipBytes block 0) :=
    levelBytes_eq (by decide) line hlayers hsamples hpositive
  have hspec : (Spec.texture spec).bytes limits = .ok bytes := accepted
  refine ⟨?_, Spec.bytes_le hspec, Spec.bytes_pos hspec⟩
  rw [covered.2.1, List.range_one, addLevels, hlevel, fit64_bind_checkedAdd, Nat.zero_add,
    mipBytes_zero covered ⟨hwidth, hheight⟩ width height, fit64] at hlevels
  by_cases fits : spec.blocks * block ≤ u64Max
  · rw [if_pos fits] at hlevels
    exact (Except.ok.inj hlevels).symm
  · rw [if_neg fits] at hlevels
    cases hlevels

omit [DecidableEq Format] in
/-- The texture is counted by its texels, as many as a block has for each of its blocks. -/
theorem created_texels {spec : TextureSpec Format} {block : Nat}
    (known : Wgpu.blockCopySize spec.format = some block)
    (width : (Wgpu.blockDimensions spec.format).1 ∣ spec.size.width)
    (height : (Wgpu.blockDimensions spec.format).2 ∣ spec.size.height) :
    spec.created.width * spec.created.height * spec.created.texel =
      spec.texelsPerBlock * (spec.blocks * block) := by
  rw [Texture.texel, show spec.created.format = spec.format from rfl, known, Option.getD_some,
    ← Nat.mul_assoc, ← blocks_mul_texelsPerBlock width height]
  rfl

omit [DecidableEq Format] in
theorem texelsPerBlock_pos [LawfulWgpu Format] (spec : TextureSpec Format) :
    0 < spec.texelsPerBlock :=
  Nat.mul_pos (LawfulWgpu.blockDimensions_pos spec.format).1
    (LawfulWgpu.blockDimensions_pos spec.format).2

omit [DecidableEq Format] in
theorem texelsPerBlock_eq_one_iff {spec : TextureSpec Format} :
    spec.texelsPerBlock = 1 ↔ Wgpu.blockDimensions spec.format = (1, 1) := by
  rw [texelsPerBlock, mul_eq_one, Prod.ext_iff]

end TextureSpec

/-- A multiple of a number wraps to it when what is too much is a multiple of the word. -/
theorem wrapped_multiple {k b : Nat} (hk : 0 < k) (hb : b ≤ u64Max) :
    k * b % 2 ^ 64 = b ↔ 2 ^ 64 ∣ b * (k - 1) := by
  have small : b % 2 ^ 64 = b := Nat.mod_eq_of_lt (Nat.lt_of_le_of_lt hb (by decide))
  have excess : k * b - b = b * (k - 1) := by
    rw [Nat.mul_comm k b, Nat.mul_sub_one]
  have hmod : b ≡ k * b [MOD 2 ^ 64] ↔ 2 ^ 64 ∣ k * b - b :=
    Nat.modEq_iff_dvd' (Nat.le_mul_of_pos_left b hk)
  rw [← excess, ← hmod, Nat.ModEq, small, eq_comm]

variable [DecidableEq Format]

theorem texture_counts_agree_iff [DocumentedWgpu Format] (build : Build)
    (spec : TextureSpec Format) (limits : Limits) {block bytes : Nat} (covered : spec.Covered)
    (known : Wgpu.blockCopySize spec.format = some block)
    (accepted : spec.bytes limits = .ok bytes) :
    spec.created.bytes build = .ok bytes ↔
      Wgpu.blockDimensions spec.format = (1, 1) ∨
        build = .release ∧ 2 ^ 64 ∣ spec.blocks * block * (spec.texelsPerBlock - 1) := by
  obtain ⟨width, height⟩ := TextureSpec.bytes_aligned accepted
  obtain ⟨rfl, hle, hpositive⟩ := TextureSpec.bytes_covered covered known accepted
  have hcount := TextureSpec.created_texels known width height
  have hk := TextureSpec.texelsPerBlock_pos spec
  have htexel : 0 < spec.created.texel := by
    rw [Texture.texel, show spec.created.format = spec.format from rfl, known, Option.getD_some]
    exact Nat.pos_of_mul_pos_left hpositive
  rw [← TextureSpec.texelsPerBlock_eq_one_iff]
  cases build with
  | debug =>
      rw [Texture.bytes_debug_eq_ok _ htexel, hcount]
      constructor
      · rintro ⟨-, hequal⟩
        exact .inl (Nat.eq_of_mul_eq_mul_right hpositive (by rw [← hequal, Nat.one_mul]))
      · rintro (hone | ⟨hbuild, -⟩)
        · rw [hone, Nat.one_mul]
          exact ⟨hle, rfl⟩
        · cases hbuild
  | release =>
      rw [Texture.bytes_release, hcount, Except.ok.injEq, wrapped_multiple hk hle]
      constructor
      · exact fun h => .inr ⟨rfl, h⟩
      · rintro (hone | ⟨-, hdvd⟩)
        · rw [hone, Nat.sub_self, Nat.mul_zero]
          exact Nat.dvd_zero _
        · exact hdvd

/-- Eight texels by four in blocks of four by four, of eight bytes each. -/
def twoBlocks : TextureSpec TextureFormat := { compressed with mipLevelCount := 1 }

theorem twoBlocks_bytes : twoBlocks.bytes defaultLimits = .ok 16 := by decide

theorem texture_counts_can_differ : ∃ (spec : TextureSpec TextureFormat) (limits : Limits),
    spec.Covered ∧ (Wgpu.blockCopySize spec.format).isSome ∧ spec.bytes limits = .ok 16 ∧
      spec.created.bytes .debug = .ok 256 ∧ spec.created.bytes .release = .ok 256 :=
  ⟨twoBlocks, defaultLimits, ⟨rfl, rfl, rfl, rfl⟩, rfl, twoBlocks_bytes, by decide, by decide⟩

/-- A frame of plain texels. -/
def frame : TextureSpec TextureFormat := ⟨⟨8, 4, 1⟩, .d2, 1, 1, .rgba32Float, 0x3, none⟩

theorem frame_bytes : frame.bytes defaultLimits = .ok 512 := by decide

theorem texture_counts_agree_iff_frame :
    frame.created.bytes .debug = .ok 512 ∧ frame.created.bytes .release = .ok 512 := by
  have covered : frame.Covered := ⟨rfl, rfl, rfl, rfl⟩
  have agree : ∀ build, frame.created.bytes build = .ok 512 := fun build =>
    (texture_counts_agree_iff build frame defaultLimits covered rfl frame_bytes).mpr (.inl rfl)
  exact ⟨agree .debug, agree .release⟩

end GpuInfo
