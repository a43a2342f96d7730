import GpuInfo.Budget.Admission
import GpuInfo.Usages
import GpuInfo.Wait.Device

/-!
What a tracked resource is asked to be, and what it costs (`src/resources.rs`). A
descriptor that passes its checks has a byte count of 64 bits; the rules of wgpu about
formats and mip levels, and the usages it knows, come in as `Wgpu`.
-/

namespace GpuInfo
open MachineInteger

def mapAlignment : Nat := 8

structure Extent3d where
  width : Nat
  height : Nat
  depthOrArrayLayers : Nat
  deriving DecidableEq, Repr

inductive TextureDimension
  | d1
  | d2
  | d3
  deriving DecidableEq, Repr

structure Limits where
  maxBufferSize : Nat
  maxTextureDimension1d : Nat
  maxTextureDimension2d : Nat
  maxTextureDimension3d : Nat
  maxTextureArrayLayers : Nat

/-- What the code asks of wgpu, for its texture formats `Format`. -/
class Wgpu (Format : Type) where
  removeSrgbSuffix : Format → Format
  blockCopySize : Format → Option Nat
  blockDimensions : Format → Nat × Nat
  maxMips : Extent3d → TextureDimension → Nat
  mipLevelSize : Extent3d → Nat → TextureDimension → Extent3d
  allBufferUsages : Usages
  allTextureUsages : Usages

inductive ResourceError (Format : Type)
  | admission (error : AdmissionError)
  | invalidDescriptor (descriptor : String)
  | unsupportedFormat (format : Format)
  | overflow
  | hostAllocation
  | gpu (error : WaitError)
  | slot
  | uploadState
  deriving DecidableEq, Repr

structure BufferSpec where
  size : Fin (2 ^ 64)
  usage : Usages
  deriving DecidableEq, Repr

structure TextureSpec (Format : Type) where
  size : Extent3d
  dimension : TextureDimension
  mipLevelCount : Nat
  sampleCount : Nat
  format : Format
  usage : Usages
  viewFormat : Option Format
  deriving DecidableEq, Repr

inductive Spec (Format : Type)
  | buffer (spec : BufferSpec)
  | texture (spec : TextureSpec Format)
  deriving DecidableEq, Repr

variable {Format : Type} [DecidableEq Format] [Wgpu Format]

namespace BufferSpec
open Usages

def staging (spec : BufferSpec) : Bool := spec.usage == mapWrite ||| copySrc

variable (Format) in
def bytes (spec : BufferSpec) (limits : Limits) : Except (ResourceError Format) Nat :=
  if spec.size.val = 0 || limits.maxBufferSize < spec.size.val ||
      spec.size.val % copyBufferAlignment != 0 || spec.usage == 0 ||
      spec.usage.unknown (Wgpu.allBufferUsages Format) then
    .error (.invalidDescriptor "buffer size/usage")
  else if spec.usage.contains mapWrite && !spec.staging then
    .error (.invalidDescriptor "MAP_WRITE requires COPY_SRC staging")
  else if spec.usage.contains mapRead && spec.usage != (mapRead ||| copyDst) then
    .error (.invalidDescriptor "MAP_READ requires COPY_DST")
  else if spec.staging && spec.size.val % mapAlignment != 0 then
    .error (.invalidDescriptor "staging map alignment")
  else .ok spec.size.val

end BufferSpec

namespace TextureSpec
variable (spec : TextureSpec Format)

def extentOk (limits : Limits) : Bool :=
  let size := spec.size
  match spec.dimension with
  | .d1 => size.width ≤ limits.maxTextureDimension1d && size.height == 1 &&
      size.depthOrArrayLayers == 1 && spec.sampleCount == 1
  | .d2 => size.width ≤ limits.maxTextureDimension2d &&
      size.height ≤ limits.maxTextureDimension2d &&
      size.depthOrArrayLayers ≤ limits.maxTextureArrayLayers
  | .d3 => size.width ≤ limits.maxTextureDimension3d &&
      size.height ≤ limits.maxTextureDimension3d &&
      size.depthOrArrayLayers ≤ limits.maxTextureDimension3d && spec.sampleCount == 1

def ceilDiv (a b : Nat) : Nat := (a + b - 1) / b

/-- The bytes of one mip level of blocks of `block` bytes. -/
def levelBytes (block level : Nat) : Option Nat := do
  let mip := Wgpu.mipLevelSize Format spec.size level spec.dimension
  let (bw, bh) := Wgpu.blockDimensions spec.format
  let n ← checkedMul (ceilDiv mip.width bw) (ceilDiv mip.height bh)
  let n ← checkedMul n mip.depthOrArrayLayers
  let n ← checkedMul n spec.sampleCount
  checkedMul n block

/-- The loop over the mip levels. -/
def addLevels (block : Nat) : List Nat → Nat → Except (ResourceError Format) Nat
  | [], bytes => .ok bytes
  | level :: levels, bytes =>
      match (spec.levelBytes block level).bind (checkedAdd bytes) with
      | none => .error .overflow
      | some bytes => addLevels block levels bytes

def bytes (limits : Limits) : Except (ResourceError Format) Nat :=
  let size := spec.size
  if size.width = 0 || size.height = 0 || size.depthOrArrayLayers = 0 || spec.usage == 0 ||
      spec.usage.unknown (Wgpu.allTextureUsages Format) || spec.mipLevelCount = 0 ||
      Wgpu.maxMips Format size spec.dimension < spec.mipLevelCount ||
      !([1, 2, 4, 8, 16].contains spec.sampleCount) then
    .error (.invalidDescriptor "texture extent/mips/samples/usage")
  else if !spec.extentOk limits || (1 < spec.sampleCount &&
      (spec.mipLevelCount != 1 || size.depthOrArrayLayers != 1)) then
    .error (.invalidDescriptor "texture dimensions exceed enabled limits")
  else if spec.viewFormat.any fun view =>
      Wgpu.removeSrgbSuffix view != Wgpu.removeSrgbSuffix spec.format then
    .error (.invalidDescriptor "incompatible texture view format")
  else match Wgpu.blockCopySize spec.format with
    | none => .error (.unsupportedFormat spec.format)
    | some block =>
        let (bw, bh) := Wgpu.blockDimensions spec.format
        if size.width % bw != 0 || size.height % bh != 0 then
          .error (.invalidDescriptor "compressed texture block alignment")
        else spec.addLevels block (List.range spec.mipLevelCount) 0

omit [Wgpu Format] in
def normalized : TextureSpec Format :=
  if spec.viewFormat = some spec.format then { spec with viewFormat := none } else spec

end TextureSpec

namespace Spec

def bytes (limits : Limits) : Spec Format → Except (ResourceError Format) Nat
  | .buffer spec => spec.bytes Format limits
  | .texture spec => spec.bytes limits

omit [Wgpu Format] in
def normalized : Spec Format → Spec Format
  | .texture spec => .texture spec.normalized
  | .buffer spec => .buffer spec

omit [DecidableEq Format] [Wgpu Format] in
def reusable : Spec Format → Bool
  | .buffer spec => !spec.usage.contains Usages.mapRead
  | .texture _ => true

omit [DecidableEq Format] [Wgpu Format] in
def staging : Spec Format → Bool
  | .buffer spec => spec.staging
  | .texture _ => false

omit [Wgpu Format] in
theorem normalized_normalized (spec : Spec Format) :
    spec.normalized.normalized = spec.normalized := by
  cases spec with
  | buffer spec => rfl
  | texture spec =>
      simp only [normalized, TextureSpec.normalized]
      split <;> simp [*]

end Spec

omit [DecidableEq Format] in
theorem TextureSpec.addLevels_viewFormat (spec : TextureSpec Format) (view : Option Format)
    (block : Nat) (levels : List Nat) (bytes : Nat) :
    { spec with viewFormat := view }.addLevels block levels bytes =
      spec.addLevels block levels bytes := by
  induction levels generalizing bytes with
  | nil => rfl
  | cons level levels ih =>
      simp only [addLevels, ih]
      rfl

/-- The view of a format as itself, which `normalized` drops, is always compatible and costs
nothing. -/
theorem TextureSpec.normalized_bytes (spec : TextureSpec Format) (limits : Limits) :
    spec.normalized.bytes limits = spec.bytes limits := by
  unfold TextureSpec.normalized
  split
  · rename_i hview
    have compatible : (spec.viewFormat.any fun view =>
        Wgpu.removeSrgbSuffix view != Wgpu.removeSrgbSuffix spec.format) = false := by
      simp [hview]
    simp only [TextureSpec.bytes, compatible, addLevels_viewFormat]
    rfl
  · rfl

theorem Spec.normalized_bytes (spec : Spec Format) (limits : Limits) :
    spec.normalized.bytes limits = spec.bytes limits := by
  cases spec with
  | buffer spec => rfl
  | texture spec => exact spec.normalized_bytes limits

omit [DecidableEq Format] in
/-- The loop stays within 64 bits. -/
theorem TextureSpec.addLevels_le (spec : TextureSpec Format) {block : Nat} {levels : List Nat}
    {bytes total : Nat} (start : bytes ≤ u64Max)
    (h : spec.addLevels block levels bytes = .ok total) : total ≤ u64Max := by
  induction levels generalizing bytes with
  | nil =>
      cases h
      exact start
  | cons level levels ih =>
      rw [addLevels] at h
      cases hlevel : (spec.levelBytes block level).bind (checkedAdd bytes) with
      | none => simp [hlevel] at h
      | some next =>
          rw [hlevel] at h
          obtain ⟨more, -, hnext⟩ := Option.bind_eq_some_iff.mp hlevel
          obtain ⟨hle, rfl⟩ := checkedAdd_eq_some.mp hnext
          exact ih hle h

omit [DecidableEq Format] in
/-- What a buffer descriptor must be to have bytes at all. -/
theorem BufferSpec.bytes_ok {spec : BufferSpec} {limits : Limits} {bytes : Nat}
    (h : spec.bytes Format limits = .ok bytes) : 0 < spec.size.val ∧ bytes = spec.size.val := by
  rw [BufferSpec.bytes] at h
  split at h
  · cases h
  rename_i valid
  split at h
  · cases h
  split at h
  · cases h
  split at h
  · cases h
  cases h
  simp only [Bool.or_eq_true, decide_eq_true_eq, not_or] at valid
  exact ⟨Nat.pos_of_ne_zero valid.1.1.1.1, rfl⟩

/-- What a texture descriptor must be to have bytes at all, and where they come from. -/
theorem TextureSpec.bytes_ok {spec : TextureSpec Format} {limits : Limits} {bytes : Nat}
    (h : spec.bytes limits = .ok bytes) :
    (0 < spec.size.width ∧ 0 < spec.size.height ∧ 0 < spec.size.depthOrArrayLayers) ∧
      0 < spec.mipLevelCount ∧ 0 < spec.sampleCount ∧
      ∃ block, Wgpu.blockCopySize spec.format = some block ∧
        spec.addLevels block (List.range spec.mipLevelCount) 0 = .ok bytes := by
  simp only [TextureSpec.bytes] at h
  split at h
  · cases h
  rename_i valid
  split at h
  · cases h
  split at h
  · cases h
  split at h
  · cases h
  rename_i block hblock
  split at h
  · cases h
  simp only [Bool.or_eq_true, decide_eq_true_eq, not_or, Bool.not_eq_true',
    Bool.not_eq_false] at valid
  obtain ⟨⟨⟨⟨⟨⟨⟨hwidth, hheight⟩, hlayers⟩, -⟩, -⟩, hmips⟩, -⟩, hsamples⟩ := valid
  have samples : 0 < spec.sampleCount := by
    simp only [List.contains_eq_mem, List.mem_cons, List.not_mem_nil, or_false,
      decide_eq_true_eq] at hsamples
    omega
  have extent : 0 < spec.size.width ∧ 0 < spec.size.height ∧ 0 < spec.size.depthOrArrayLayers :=
    ⟨Nat.pos_of_ne_zero hwidth, Nat.pos_of_ne_zero hheight, Nat.pos_of_ne_zero hlayers⟩
  exact ⟨extent, Nat.pos_of_ne_zero hmips, samples, block, hblock, h⟩

theorem Spec.bytes_le {spec : Spec Format} {limits : Limits} {bytes : Nat}
    (h : spec.bytes limits = .ok bytes) : bytes ≤ u64Max := by
  cases spec with
  | buffer spec =>
      obtain ⟨-, hbytes⟩ := BufferSpec.bytes_ok h
      rw [hbytes]
      exact Nat.le_pred_of_lt spec.size.isLt
  | texture spec =>
      obtain ⟨-, -, -, block, -, hlevels⟩ := TextureSpec.bytes_ok h
      exact spec.addLevels_le (Nat.zero_le _) hlevels

/-- The checks of a descriptor know nothing of the budget. -/
theorem Spec.bytes_ne_admission {spec : Spec Format} {limits : Limits} (error : AdmissionError) :
    spec.bytes limits ≠ .error (.admission error) := by
  cases spec with
  | buffer spec =>
      simp only [Spec.bytes, BufferSpec.bytes]
      repeat' split
      all_goals simp
  | texture spec =>
      have levels : ∀ {block bytes : Nat} {levels : List Nat},
          spec.addLevels block levels bytes ≠ .error (.admission error) := by
        intro block bytes levels
        induction levels generalizing bytes with
        | nil => exact nofun
        | cons level levels ih =>
            rw [TextureSpec.addLevels]
            split
            · exact nofun
            · exact ih
      simp only [Spec.bytes, TextureSpec.bytes]
      repeat' split
      all_goals first | exact levels | simp

/-! Every descriptor takes some room -/

/-- What is known of wgpu's answers: neither a block of a format nor a mip level of a texture
is empty. -/
class LawfulWgpu (Format : Type) [Wgpu Format] : Prop where
  blockCopySize_pos : ∀ (format : Format) (block : Nat),
    Wgpu.blockCopySize format = some block → 0 < block
  blockDimensions_pos : ∀ format : Format,
    0 < (Wgpu.blockDimensions format).1 ∧ 0 < (Wgpu.blockDimensions format).2
  mipLevelSize_pos : ∀ (size : Extent3d) (level : Nat) (dimension : TextureDimension),
    0 < size.width → 0 < size.height → 0 < size.depthOrArrayLayers →
      0 < (Wgpu.mipLevelSize Format size level dimension).width ∧
      0 < (Wgpu.mipLevelSize Format size level dimension).height ∧
      0 < (Wgpu.mipLevelSize Format size level dimension).depthOrArrayLayers

theorem TextureSpec.ceilDiv_pos {a b : Nat} (ha : 0 < a) (hb : 0 < b) : 0 < ceilDiv a b :=
  Nat.div_pos (by omega) hb

theorem checkedMul_pos {a b c : Nat} (ha : 0 < a) (hb : 0 < b) (h : checkedMul a b = some c) :
    0 < c := by
  unfold checkedMul at h
  split at h
  · cases h
    exact Nat.mul_pos ha hb
  · cases h

omit [DecidableEq Format] in
theorem TextureSpec.levelBytes_pos [lawful : LawfulWgpu Format] {spec : TextureSpec Format}
    {block level bytes : Nat} (width : 0 < spec.size.width) (height : 0 < spec.size.height)
    (layers : 0 < spec.size.depthOrArrayLayers) (samples : 0 < spec.sampleCount)
    (hblock : 0 < block) (h : spec.levelBytes block level = some bytes) : 0 < bytes := by
  obtain ⟨hwidth, hheight, hlayers⟩ :=
    lawful.mipLevelSize_pos spec.size level spec.dimension width height layers
  obtain ⟨hbw, hbh⟩ := LawfulWgpu.blockDimensions_pos spec.format
  rw [levelBytes] at h
  obtain ⟨blocks, hblocks, h⟩ := Option.bind_eq_some_iff.mp h
  obtain ⟨slices, hslices, h⟩ := Option.bind_eq_some_iff.mp h
  obtain ⟨sampled, hsampled, h⟩ := Option.bind_eq_some_iff.mp h
  have hpositive := checkedMul_pos (ceilDiv_pos hwidth hbw) (ceilDiv_pos hheight hbh) hblocks
  exact checkedMul_pos (checkedMul_pos (checkedMul_pos hpositive hlayers hslices) samples hsampled)
    hblock h

omit [DecidableEq Format] in
/-- The loop adds to what it starts with. -/
theorem TextureSpec.le_addLevels {spec : TextureSpec Format} {block bytes total : Nat}
    {levels : List Nat} (h : spec.addLevels block levels bytes = .ok total) : bytes ≤ total := by
  induction levels generalizing bytes with
  | nil =>
      cases h
      exact Nat.le_refl _
  | cons level levels ih =>
      rw [addLevels] at h
      cases hlevel : (spec.levelBytes block level).bind (checkedAdd bytes) with
      | none => simp [hlevel] at h
      | some next =>
          rw [hlevel] at h
          obtain ⟨more, -, hnext⟩ := Option.bind_eq_some_iff.mp hlevel
          obtain ⟨-, rfl⟩ := checkedAdd_eq_some.mp hnext
          exact (Nat.le_add_right _ _).trans (ih h)

omit [DecidableEq Format] in
theorem TextureSpec.addLevels_pos {spec : TextureSpec Format} {block level total : Nat}
    {levels : List Nat}
    (hpositive : ∀ {bytes}, spec.levelBytes block level = some bytes → 0 < bytes)
    (h : spec.addLevels block (level :: levels) 0 = .ok total) : 0 < total := by
  rw [addLevels] at h
  cases hnext : (spec.levelBytes block level).bind (checkedAdd 0) with
  | none => simp [hnext] at h
  | some next =>
      rw [hnext] at h
      obtain ⟨first, hlevel, hfirst⟩ := Option.bind_eq_some_iff.mp hnext
      obtain ⟨-, rfl⟩ := checkedAdd_eq_some.mp hfirst
      rw [Nat.zero_add] at h
      exact Nat.lt_of_lt_of_le (hpositive hlevel) (le_addLevels h)

/-- A valid descriptor takes some room. -/
theorem Spec.bytes_pos [LawfulWgpu Format] {spec : Spec Format} {limits : Limits} {bytes : Nat}
    (h : spec.bytes limits = .ok bytes) : 0 < bytes := by
  cases spec with
  | buffer spec =>
      obtain ⟨hpositive, hbytes⟩ := BufferSpec.bytes_ok h
      exact hbytes ▸ hpositive
  | texture spec =>
      obtain ⟨⟨hwidth, hheight, hlayers⟩, hmips, hsamples, block, hblock, hlevels⟩ :=
        TextureSpec.bytes_ok h
      -- The first level alone has some bytes.
      obtain ⟨count, hcount⟩ := Nat.exists_eq_succ_of_ne_zero hmips.ne'
      rw [hcount, List.range_succ_eq_map] at hlevels
      refine TextureSpec.addLevels_pos (fun hlevel => ?_) hlevels
      exact TextureSpec.levelBytes_pos hwidth hheight hlayers hsamples
        (LawfulWgpu.blockCopySize_pos _ _ hblock) hlevel

end GpuInfo
