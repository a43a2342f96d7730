import GpuInfo.Image.DeviceMemory
import Mathlib.Tactic.Ring

/-!
What is written into an image is read back, rounded to half precision. The bytes of the rows
go out at a tight stride and come back at one of 256 bytes; whatever stands between them does
not matter.
-/

namespace GpuInfo
open MachineInteger StridedRows

/-! Rows of texels as rows of bytes -/

/-- The bytes of the texels, row by row. -/
def texelBytes (texel : Nat → Nat → Fin 8 → UInt8) (y i : Nat) : UInt8 :=
  texel (i / 8) y ⟨i % 8, Nat.mod_lt i (by decide)⟩

theorem TexelCopyBufferLayout.Stored.holds {layout : TexelCopyBufferLayout} {bytes : List UInt8}
    {size : Extent3d} {texel : Nat → Nat → Fin 8 → UInt8} (h : layout.Stored bytes size texel)
    (hoffset : layout.offset = 0) :
    Holds bytes layout.bytesPerRow (size.width * 8) size.height (texelBytes texel) := by
  intro y hy i hi
  have hx : i / 8 < size.width := Nat.div_lt_of_lt_mul (Nat.mul_comm _ _ ▸ hi)
  have hbyte := h (i / 8) hx y hy ⟨i % 8, Nat.mod_lt i (by decide)⟩
  rw [hoffset, Nat.zero_add, Nat.add_assoc] at hbyte
  have hindex : i / 8 * 8 + i % 8 = i := Nat.div_add_mod' i 8
  rw [hindex] at hbyte
  exact hbyte

/-! The rows without their padding -/

section Unpad
variable {half : HalfFloat} {build : Build} {picture : Nat → Nat → UInt8}
  {data : List UInt8} {padded width height : Nat}

/-- A row of floats, from the bytes of a row. -/
def rowFloats (half : HalfFloat) (picture : Nat → Nat → UInt8) (width y : Nat) : List UInt32 :=
  (halfsOfBytes (row picture (width * 8) y)).map half.toF32

theorem length_rowFloats (y : Nat) : (rowFloats half picture width y).length = width * 4 := by
  rw [rowFloats, List.length_map, length_halfsOfBytes, length_row]
  omega

/-- What the loop computes with fits its machine integers. -/
structure RowSizes (padded width height : Nat) : Prop where
  stride : width * 8 ≤ padded
  even : padded % 2 = 0
  padded_lt : padded < 2 ^ 32
  height_lt : height < 2 ^ 32
  floats_le : width * 4 * height ≤ u64Max

theorem RowSizes.size_le (sizes : RowSizes padded width height) : padded * height ≤ u64Max := by
  have hproduct : padded * height < 2 ^ 32 * 2 ^ 32 :=
    Nat.mul_lt_mul'' sizes.padded_lt sizes.height_lt
  unfold u64Max
  omega

theorem RowSizes.bytes_le (sizes : RowSizes padded width height) {y : Nat} (hy : y < height) :
    y * padded + width * 8 ≤ u64Max := by
  calc
    y * padded + width * 8 ≤ y * padded + padded := Nat.add_le_add_left sizes.stride _
    _ = (y + 1) * padded := (Nat.succ_mul y padded).symm
    _ ≤ height * padded := Nat.mul_le_mul_right padded hy
    _ ≤ u64Max := Nat.mul_comm padded height ▸ sizes.size_le

theorem RowSizes.row_le (sizes : RowSizes padded width height) {y : Nat} (hy : y < height) :
    (y + 1) * (width * 4) ≤ u64Max := by
  have hrow := Nat.mul_le_mul_right (width * 4) hy
  rw [Nat.mul_comm height] at hrow
  exact hrow.trans sizes.floats_le

theorem unpadRow_progress (sizes : RowSizes padded width height) (hwidth : 0 < width)
    (h : Holds data padded (width * 8) height picture) {y : Nat} (hy : y < height) :
    GpuImage.unpadRow half build data (width * 8) padded (width * 4)
        (progress (rowFloats half picture width) (width * 4) 0 height y) y =
      .ok (progress (rowFloats half picture width) (width * 4) 0 height (y + 1)) := by
  have hbytes := sizes.bytes_le hy
  have hfloats := sizes.row_le hy
  have hstart : y * (width * 4) ≤ u64Max :=
    (Nat.mul_le_mul_right _ (Nat.le_succ y)).trans hfloats
  have hnext : y + 1 ≤ u64Max :=
    (Nat.le_mul_of_pos_right (y + 1) (Nat.mul_pos hwidth (by decide))).trans hfloats
  have hinside := h.inRange (Nat.mul_pos hwidth (by decide)) hy
  have hrow : slice data (y * padded) (y * padded + width * 8) =
      .ok (row picture (width * 8) y) := by
    rw [slice_of_le (Nat.le_add_right _ _) hinside, Nat.add_sub_cancel_left, h.slice_eq hy]
  have hoffset : y * padded % 2 = 0 := by
    rw [Nat.mul_mod, sizes.even, Nat.mul_zero, Nat.zero_mod]
  have hcast : castSlice (y * padded) (row picture (width * 8) y) =
      .ok (halfsOfBytes (row picture (width * 8) y)) := by
    refine castSlice_of_even hoffset ?_
    rw [length_row]
    omega
  have hdst : (y + 1) * (width * 4) ≤
      (progress (rowFloats half picture width) (width * 4) 0 height y).length := by
    rw [length_progress length_rowFloats (le_of_lt hy)]
    exact Nat.mul_le_mul_right _ hy
  have hout := slice_of_le (Nat.mul_le_mul_right (width * 4) (Nat.le_succ y)) hdst
  have hassign : assignZip (((progress (rowFloats half picture width) (width * 4) 0 height
      y).drop (y * (width * 4))).take ((y + 1) * (width * 4) - y * (width * 4)))
      (rowFloats half picture width y) = rowFloats half picture width y := by
    refine assignZip_of_length ?_
    rw [length_rowFloats, List.length_take, List.length_drop]
    rw [Nat.succ_mul] at hdst ⊢
    omega
  rw [GpuImage.unpadRow, Build.mul_of_le (Nat.le_of_add_right_le hbytes), lift_ok,
    Build.add_of_le hbytes, lift_ok, hrow, ok_bind, hcast, ok_bind, Build.mul_of_le hstart, lift_ok,
    Build.add_of_le hnext, lift_ok, Build.mul_of_le hfloats, lift_ok, hout, ok_bind,
    ← rowFloats, hassign, splice_progress length_rowFloats]
  rfl

theorem flatMap_rowFloats (picture : Nat → Nat → UInt8) (width height : Nat) :
    (List.range height).flatMap (rowFloats half picture width) =
      (halfsOfBytes (rows picture (width * 8) height)).map half.toF32 := by
  induction height with
  | zero => rfl
  | succ height ih =>
      have heven : (rows picture (width * 8) height).length % 2 = 0 := by
        rw [length_rows, Nat.mul_mod, Nat.mul_mod width]
        simp
      rw [List.range_succ, List.flatMap_append, ih, List.flatMap_singleton, rows_succ,
        halfsOfBytes_append heven, List.map_append, rowFloats]

/-- Every row is in range, and the padding is left behind. -/
theorem unpad_eq (sizes : RowSizes padded width height) (hwidth : 0 < width)
    (h : Holds data padded (width * 8) height picture) :
    GpuImage.unpad half build data (width * 8) padded width height =
      .ok ((halfsOfBytes (rows picture (width * 8) height)).map half.toF32) := by
  have hrow : width * 4 ≤ u64Max := by
    have hstride := sizes.stride
    have hpadded := sizes.padded_lt
    unfold u64Max
    omega
  rw [GpuImage.unpad, Build.mul_of_le hrow, lift_ok, Build.mul_of_le sizes.floats_le, lift_ok,
    Nat.mul_comm (width * 4), foldlM_fill fun y hy => unpadRow_progress sizes hwidth h hy,
    flatMap_rowFloats]
  rfl

end Unpad

/-! Writing and reading -/

/-- The floats of a slice are few enough to be counted. -/
theorem FloatSlice.rows_le (rgba : FloatSlice) {width height : Nat}
    (h : rgba.floats.length = width * height * 4) : width * 4 * height ≤ u64Max := by
  have hbound := rgba.bounded
  rw [h] at hbound
  rw [Nat.mul_right_comm, u64Max]
  omega

section Images
variable {half : HalfFloat} {build : Build} {gpu : SharedGpu} {memory : DeviceMemory gpu}
  {image : GpuImage gpu}

namespace GpuImage

/-- The texels of the image are these floats at half precision. -/
def Shows (half : HalfFloat) (memory : DeviceMemory gpu) (image : GpuImage gpu) (state : gpu.State)
    (floats : List UInt32) : Prop :=
  rows (texelBytes (memory.texel state image.tex)) (image.width.toNat * 8) image.height.toNat =
    bytesOfHalfs (floats.map half.fromF32)

/-- The image is the whole of its texture, and its rows as a copy wants them are of 32 bits. -/
structure Readable (memory : DeviceMemory gpu) (image : GpuImage gpu) : Prop where
  whole : memory.size image.tex = image.extent
  width_pos : 1 ≤ image.width.toNat
  height_pos : 1 ≤ image.height.toNat
  padded_lt : (image.width.toNat * 8) ⌈/⌉ 256 * 256 < 2 ^ 32

theorem le_padded (n : Nat) : n ≤ n ⌈/⌉ 256 * 256 := by
  have h : n ≤ 256 • (n ⌈/⌉ 256) := le_smul_ceilDiv (by decide)
  rwa [smul_eq_mul, Nat.mul_comm] at h

theorem Readable.unpadded_lt (readable : image.Readable memory) :
    image.width.toNat * 8 < 2 ^ 32 :=
  (le_padded _).trans_lt readable.padded_lt

theorem writeRgbaF32_shows (lawful : gpu.Lawful memory) (readable : image.Readable memory)
    (rgba : FloatSlice)
    (hlength : rgba.floats.length = image.width.toNat * image.height.toNat * 4)
    (state : gpu.State) : ∃ written,
      image.writeRgbaF32 half build rgba (some state) = .ok (.ok (), some written) ∧
        image.Shows half memory written rgba.floats := by
  let bytes := bytesOfHalfs (rgba.floats.map half.fromF32)
  let layout : TexelCopyBufferLayout := ⟨0, image.width.toNat * 8, image.height.toNat⟩
  have hbytes : bytes.length = image.height.toNat * (image.width.toNat * 8) := by
    rw [length_bytesOfHalfs, List.length_map, hlength]
    ring
  have hexpected : image.width.toNat * image.height.toNat * 4 ≤ u64Max := by
    rw [Nat.mul_right_comm]
    exact rgba.rows_le hlength
  have hpixels : image.width.toNat * image.height.toNat ≤ u64Max := by
    omega
  refine ⟨gpu.submit "gpu-info GpuImage upload" []
    (gpu.writeTexture image.tex bytes layout image.extent state), ?_, ?_⟩
  · rw [writeRgbaF32]
    simp only []
    rw [Build.mul_of_le hpixels, lift_ok, Build.mul_of_le hexpected, lift_ok,
      if_neg (not_not.mpr hlength), bytesPerPixel, Build.mul32_of_lt readable.unpadded_lt, lift_ok]
    rfl
  · have hcovers : layout.Covers (memory.size image.tex) bytes.length := by
      rw [readable.whole]
      exact .of_rows rfl (le_refl _) (le_refl _) readable.height_pos hbytes.ge
    have hstored := lawful.writeTexture_texel image.tex bytes layout state hcovers
    rw [readable.whole] at hstored
    rw [Shows, lawful.submit_nil]
    exact ((hstored.holds rfl).eq_rows hbytes).symm

theorem readRgbaF32_of_shows (lawful : gpu.Lawful memory) (readable : image.Readable memory)
    {floats : List UInt32}
    (hlength : image.width.toNat * 4 * image.height.toNat ≤ u64Max)
    {state : gpu.State} (shows : image.Shows half memory state floats) (answers : MapAnswers) :
    ∃ after, image.readRgbaF32 half build answers (some state) =
      .ok (((answers.map.mapError .ofWait).bind fun () => answers.range.mapError .map).map
        fun () => floats.map half.round, after) := by
  let padded := (image.width.toNat * 8) ⌈/⌉ 256 * 256
  let staging := gpu.createBuffer "GpuImage readback" (padded * image.height.toNat)
    (Usages.copyDst ||| Usages.mapRead) state
  let layout : TexelCopyBufferLayout := ⟨0, padded, image.height.toNat⟩
  let copied := gpu.submit "gpu-info GpuImage readback"
    [⟨image.tex, staging.1, layout, image.extent⟩] staging.2
  have sizes : RowSizes padded image.width.toNat image.height.toNat := {
    stride := le_padded _
    even := by
      rw [Nat.mul_mod]
      simp
    padded_lt := readable.padded_lt
    height_lt := image.height.toNat_lt
    floats_le := hlength }
  have hcovers : layout.Covers (memory.size image.tex)
      (memory.bytes staging.2 staging.1).length := by
    rw [readable.whole, lawful.createBuffer_length]
    exact .of_rows rfl (le_padded _) (le_refl _) readable.height_pos
      (Nat.mul_comm padded _).ge
  have hstored := lawful.submit_copy "gpu-info GpuImage readback" image.tex staging.1 layout
    staging.2 (Nat.mul_mod_left _ _) hcovers
  rw [readable.whole, lawful.createBuffer_texel] at hstored
  have hunpad : unpad half build (memory.bytes copied staging.1) (image.width.toNat * 8) padded
      image.width.toNat image.height.toNat = .ok (floats.map half.round) := by
    rw [unpad_eq sizes readable.width_pos (hstored.holds rfl), shows, halfsOfBytes_bytesOfHalfs,
      List.map_map]
    rfl
  rw [readRgbaF32]
  simp only []
  rw [bytesPerPixel, Build.mul32_of_lt readable.unpadded_lt, lift_ok, copyBytesPerRowAlignment,
    Build.mul32_of_lt readable.padded_lt, lift_ok, Build.mul_of_le sizes.size_le, lift_ok]
  cases hmap : answers.map with
  | error error => exact ⟨_, rfl⟩
  | ok _ =>
      cases hrange : answers.range with
      | error error => exact ⟨_, rfl⟩
      | ok _ =>
          refine ⟨some (gpu.unmap staging.1 (gpu.mapRead staging.1 (.ok ()) copied)), ?_⟩
          have hdata : gpu.mappedRange staging.1 (gpu.mapRead staging.1 (.ok ()) copied) =
              memory.bytes copied staging.1 := lawful.mapped staging.1 copied
          change ((unpad half build (gpu.mappedRange staging.1
            (gpu.mapRead staging.1 (.ok ()) copied)) (image.width.toNat * 8) padded
            image.width.toNat image.height.toNat) >>= fun out => _) = _
          rw [hdata, hunpad]
          rfl

end GpuImage

end Images

/-- Whatever the map answers, nothing panics; where it succeeds, what was written comes back. -/
theorem image_round_trip (half : HalfFloat) (build : Build) {gpu : SharedGpu}
    {memory : DeviceMemory gpu} (lawful : gpu.Lawful memory) (image : GpuImage gpu)
    (readable : image.Readable memory) (rgba : FloatSlice)
    (hlength : rgba.floats.length = image.width.toNat * image.height.toNat * 4)
    (state : gpu.State) (answers : MapAnswers) : ∃ written after,
      image.writeRgbaF32 half build rgba (some state) = .ok (.ok (), some written) ∧
      image.readRgbaF32 half build answers (some written) =
        .ok (((answers.map.mapError .ofWait).bind fun () => answers.range.mapError .map).map
          fun () => rgba.floats.map half.round, after) := by
  obtain ⟨written, hwrite, shows⟩ :=
    GpuImage.writeRgbaF32_shows lawful readable rgba hlength state
  obtain ⟨after, hread⟩ :=
    GpuImage.readRgbaF32_of_shows lawful readable (rgba.rows_le hlength) shows answers
  exact ⟨written, after, hwrite, hread⟩

/-- `half` on three floats: 1.0, 0.1 and 0.0. -/
def tenthHalf : HalfFloat where
  fromF32 v := if v = 0x3f800000 then 0x3c00 else if v = 0x3dcccccd then 0x2e66 else 0
  toF32 h := if h = 0x3c00 then 0x3f800000 else if h = 0x2e66 then 0x3dccc000 else 0

def twoTexels : GpuImage softwareGpu := ⟨⟨0, ⟨1, 2, 1⟩⟩, 1, 2⟩

theorem image_round_trip_two_texels : ∃ written after,
    twoTexels.writeRgbaF32 tenthHalf .debug
        ⟨[0x3f800000, 0x3dcccccd, 0, 0x3f800000, 0, 0, 0x3dcccccd, 0x3dcccccd], by decide⟩
        (some { SoftwareGpu.start with textures := 1 }) = .ok (.ok (), some written) ∧
      twoTexels.readRgbaF32 tenthHalf .debug ⟨.ok (), .ok ()⟩ (some written) =
        .ok (.ok [0x3f800000, 0x3dccc000, 0, 0x3f800000, 0, 0, 0x3dccc000, 0x3dccc000], after) :=
  image_round_trip tenthHalf .debug SoftwareGpu.lawful twoTexels
    ⟨rfl, by decide, by decide, by decide⟩ _ rfl _ ⟨.ok (), .ok ()⟩

/-! From an upload -/

section Uploads
variable {half : HalfFloat} {build : Build} {gpu : SharedGpu} {memory : DeviceMemory gpu}

/-- A call that fails leaves the device alone. -/
theorem GpuImage.writeRgbaF32_error {image : GpuImage gpu} {rgba : FloatSlice}
    {shared after : Option gpu.State} {error : GpuImageError}
    (h : image.writeRgbaF32 half build rgba shared = .ok (.error error, after)) :
    after = shared := by
  cases shared with
  | none =>
      cases h
      rfl
  | some state =>
      rw [GpuImage.writeRgbaF32] at h
      simp only [] at h
      obtain ⟨pixels, h⟩ := of_lift_bind h
      obtain ⟨expected, h⟩ := of_lift_bind h
      by_cases hlength : rgba.floats.length ≠ expected
      · rw [if_pos hlength] at h
        cases h
        rfl
      · rw [if_neg hlength] at h
        obtain ⟨bytesPerRow, h⟩ := of_lift_bind h
        cases h

theorem GpuImage.validateDims_eq_ok {width height : UInt32} :
    GpuImage.validateDims gpu width height = .ok () ↔
      (width ≠ 0 ∧ height ≠ 0) ∧ width.toNat ≤ gpu.maxTextureDimension2d ∧
        height.toNat ≤ gpu.maxTextureDimension2d := by
  rw [GpuImage.validateDims]
  by_cases hzero : width = 0 ∨ height = 0
  · rw [if_pos hzero]
    exact ⟨nofun, fun h => absurd hzero (not_or.mpr h.1)⟩
  · rw [if_neg hzero, ← not_or]
    by_cases hlarge : gpu.maxTextureDimension2d < width.toNat ∨
        gpu.maxTextureDimension2d < height.toNat
    · rw [if_pos hlarge]
      refine ⟨nofun, fun h => ?_⟩
      omega
    · rw [if_neg hlarge]
      rw [not_or, not_lt, not_lt] at hlarge
      exact ⟨fun _ => ⟨hzero, hlarge⟩, fun _ => rfl⟩

/-- An image that the device can hold is uploaded, and what was uploaded is read. -/
theorem GpuImage.uploadRgbaF32_readRgbaF32 (lawful : gpu.Lawful memory) {width height : UInt32}
    (valid : GpuImage.validateDims gpu width height = .ok ())
    (hpadded : (width.toNat * 8) ⌈/⌉ 256 * 256 < 2 ^ 32) (rgba : FloatSlice)
    (hlength : rgba.floats.length = width.toNat * height.toNat * 4) (state : gpu.State)
    (answers : MapAnswers) : ∃ image written after,
      GpuImage.uploadRgbaF32 half build gpu width height rgba (some state) =
        .ok (.ok image, some written) ∧
      image.readRgbaF32 half build answers (some written) =
        .ok (((answers.map.mapError .ofWait).bind fun () => answers.range.mapError .map).map
          fun () => rgba.floats.map half.round, after) := by
  let created := gpu.createTexture (GpuImage.textureDescriptor width height) state
  let image : GpuImage gpu := ⟨created.1, width, height⟩
  obtain ⟨⟨hwidth, hheight⟩, -⟩ := GpuImage.validateDims_eq_ok.mp valid
  have readable : image.Readable memory := {
    whole := lawful.createTexture_size _ state
    width_pos := Nat.pos_of_ne_zero fun h => hwidth (UInt32.toNat_inj.mp h)
    height_pos := Nat.pos_of_ne_zero fun h => hheight (UInt32.toNat_inj.mp h)
    padded_lt := hpadded }
  have hnew : GpuImage.new gpu width height (some state) = (.ok image, some created.2) := by
    rw [GpuImage.new]
    simp only [valid]
    rfl
  obtain ⟨written, hwrite, shows⟩ :=
    GpuImage.writeRgbaF32_shows lawful readable rgba hlength created.2
  obtain ⟨after, hread⟩ :=
    GpuImage.readRgbaF32_of_shows lawful readable (rgba.rows_le hlength) shows answers
  refine ⟨image, written, after, ?_, hread⟩
  rw [GpuImage.uploadRgbaF32, hnew]
  simp only []
  rw [hwrite]
  rfl

end Uploads

end GpuInfo
