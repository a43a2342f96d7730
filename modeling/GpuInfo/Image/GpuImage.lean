import GpuInfo.Resources.Spec
import GpuInfo.StridedRows
import Mathlib.Algebra.Order.Floor.Div

/-!
The media image and its way between the host and the shared device (`src/image.rs`). The
device comes in as `SharedGpu`, and with every call the state it is in, if there is a device
at all; the conversions between the two kinds of floats come in as `HalfFloat`. Floats are
known by their bits. A `usize` has 64 bits and the host is little-endian.
-/

namespace GpuInfo
open MachineInteger StridedRows

inductive GpuImageError
  | noDevice
  | zeroSize
  | tooLarge (width height max : Nat)
  | pixelCount (expected got : Nat)
  | map (error : String)
  | poll (error : String)
  deriving DecidableEq, Repr

namespace GpuImageError

def toString : GpuImageError → String
  | .noDevice => "no shared GPU device available (shared_device() returned None)"
  | .zeroSize => "zero-size image is invalid"
  | .tooLarge width height max =>
      s!"image {width}x{height} exceeds device max_texture_dimension_2d {max}"
  | .pixelCount expected got =>
      s!"rgba slice length {got} != expected width*height*4 = {expected}"
  | .map error => "buffer map failed: " ++ error
  | .poll error => "device poll failed: " ++ error

/-- The error of `map_read`, as a readback reports it. -/
def ofWait : WaitError → GpuImageError
  | .poll error => .poll error
  | error => .map error.toString

end GpuImageError

/-- `half::f16` -/
structure HalfFloat where
  fromF32 : UInt32 → UInt16
  toF32 : UInt16 → UInt32

/-- A float, as half precision keeps it. -/
def HalfFloat.round (half : HalfFloat) (v : UInt32) : UInt32 := half.toF32 (half.fromF32 v)

/-- A `&[f32]`: a slice spans at most `isize::MAX` bytes. -/
structure FloatSlice where
  floats : List UInt32
  bounded : floats.length * 4 ≤ 2 ^ 63 - 1

inductive Panic
  | arithmetic (fault : Fault)
  | sliceRange
  | castSize
  | castAlignment
  deriving DecidableEq, Repr

instance : MonadLift (Except Fault) (Except Panic) := ⟨Except.mapError Panic.arithmetic⟩

theorem lift_ok {α β : Type} (a : α) (f : α → Except Panic β) :
    ((liftM (Except.ok a : Except Fault α) : Except Panic α) >>= f) = f a := rfl

theorem of_lift_bind {α β : Type} {x : Except Fault α} {f : α → Except Panic β} {b : β}
    (h : ((liftM x : Except Panic α) >>= f) = .ok b) : ∃ a, f a = .ok b := by
  cases x with
  | error fault => cases h
  | ok a => exact ⟨a, h⟩

/-! Slices -/

/-- `&data[start..stop]` -/
def slice {α : Type} (data : List α) (start stop : Nat) : Except Panic (List α) :=
  if start ≤ stop ∧ stop ≤ data.length then .ok ((data.drop start).take (stop - start))
  else .error .sliceRange

def halfBytes (h : UInt16) : List UInt8 :=
  [UInt8.ofNat (h.toNat % 256), UInt8.ofNat (h.toNat / 256)]

/-- `bytemuck::cast_slice` to bytes. -/
def bytesOfHalfs (halfs : List UInt16) : List UInt8 := halfs.flatMap halfBytes

def halfsOfBytes : List UInt8 → List UInt16
  | low :: high :: bytes => UInt16.ofNat (low.toNat + 256 * high.toNat) :: halfsOfBytes bytes
  | _ => []

/-- `bytemuck::cast_slice` of the bytes at an offset of a mapped range, which is aligned. -/
def castSlice (offset : Nat) (bytes : List UInt8) : Except Panic (List UInt16) :=
  if offset % 2 ≠ 0 then .error .castAlignment
  else if bytes.length % 2 ≠ 0 then .error .castSize
  else .ok (halfsOfBytes bytes)

theorem slice_of_le {α : Type} {data : List α} {start stop : Nat} (h : start ≤ stop)
    (hstop : stop ≤ data.length) :
    slice data start stop = .ok ((data.drop start).take (stop - start)) :=
  if_pos ⟨h, hstop⟩

@[simp] theorem length_bytesOfHalfs (halfs : List UInt16) :
    (bytesOfHalfs halfs).length = halfs.length * 2 := by
  induction halfs with
  | nil => rfl
  | cons h halfs ih =>
      rw [bytesOfHalfs, List.flatMap_cons, List.length_append, ← bytesOfHalfs, ih,
        List.length_cons, Nat.succ_mul, Nat.add_comm]
      rfl

theorem half_of_halfBytes (h : UInt16) :
    UInt16.ofNat ((UInt8.ofNat (h.toNat % 256)).toNat +
      256 * (UInt8.ofNat (h.toNat / 256)).toNat) = h := by
  have hsize := h.toNat_lt
  rw [UInt8.toNat_ofNat_of_lt' (Nat.mod_lt _ (by decide)),
    UInt8.toNat_ofNat_of_lt' (Nat.div_lt_of_lt_mul hsize), Nat.mod_add_div, UInt16.ofNat_toNat]

@[simp] theorem halfsOfBytes_bytesOfHalfs (halfs : List UInt16) :
    halfsOfBytes (bytesOfHalfs halfs) = halfs := by
  induction halfs with
  | nil => rfl
  | cons h halfs ih =>
      show _ :: halfsOfBytes (bytesOfHalfs halfs) = h :: halfs
      rw [ih, half_of_halfBytes]

theorem length_halfsOfBytes (bytes : List UInt8) :
    (halfsOfBytes bytes).length = bytes.length / 2 := by
  induction bytes using halfsOfBytes.induct with
  | case1 low high bytes ih =>
      rw [halfsOfBytes, List.length_cons, ih, List.length_cons, List.length_cons]
      omega
  | case2 bytes hshort =>
      cases bytes with
      | nil => rfl
      | cons low bytes =>
          cases bytes with
          | nil => simp [halfsOfBytes]
          | cons high bytes => exact absurd rfl (hshort low high bytes)

theorem halfsOfBytes_append {before : List UInt8} (h : before.length % 2 = 0)
    (after : List UInt8) :
    halfsOfBytes (before ++ after) = halfsOfBytes before ++ halfsOfBytes after := by
  induction before using halfsOfBytes.induct with
  | case1 low high bytes ih =>
      rw [List.length_cons, List.length_cons] at h
      have heven : bytes.length % 2 = 0 := by omega
      rw [List.cons_append, List.cons_append, halfsOfBytes, halfsOfBytes, ih heven,
        List.cons_append]
  | case2 bytes hshort =>
      cases bytes with
      | nil => rfl
      | cons low bytes =>
          cases bytes with
          | nil => simp at h
          | cons high bytes => exact absurd rfl (hshort low high bytes)

theorem castSlice_of_even {offset : Nat} {bytes : List UInt8} (hoffset : offset % 2 = 0)
    (hlength : bytes.length % 2 = 0) : castSlice offset bytes = .ok (halfsOfBytes bytes) := by
  rw [castSlice, if_neg (not_not.mpr hoffset), if_neg (not_not.mpr hlength)]

/-- `for (d, h) in dst.iter_mut().zip(news)` -/
def assignZip (dst news : List UInt32) : List UInt32 :=
  news.take dst.length ++ dst.drop news.length

theorem assignZip_of_length {dst news : List UInt32} (h : news.length = dst.length) :
    assignZip dst news = news := by
  rw [assignZip, ← h, List.take_length, h, List.drop_length, List.append_nil]

/-! The shared device -/

/-- The one format of an image's texture. -/
inductive ImageFormat
  | rgba16Float
  deriving DecidableEq, Repr

structure TextureDescriptor where
  label : String
  size : Extent3d
  mipLevelCount : Nat
  sampleCount : Nat
  dimension : TextureDimension
  format : ImageFormat
  usage : Usages

structure TexelCopyBufferLayout where
  offset : Nat
  bytesPerRow : Nat
  rowsPerImage : Nat

/-- A command buffer with one `copy_texture_to_buffer`, from the texture's first texel on. -/
structure TextureToBuffer (Texture Buffer : Type) where
  texture : Texture
  buffer : Buffer
  layout : TexelCopyBufferLayout
  size : Extent3d

/-- What images use of wgpu and of the queue's submissions. `State` is all that the device
holds. -/
structure SharedGpu where
  State : Type
  Texture : Type
  Buffer : Type
  maxTextureDimension2d : Nat
  createTexture : TextureDescriptor → State → Texture × State
  /-- By label, size and usage; no buffer is mapped at creation. -/
  createBuffer : String → Nat → Usages → State → Buffer × State
  writeTexture : Texture → List UInt8 → TexelCopyBufferLayout → Extent3d → State → State
  submit : String → List (TextureToBuffer Texture Buffer) → State → State
  /-- `map_read`, which has waited and answers this. -/
  mapRead : Buffer → Outcome → State → State
  mappedRange : Buffer → State → List UInt8
  unmap : Buffer → State → State

/-- What a readback is told: how its map ended, and whether the mapped range can be had. -/
structure MapAnswers where
  map : Outcome
  range : Except String Unit

/-! Images -/

namespace TextureUsages

def copySrc : Usages := 1
def copyDst : Usages := 2
def textureBinding : Usages := 4
def storageBinding : Usages := 8
def renderAttachment : Usages := 16

end TextureUsages

open TextureUsages in
/-- The usage of every image. -/
def imageUsage : Usages :=
  textureBinding ||| storageBinding ||| copySrc ||| copyDst ||| renderAttachment

def bytesPerPixel : Nat := 8
def copyBytesPerRowAlignment : Nat := 256

structure GpuImage (gpu : SharedGpu) where
  tex : gpu.Texture
  width : UInt32
  height : UInt32

variable {gpu : SharedGpu}

/-- A call answers or fails, and leaves the device in a state, if there is one. -/
abbrev Answer (gpu : SharedGpu) (α : Type) := Except GpuImageError α × Option gpu.State

namespace GpuImage

def validateDims (gpu : SharedGpu) (width height : UInt32) : Except GpuImageError Unit :=
  if width = 0 ∨ height = 0 then .error .zeroSize
  else if gpu.maxTextureDimension2d < width.toNat ∨ gpu.maxTextureDimension2d < height.toNat then
    .error (.tooLarge width.toNat height.toNat gpu.maxTextureDimension2d)
  else .ok ()

def textureDescriptor (width height : UInt32) : TextureDescriptor where
  label := "GpuImage"
  size := ⟨width.toNat, height.toNat, 1⟩
  mipLevelCount := 1
  sampleCount := 1
  dimension := .d2
  format := .rgba16Float
  usage := imageUsage

def new (gpu : SharedGpu) (width height : UInt32) (shared : Option gpu.State) :
    Answer gpu (GpuImage gpu) :=
  match shared with
  | none => (.error .noDevice, none)
  | some state =>
      match validateDims gpu width height with
      | .error error => (.error error, some state)
      | .ok () =>
          let (tex, state) := gpu.createTexture (textureDescriptor width height) state
          (.ok ⟨tex, width, height⟩, some state)

def adopt (tex : gpu.Texture) (width height : UInt32) : GpuImage gpu := ⟨tex, width, height⟩

variable (half : HalfFloat) (build : Build) (image : GpuImage gpu)

/-- The whole image, as one copy. -/
def extent : Extent3d := ⟨image.width.toNat, image.height.toNat, 1⟩

def writeRgbaF32 (rgba : FloatSlice) (shared : Option gpu.State) :
    Except Panic (Answer gpu Unit) :=
  match shared with
  | none => pure (.error .noDevice, none)
  | some state => do
      let pixels ← build.mul image.width.toNat image.height.toNat
      let expected ← build.mul pixels 4
      if rgba.floats.length ≠ expected then
        pure (.error (.pixelCount expected rgba.floats.length), some state)
      else
        let bytes := bytesOfHalfs (rgba.floats.map half.fromF32)
        let bytesPerRow ← build.mul32 image.width.toNat bytesPerPixel
        let state := gpu.writeTexture image.tex bytes ⟨0, bytesPerRow, image.height.toNat⟩
          image.extent state
        pure (.ok (), some (gpu.submit "gpu-info GpuImage upload" [] state))

def uploadRgbaF32 (gpu : SharedGpu) (width height : UInt32) (rgba : FloatSlice)
    (shared : Option gpu.State) : Except Panic (Answer gpu (GpuImage gpu)) :=
  match new gpu width height shared with
  | (.error error, shared) => pure (.error error, shared)
  | (.ok image, shared) => do
      let (written, shared) ← image.writeRgbaF32 half build rgba shared
      pure (written.map fun () => image, shared)

/-- One turn of the loop that takes the rows out of a mapped buffer. -/
def unpadRow (data : List UInt8) (unpadded padded rowFloats : Nat) (out : List UInt32) (y : Nat) :
    Except Panic (List UInt32) := do
  let rowStart ← build.mul y padded
  let rowStop ← build.add rowStart unpadded
  let rowBytes ← slice data rowStart rowStop
  let rowHalfs ← castSlice rowStart rowBytes
  let start ← build.mul y rowFloats
  let next ← build.add y 1
  let stop ← build.mul next rowFloats
  let dst ← slice out start stop
  pure (splice out start (assignZip dst (rowHalfs.map half.toF32)))

def unpad (data : List UInt8) (unpadded padded width height : Nat) :
    Except Panic (List UInt32) := do
  let rowFloats ← build.mul width 4
  let length ← build.mul rowFloats height
  (List.range height).foldlM (unpadRow half build data unpadded padded rowFloats)
    (List.replicate length 0)

def readRgbaF32 (answers : MapAnswers) (shared : Option gpu.State) :
    Except Panic (Answer gpu (List UInt32)) :=
  match shared with
  | none => pure (.error .noDevice, none)
  | some state => do
      let unpadded ← build.mul32 image.width.toNat bytesPerPixel
      let padded ← build.mul32 (unpadded ⌈/⌉ copyBytesPerRowAlignment) copyBytesPerRowAlignment
      let size ← build.mul padded image.height.toNat
      let (buffer, state) :=
        gpu.createBuffer "GpuImage readback" size (Usages.copyDst ||| Usages.mapRead) state
      let copy := ⟨image.tex, buffer, ⟨0, padded, image.height.toNat⟩, image.extent⟩
      let state := gpu.submit "gpu-info GpuImage readback" [copy] state
      let state := gpu.mapRead buffer answers.map state
      match answers.map, answers.range with
      | .error error, _ => pure (.error (.ofWait error), some state)
      | .ok (), .error error => pure (.error (.map error), some state)
      | .ok (), .ok () => do
          let out ← unpad half build (gpu.mappedRange buffer state) unpadded padded
            image.width.toNat image.height.toNat
          pure (.ok out, some (gpu.unmap buffer state))

end GpuImage

end GpuInfo
