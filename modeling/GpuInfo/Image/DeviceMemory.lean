import GpuInfo.Image.GpuImage
import Mathlib.Logic.Function.Basic

/-!
What images rely on wgpu for: where a copy puts each texel. What else a buffer holds, before
its rows and between them, is left open. A device in software satisfies it.
-/

namespace GpuInfo

/-- The bytes hold the texels of a copy, each where the layout puts it. -/
def TexelCopyBufferLayout.Stored (layout : TexelCopyBufferLayout) (bytes : List UInt8)
    (size : Extent3d) (texel : Nat → Nat → Fin 8 → UInt8) : Prop :=
  ∀ x < size.width, ∀ y < size.height, ∀ j : Fin 8,
    bytes[layout.offset + y * layout.bytesPerRow + x * 8 + j]? = some (texel x y j)

/-- So many bytes are enough for the copy. -/
def TexelCopyBufferLayout.Covers (layout : TexelCopyBufferLayout) (size : Extent3d)
    (length : Nat) : Prop :=
  size.width * 8 ≤ layout.bytesPerRow ∧ size.height ≤ layout.rowsPerImage ∧
    layout.offset + (size.height - 1) * layout.bytesPerRow + size.width * 8 ≤ length

/-- A whole stride for every row is more than enough. -/
theorem TexelCopyBufferLayout.Covers.of_rows {layout : TexelCopyBufferLayout} {size : Extent3d}
    {length : Nat} (hoffset : layout.offset = 0) (hrow : size.width * 8 ≤ layout.bytesPerRow)
    (hrows : size.height ≤ layout.rowsPerImage) (hheight : 1 ≤ size.height)
    (hlength : size.height * layout.bytesPerRow ≤ length) : layout.Covers size length := by
  refine ⟨hrow, hrows, ?_⟩
  calc
    layout.offset + (size.height - 1) * layout.bytesPerRow + size.width * 8
      ≤ (size.height - 1) * layout.bytesPerRow + layout.bytesPerRow := by omega
    _ = size.height * layout.bytesPerRow := by
      rw [← Nat.succ_mul, Nat.succ_eq_add_one, Nat.sub_add_cancel hheight]
    _ ≤ length := hlength

/-- What the textures and the buffers of a device hold, as the work handed to its queue so far
leaves them. -/
structure DeviceMemory (gpu : SharedGpu) where
  size : gpu.Texture → Extent3d
  texel : gpu.State → gpu.Texture → Nat → Nat → Fin 8 → UInt8
  bytes : gpu.State → gpu.Buffer → List UInt8

/-- What is relied on of wgpu. A copy of the whole of a texture is valid if its layout covers it,
and from a texture if its rows are aligned. -/
structure SharedGpu.Lawful (gpu : SharedGpu) (memory : DeviceMemory gpu) : Prop where
  createTexture_size : ∀ descriptor state,
    memory.size (gpu.createTexture descriptor state).1 = descriptor.size
  writeTexture_texel : ∀ texture bytes (layout : TexelCopyBufferLayout) state,
    layout.Covers (memory.size texture) bytes.length →
      layout.Stored bytes (memory.size texture)
        (memory.texel (gpu.writeTexture texture bytes layout (memory.size texture) state) texture)
  submit_nil : ∀ label state, memory.texel (gpu.submit label [] state) = memory.texel state
  createBuffer_length : ∀ label size usage state,
    (memory.bytes (gpu.createBuffer label size usage state).2
      (gpu.createBuffer label size usage state).1).length = size
  createBuffer_texel : ∀ label size usage state,
    memory.texel (gpu.createBuffer label size usage state).2 = memory.texel state
  submit_copy : ∀ label texture buffer (layout : TexelCopyBufferLayout) state,
    layout.bytesPerRow % copyBytesPerRowAlignment = 0 →
      layout.Covers (memory.size texture) (memory.bytes state buffer).length →
        layout.Stored
          (memory.bytes
            (gpu.submit label [⟨texture, buffer, layout, memory.size texture⟩] state) buffer)
          (memory.size texture) (memory.texel state texture)
  mapped : ∀ buffer state,
    gpu.mappedRange buffer (gpu.mapRead buffer (.ok ()) state) = memory.bytes state buffer

/-! A device in software -/

namespace SoftwareGpu

structure Texture where
  id : Nat
  size : Extent3d

structure State where
  textures : Nat
  texel : Nat → Nat → Nat → Fin 8 → UInt8
  buffers : Nat
  bytes : Nat → List UInt8

/-- What a copy makes of byte `k`. -/
def copiedByte (layout : TexelCopyBufferLayout) (size : Extent3d)
    (texel : Nat → Nat → Fin 8 → UInt8) (k : Nat) (old : UInt8) : UInt8 :=
  let y := (k - layout.offset) / layout.bytesPerRow
  let i := (k - layout.offset) % layout.bytesPerRow
  if layout.offset ≤ k ∧ y < size.height ∧ i < size.width * 8 then
    texel (i / 8) y ⟨i % 8, Nat.mod_lt i (by decide)⟩
  else old

def copy (state : State) (command : TextureToBuffer Texture Nat) : State :=
  { state with
    bytes := Function.update state.bytes command.buffer
      ((state.bytes command.buffer).mapIdx
        (copiedByte command.layout command.size (state.texel command.texture.id))) }

def written (bytes : List UInt8) (layout : TexelCopyBufferLayout) (size : Extent3d)
    (old : Nat → Nat → Fin 8 → UInt8) (x y : Nat) (j : Fin 8) : UInt8 :=
  if x < size.width ∧ y < size.height then
    bytes.getD (layout.offset + y * layout.bytesPerRow + x * 8 + j) 0
  else old x y j

end SoftwareGpu

open SoftwareGpu in
@[reducible] def softwareGpu : SharedGpu where
  State := State
  Texture := Texture
  Buffer := Nat
  maxTextureDimension2d := 8192
  createTexture descriptor state :=
    (⟨state.textures, descriptor.size⟩, { state with textures := state.textures + 1 })
  createBuffer _ size _ state :=
    (state.buffers, { state with
      buffers := state.buffers + 1
      bytes := Function.update state.bytes state.buffers (List.replicate size 0) })
  writeTexture texture bytes layout size state :=
    { state with
      texel := Function.update state.texel texture.id
        (written bytes layout size (state.texel texture.id)) }
  submit _ commands state := commands.foldl copy state
  mapRead _ _ state := state
  mappedRange buffer state := state.bytes buffer
  unmap _ state := state

namespace SoftwareGpu
@[reducible] def memory : DeviceMemory softwareGpu where
  size texture := texture.size
  texel state texture := state.texel texture.id
  bytes state buffer := state.bytes buffer

/-- No bytes, no texture and no buffer yet. -/
def start : State := ⟨0, fun _ _ _ _ => 0, 0, fun _ => []⟩

section Bytes
variable {layout : TexelCopyBufferLayout} {size : Extent3d} {length : Nat}
  {texel : Nat → Nat → Fin 8 → UInt8}

/-- A byte of a texel is among the bytes that cover the copy. -/
theorem index_lt (h : layout.Covers size length) {x y : Nat} (hx : x < size.width)
    (hy : y < size.height) (j : Fin 8) :
    layout.offset + y * layout.bytesPerRow + x * 8 + j < length := by
  obtain ⟨-, -, hlength⟩ := h
  have hrow : y * layout.bytesPerRow ≤ (size.height - 1) * layout.bytesPerRow :=
    Nat.mul_le_mul_right _ (Nat.le_sub_one_of_lt hy)
  have hbyte := j.isLt
  omega

theorem copiedByte_of_texel (h : layout.Covers size length) {x y : Nat} (hx : x < size.width)
    (hy : y < size.height) (j : Fin 8) (old : UInt8) :
    copiedByte layout size texel (layout.offset + y * layout.bytesPerRow + x * 8 + j) old =
      texel x y j := by
  have hbyte := j.isLt
  have hinside : x * 8 + j < layout.bytesPerRow := by
    have hrow := h.1
    omega
  have hindex : layout.offset + y * layout.bytesPerRow + x * 8 + j - layout.offset =
      layout.bytesPerRow * y + (x * 8 + j) := by
    rw [Nat.mul_comm layout.bytesPerRow]
    omega
  have hrow : (layout.bytesPerRow * y + (x * 8 + j)) / layout.bytesPerRow = y := by
    rw [Nat.mul_add_div (by omega), Nat.div_eq_of_lt hinside, Nat.add_zero]
  have hcell : (layout.bytesPerRow * y + (x * 8 + j)) % layout.bytesPerRow = x * 8 + j := by
    rw [Nat.mul_add_mod, Nat.mod_eq_of_lt hinside]
  have hx' : (x * 8 + j) / 8 = x := by omega
  have hj : (x * 8 + j) % 8 = j := by omega
  simp only [copiedByte, hindex, hrow, hcell, hx', hj]
  rw [if_pos ⟨by omega, hy, by omega⟩]

end Bytes

theorem texel_writeTexture (texture : Texture) (bytes : List UInt8)
    (layout : TexelCopyBufferLayout) (size : Extent3d) (state : State) :
    memory.texel
        (softwareGpu.writeTexture texture bytes layout size state) texture =
      written bytes layout size (state.texel texture.id) :=
  Function.update_self ..

theorem bytes_createBuffer (label : String) (size : Nat) (usage : Usages) (state : State) :
    memory.bytes
        (softwareGpu.createBuffer label size usage state).2
        (softwareGpu.createBuffer label size usage state).1 =
      List.replicate size 0 :=
  Function.update_self ..

theorem bytes_submit (label : String) (command : TextureToBuffer Texture Nat) (state : State) :
    memory.bytes
        (softwareGpu.submit label [command] state) command.buffer =
      (state.bytes command.buffer).mapIdx
        (copiedByte command.layout command.size (state.texel command.texture.id)) :=
  Function.update_self ..

theorem lawful : softwareGpu.Lawful memory where
  createTexture_size descriptor state := rfl
  writeTexture_texel texture bytes layout state h := by
    intro x hx y hy j
    rw [texel_writeTexture, written, if_pos ⟨hx, hy⟩, List.getD_eq_getElem?_getD,
      List.getElem?_eq_getElem (index_lt h hx hy j), Option.getD_some]
  submit_nil label state := rfl
  createBuffer_length label size usage state := by
    rw [bytes_createBuffer, List.length_replicate]
  createBuffer_texel label size usage state := rfl
  submit_copy label texture buffer layout state haligned h := by
    intro x hx y hy j
    have hindex := index_lt h hx hy j
    rw [bytes_submit label ⟨texture, buffer, layout, texture.size⟩, List.getElem?_mapIdx,
      List.getElem?_eq_getElem hindex]
    exact congrArg some (copiedByte_of_texel h hx hy j _)
  mapped buffer state := rfl

end SoftwareGpu

end GpuInfo
