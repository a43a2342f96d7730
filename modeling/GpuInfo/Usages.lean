import Mathlib.Data.BitVec

/-!
The usage flags of GPU buffers and textures that the code names, with the bits wgpu gives
them.
-/

namespace GpuInfo

/-- A set of usage flags. -/
abbrev Usages := BitVec 32

namespace Usages

def mapRead : Usages := 1
def mapWrite : Usages := 2
def copySrc : Usages := 4
def copyDst : Usages := 8

def contains (usage flags : Usages) : Bool := usage &&& flags == flags

/-- Some flag is not among those wgpu knows. -/
def unknown (usage known : Usages) : Bool := usage &&& ~~~known != 0

end Usages

def copyBufferAlignment : Nat := 4

end GpuInfo
