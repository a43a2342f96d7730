import GpuInfo.LittleEndian
import GpuInfo.Stats.WindowsCounters
import GpuInfo.Vram.LocalHeap

/-!
Whose budget Windows answers with (`src/vram.rs`): that of the card which DXGI lists under the
adapter's own LUID. DX12 gives the LUID in two words, and Vulkan in the eight bytes as they lie in
memory; both are one number.
-/

namespace GpuInfo
open LittleEndian

/-- The number of a LUID, from its two words. -/
def Luid.number (luid : Luid) : Nat := luid.high.toUInt32.toNat <<< 32 ||| luid.low.toNat

inductive PhysId where
  | luid (number : Nat)
  | uuid (bytes : List UInt8)
  | unknown
  deriving DecidableEq, Repr

/-- `vk::PhysicalDeviceIDProperties`, and the version of the device. -/
structure VulkanIdentity where
  apiVersion : Nat
  luidValid : Bool
  luid : { bytes : List UInt8 // bytes.length = 8 }
  uuid : List UInt8

/-- What the backend of an adapter answers of it: DX12 may fail to describe it. -/
inductive BackendAdapter where
  | dx12 (luid : Option Luid)
  | vulkan (identity : VulkanIdentity)
  | other

def dx12Luid : BackendAdapter → Option Nat
  | .dx12 luid => luid.map Luid.number
  | .vulkan _ | .other => none

def vulkanId : BackendAdapter → Option PhysId
  | .vulkan identity =>
      if apiVersionMajor identity.apiVersion = 1 ∧ apiVersionMinor identity.apiVersion < 1 then none
      else if identity.luidValid then some (.luid (fromBytes identity.luid))
      else some (.uuid identity.uuid)
  | .dx12 _ | .other => none

def physId (adapter : BackendAdapter) : PhysId :=
  match dx12Luid adapter with
  | some luid => .luid luid
  | none => (vulkanId adapter).getD .unknown

def luidOf (adapter : BackendAdapter) : Option Nat :=
  match physId adapter with
  | .luid luid => some luid
  | .uuid _ | .unknown => none

/-- What DXGI answers of an adapter that it enumerates: its LUID, and of its `IDXGIAdapter3`, if it
is one, the local segment. -/
structure DxgiAdapter where
  luid : Option Luid
  adapter3 : Option (Option VramInfo)

/-- `match_dxgi_adapter`, of the adapters as they are enumerated: none where there is no factory. -/
def matchDxgiAdapter : List DxgiAdapter → Nat → Option (Option VramInfo)
  | [], _ => none
  | base :: rest, luid =>
      match base.luid with
      | none => matchDxgiAdapter rest luid
      | some found =>
          if found.number = luid then base.adapter3 else matchDxgiAdapter rest luid

/-- `vram_budget_adapter` on Windows -/
def dxgiBudgetAdapter (enumerated : List DxgiAdapter) (adapter : BackendAdapter) : Option Nat :=
  (luidOf adapter).bind fun luid =>
    (matchDxgiAdapter enumerated luid).bind fun segment => segment.map VramInfo.budget

/-! The LUID -/

/-- A LUID as it lies in memory, which is how Vulkan gives it. -/
def Luid.bytes (luid : Luid) : List UInt8 :=
  toBytes 4 luid.low.toNat ++ toBytes 4 luid.high.toUInt32.toNat

theorem Luid.length_bytes (luid : Luid) : luid.bytes.length = 8 := by
  rw [Luid.bytes, List.length_append, length_toBytes, length_toBytes]

theorem Luid.number_eq (luid : Luid) :
    luid.number = luid.low.toNat + 2 ^ 32 * luid.high.toUInt32.toNat := by
  rw [Luid.number, ← Nat.shiftLeft_add_eq_or_of_lt luid.low.toNat_lt, Nat.shiftLeft_eq,
    Nat.mul_comm, Nat.add_comm]

theorem Luid.fromBytes_bytes (luid : Luid) : fromBytes luid.bytes = luid.number := by
  rw [Luid.bytes, fromBytes_append, length_toBytes, fromBytes_toBytes luid.low.toNat_lt,
    fromBytes_toBytes luid.high.toUInt32.toNat_lt, Luid.number_eq]
  rfl

theorem Luid.number_inj {luid other : Luid} (h : luid.number = other.number) : luid = other := by
  obtain ⟨high, low⟩ := luid
  obtain ⟨high', low'⟩ := other
  rw [Luid.number_eq, Luid.number_eq] at h
  have hlow := low.toNat_lt
  have hlow' := low'.toNat_lt
  have sameLow : low = low' := UInt32.toNat_inj.mp (by simp only at h; omega)
  have sameHigh : high.toUInt32 = high'.toUInt32 := UInt32.toNat_inj.mp (by simp only at h; omega)
  rw [sameLow, ← Int32.toInt32_toUInt32 high, sameHigh, Int32.toInt32_toUInt32]

/-- Any eight bytes are those of a LUID. -/
theorem exists_luid {bytes : List UInt8} (h : bytes.length = 8) :
    ∃ luid : Luid, bytes = luid.bytes := by
  have bound := fromBytes_lt bytes
  rw [h] at bound
  refine ⟨⟨(UInt32.ofNat (fromBytes bytes / 2 ^ 32)).toInt32, UInt32.ofNat (fromBytes bytes)⟩, ?_⟩
  apply fromBytes_inj
  · rw [h, Luid.length_bytes]
  · rw [Luid.fromBytes_bytes, Luid.number_eq, UInt32.toUInt32_toInt32, UInt32.toNat_ofNat',
      UInt32.toNat_ofNat']
    omega

/-- Whose LUID a backend gives; Vulkan gives one from 1.1 on, if it says that it is valid. -/
inductive BackendAdapter.Names : BackendAdapter → Luid → Prop
  | dx12 {luid : Luid} : Names (.dx12 (some luid)) luid
  | vulkan {identity : VulkanIdentity} {luid : Luid} :
      ¬ (apiVersionMajor identity.apiVersion = 1 ∧ apiVersionMinor identity.apiVersion < 1) →
      identity.luidValid = true → identity.luid.val = luid.bytes → Names (.vulkan identity) luid

theorem luidOf_iff {adapter : BackendAdapter} {number : Nat} :
    luidOf adapter = some number ↔ ∃ luid, adapter.Names luid ∧ luid.number = number := by
  constructor
  · intro h
    cases adapter with
    | dx12 luid =>
        cases luid with
        | none => cases h
        | some luid => exact ⟨luid, .dx12, Option.some.inj h⟩
    | vulkan identity =>
        obtain ⟨luid, hluid⟩ := exists_luid identity.luid.property
        simp only [luidOf, physId, dx12Luid, vulkanId] at h
        by_cases hold : apiVersionMajor identity.apiVersion = 1 ∧
            apiVersionMinor identity.apiVersion < 1
        · simp [hold] at h
        · rw [if_neg hold] at h
          cases hvalid : identity.luidValid with
          | false => simp [hvalid] at h
          | true =>
              refine ⟨luid, .vulkan hold hvalid hluid, ?_⟩
              rw [← Luid.fromBytes_bytes, ← hluid]
              simpa [hvalid] using h
    | other => cases h
  · rintro ⟨luid, names, rfl⟩
    cases names with
    | dx12 => rfl
    | vulkan hold hvalid hluid =>
        simp only [luidOf, physId, dx12Luid, vulkanId]
        rw [if_neg hold, if_pos hvalid, hluid, Luid.fromBytes_bytes]
        rfl

/-! The budget -/

theorem matchDxgiAdapter_iff {enumerated : List DxgiAdapter} {luid : Luid}
    {segment : Option VramInfo} :
    matchDxgiAdapter enumerated luid.number = some segment ↔
      ∃ before card after, enumerated = before ++ card :: after ∧
        (∀ other ∈ before, other.luid ≠ some luid) ∧ card.luid = some luid ∧
          card.adapter3 = some segment := by
  induction enumerated with
  | nil => simp [matchDxgiAdapter]
  | cons base rest ih =>
      by_cases hluid : base.luid = some luid
      · rw [matchDxgiAdapter, hluid]
        simp only [if_true]
        constructor
        · intro h
          exact ⟨[], base, rest, rfl, by simp, hluid, h⟩
        · rintro ⟨before, card, after, hlist, hbefore, -, hcard⟩
          cases before with
          | nil => rw [(List.cons.inj hlist).1, hcard]
          | cons first before =>
              rw [← (List.cons.inj hlist).1] at hbefore
              exact absurd hluid (hbefore base List.mem_cons_self)
      · have skip : matchDxgiAdapter (base :: rest) luid.number =
            matchDxgiAdapter rest luid.number := by
          rw [matchDxgiAdapter]
          split
          · rfl
          · next found hfound =>
              exact if_neg fun hnumber => hluid (by rw [hfound, Luid.number_inj hnumber])
        rw [skip, ih]
        constructor
        · rintro ⟨before, card, after, rfl, hbefore, hcard⟩
          exact ⟨base :: before, card, after, rfl,
            List.forall_mem_cons.mpr ⟨hluid, hbefore⟩, hcard⟩
        · rintro ⟨before, card, after, hlist, hbefore, hcard, hsegment⟩
          cases before with
          | nil =>
              rw [(List.cons.inj hlist).1] at hluid
              exact absurd hcard hluid
          | cons first before =>
              obtain ⟨rfl, rfl⟩ := List.cons.inj hlist
              exact ⟨before, card, after, rfl, (List.forall_mem_cons.mp hbefore).2, hcard, hsegment⟩

/-- Windows answers the budget of the adapter's own card: the first that DXGI lists under the LUID
its backend gives, be it in words or in bytes; there is none where that card reports none. -/
theorem dxgi_budget_iff (enumerated : List DxgiAdapter) (adapter : BackendAdapter) (budget : Nat) :
    dxgiBudgetAdapter enumerated adapter = some budget ↔
      ∃ luid, adapter.Names luid ∧ ∃ before card after, enumerated = before ++ card :: after ∧
        (∀ other ∈ before, other.luid ≠ some luid) ∧ card.luid = some luid ∧
          ∃ used, card.adapter3 = some (some ⟨used, budget⟩) := by
  rw [dxgiBudgetAdapter, Option.bind_eq_some_iff]
  constructor
  · rintro ⟨number, hnumber, hbudget⟩
    obtain ⟨luid, names, rfl⟩ := luidOf_iff.mp hnumber
    obtain ⟨segment, hsegment, hinfo⟩ := Option.bind_eq_some_iff.mp hbudget
    obtain ⟨info, rfl, rfl⟩ := Option.map_eq_some_iff.mp hinfo
    obtain ⟨before, card, after, hlist, hbefore, hcard, hadapter⟩ :=
      matchDxgiAdapter_iff.mp hsegment
    exact ⟨luid, names, before, card, after, hlist, hbefore, hcard, info.used, hadapter⟩
  · rintro ⟨luid, names, before, card, after, hlist, hbefore, hcard, used, hadapter⟩
    refine ⟨luid.number, luidOf_iff.mpr ⟨luid, names, rfl⟩, ?_⟩
    rw [matchDxgiAdapter_iff.mpr ⟨before, card, after, hlist, hbefore, hcard, hadapter⟩]
    rfl

end GpuInfo
