import GpuInfo.Budget.Admission

/-!
Accounting of the memory budget over every interleaving of its holders. The
reserved and allocated counters follow what live reservations and charges hold,
so no subtraction underflows; their sum never leaves 64 bits and never passes
the largest limit configured so far; the peak is the largest total visited.
-/

namespace GpuInfo
open MachineInteger Interleaving
variable {R Key : Type} [Pooled R Key]

namespace MemoryUsage

theorem admission_ok {usage : MemoryUsage} {bytes used total : Nat}
    (h : usage.admission bytes used total = .ok ()) :
    bytes = 0 ∨ ∃ limit, usage.limit = some limit ∧ total ≤ limit := by
  unfold admission at h
  split at h
  · exact .inl ‹_›
  split at h
  · cases h
  · rename_i limit hlimit
    split at h
    · cases h
    · exact .inr ⟨limit, hlimit, by omega⟩

/-- A refused reservation leaves the usage as it was; an accepted one grew it
within 64 bits and, if it was positive, within the limit. -/
theorem reserve_cases {usage usage' : MemoryUsage} {bytes : Nat}
    {answer : Except AdmissionError Nat} (h : usage.reserve bytes = .ok (usage', answer)) :
    (∃ error, answer = .error error ∧ usage' = usage) ∨
    (answer = .ok bytes ∧ usage.total + bytes ≤ u64Max ∧
      (bytes = 0 ∨ ∃ limit, usage.limit = some limit ∧ usage.total + bytes ≤ limit) ∧
      usage' = { usage with
        reserved := usage.reserved + bytes
        peak := max usage.peak (usage.total + bytes) }) := by
  cases hu : usage.used with
  | error fault => simp [reserve, hu] at h
  | ok used =>
      obtain ⟨_, rfl⟩ := add64_eq_ok.mp hu
      cases hs : checkedAdd (usage.reserved + usage.allocated) bytes with
      | none =>
          simp only [reserve, hu, ok_bind, hs] at h
          cases h
          exact .inl ⟨_, rfl, rfl⟩
      | some total =>
          obtain ⟨hle, rfl⟩ := checkedAdd_eq_some.mp hs
          cases ha : usage.admission bytes (usage.reserved + usage.allocated)
              (usage.reserved + usage.allocated + bytes) with
          | error error =>
              simp only [reserve, hu, ok_bind, hs, ha] at h
              cases h
              exact .inl ⟨_, rfl, rfl⟩
          | ok _ =>
              have hreserved : usage.reserved + bytes ≤ u64Max := by omega
              simp only [reserve, hu, ok_bind, hs, ha, add64_of_le hreserved] at h
              cases h
              exact .inr ⟨rfl, hle, admission_ok ha, rfl⟩

theorem reserve_total {usage : MemoryUsage} (h : usage.total ≤ u64Max) (bytes : Nat) :
    ∃ result, usage.reserve bytes = .ok result := by
  have hu : usage.used = .ok usage.total := add64_of_le h
  simp only [reserve, hu, ok_bind]
  cases hs : checkedAdd usage.total bytes with
  | none => exact ⟨_, rfl⟩
  | some total =>
      obtain ⟨hle, rfl⟩ := checkedAdd_eq_some.mp hs
      cases ha : usage.admission bytes usage.total (usage.total + bytes) with
      | error error => exact ⟨_, by simp only [ha]; rfl⟩
      | ok _ =>
          have hreserved : usage.reserved + bytes ≤ u64Max := by
            simp only [total] at hle
            omega
          exact ⟨_, by simp only [ha, add64_of_le hreserved, ok_bind]; rfl⟩

theorem cancel_eq_ok {usage usage' : MemoryUsage} {remaining : Nat} :
    usage.cancel remaining = .ok usage' ↔ remaining ≤ usage.reserved ∧
      usage' = { usage with reserved := usage.reserved - remaining } := by
  unfold cancel
  by_cases h : remaining ≤ usage.reserved
  · simp [h, eq_comm]
  · simp [h, sub64]

theorem release_eq_ok {usage usage' : MemoryUsage} {bytes : Nat} :
    usage.release bytes = .ok usage' ↔ bytes ≤ usage.allocated ∧
      usage' = { usage with allocated := usage.allocated - bytes } := by
  unfold release
  by_cases h : bytes ≤ usage.allocated
  · simp [h, eq_comm]
  · simp [h, sub64]

end MemoryUsage

theorem chargeCheck_ok {remaining : Nat} {resource : R} :
    chargeCheck remaining resource = .ok () ↔ Pooled.bytes resource ≤ remaining := by
  unfold chargeCheck
  split <;> simp_all

theorem chargeTransfer_of_le {usage : MemoryUsage} {remaining : Nat} {resource : R}
    (hr : Pooled.bytes resource ≤ usage.reserved) (hm : Pooled.bytes resource ≤ remaining)
    (ha : usage.allocated + Pooled.bytes resource ≤ u64Max) :
    chargeTransfer usage remaining resource = .ok
      ({ usage with
          reserved := usage.reserved - Pooled.bytes resource
          allocated := usage.allocated + Pooled.bytes resource },
        remaining - Pooled.bytes resource, ⟨resource, Pooled.bytes resource, rfl⟩) := by
  simp [chargeTransfer, hr, hm, ha]

/-- A charge moves its bytes from reserved to allocated and from the reservation
to the charged resource. -/
theorem chargeTransfer_cases {usage usage' : MemoryUsage} {remaining remaining' : Nat}
    {resource : R} {owner : Charged R}
    (h : chargeTransfer usage remaining resource = .ok (usage', remaining', owner)) :
    usage'.reserved + owner.bytes = usage.reserved ∧
    usage'.allocated = usage.allocated + owner.bytes ∧
    remaining' + owner.bytes = remaining ∧
    usage'.limit = usage.limit ∧ usage'.peak = usage.peak ∧ owner.resource = resource := by
  cases hr : sub64 usage.reserved (Pooled.bytes resource) with
  | error fault => simp [chargeTransfer, hr] at h
  | ok reserved =>
      cases ha : add64 usage.allocated (Pooled.bytes resource) with
      | error fault => simp [chargeTransfer, hr, ha] at h
      | ok allocated =>
          cases hm : sub64 remaining (Pooled.bytes resource) with
          | error fault => simp [chargeTransfer, hr, ha, hm] at h
          | ok rest =>
              simp only [chargeTransfer, hr, ha, hm, ok_bind] at h
              cases h
              obtain ⟨hrle, rfl⟩ := sub64_eq_ok.mp hr
              obtain ⟨_, rfl⟩ := add64_eq_ok.mp ha
              obtain ⟨hmle, rfl⟩ := sub64_eq_ok.mp hm
              exact ⟨Nat.sub_add_cancel hrle, rfl, Nat.sub_add_cancel hmle, rfl, rfl, rfl⟩

/-! The counters follow the holders -/

theorem admissionRule_reserved (usage : MemoryUsage) (taken : Multiset (Holder R))
    (usage' : MemoryUsage) (left : Multiset (Holder R))
    (h : AdmissionRule usage taken usage' left) :
    usage'.reserved + (taken.map Holder.remaining).sum =
      usage.reserved + (left.map Holder.remaining).sum := by
  cases h with
  | reserve h =>
      obtain ⟨error, herror, _⟩ | ⟨hanswer, _, _, rfl⟩ := MemoryUsage.reserve_cases h
      · cases herror
      · cases hanswer
        simp [Holder.remaining]
  | reserveFails h =>
      obtain ⟨error, _, rfl⟩ | ⟨hanswer, _⟩ := MemoryUsage.reserve_cases h
      · simp [Holder.remaining]
      · cases hanswer
  | charge h =>
      obtain ⟨hreserved, _, hremaining, _⟩ := chargeTransfer_cases h
      simp only [Multiset.insert_eq_cons, Multiset.map_cons, Multiset.map_singleton,
        Multiset.sum_cons, Multiset.sum_singleton, Holder.remaining]
      omega
  | cancel h =>
      obtain ⟨hle, rfl⟩ := MemoryUsage.cancel_eq_ok.mp h
      simp [Holder.remaining, hle]
  | release h =>
      obtain ⟨_, rfl⟩ := MemoryUsage.release_eq_ok.mp h
      simp [Holder.remaining]
  | setLimit _ | beginReserve _ | chargeChecked _ | chargeFails _ | destroy =>
      simp [Holder.remaining, MemoryUsage.setLimit]

theorem admissionRule_allocated (usage : MemoryUsage) (taken : Multiset (Holder R))
    (usage' : MemoryUsage) (left : Multiset (Holder R))
    (h : AdmissionRule usage taken usage' left) :
    usage'.allocated + (taken.map Holder.charge).sum =
      usage.allocated + (left.map Holder.charge).sum := by
  cases h with
  | reserve h =>
      obtain ⟨error, herror, _⟩ | ⟨_, _, _, rfl⟩ := MemoryUsage.reserve_cases h
      · cases herror
      · simp [Holder.charge]
  | reserveFails h =>
      obtain ⟨error, _, rfl⟩ | ⟨hanswer, _⟩ := MemoryUsage.reserve_cases h
      · simp [Holder.charge]
      · cases hanswer
  | charge h =>
      obtain ⟨_, hallocated, _⟩ := chargeTransfer_cases h
      simp [Holder.charge, hallocated]
  | cancel h =>
      obtain ⟨_, rfl⟩ := MemoryUsage.cancel_eq_ok.mp h
      simp [Holder.charge]
  | release h =>
      obtain ⟨hle, rfl⟩ := MemoryUsage.release_eq_ok.mp h
      simp [Holder.charge, hle]
  | setLimit _ | beginReserve _ | chargeChecked _ | chargeFails _ | destroy =>
      simp [Holder.charge, MemoryUsage.setLimit]

/-! Totals stay within 64 bits -/

/-- A `charge` that has passed its check fits the reservation it was checked against. -/
def Holder.Checked (_ : MemoryUsage) : Holder R → Prop
  | .charging remaining resource => Pooled.bytes resource ≤ remaining
  | _ => True

theorem admissionRule_within {usage usage' : MemoryUsage} {taken left : Multiset (Holder R)}
    (h : AdmissionRule usage taken usage' left) (hu : usage.total ≤ u64Max) :
    usage'.total ≤ u64Max := by
  cases h with
  | setLimit _ | beginReserve _ | chargeChecked _ | chargeFails _ | destroy => exact hu
  | reserve h | reserveFails h =>
      obtain ⟨_, _, rfl⟩ | ⟨_, hle, _, rfl⟩ := MemoryUsage.reserve_cases h
      · exact hu
      · simp only [MemoryUsage.total] at hle ⊢
        omega
  | charge h =>
      obtain ⟨hreserved, hallocated, _⟩ := chargeTransfer_cases h
      simp only [MemoryUsage.total] at hu ⊢
      omega
  | cancel h =>
      obtain ⟨_, rfl⟩ := MemoryUsage.cancel_eq_ok.mp h
      simp only [MemoryUsage.total] at hu ⊢
      omega
  | release h =>
      obtain ⟨_, rfl⟩ := MemoryUsage.release_eq_ok.mp h
      simp only [MemoryUsage.total] at hu ⊢
      omega

theorem admissionRule_total (usage : MemoryUsage) (taken : Multiset (Holder R))
    (usage' : MemoryUsage) (left : Multiset (Holder R))
    (h : AdmissionRule usage taken usage' left) (hu : usage.total ≤ u64Max)
    (_ : ∀ holder ∈ taken, holder.Checked usage) :
    usage'.total ≤ u64Max ∧ (∀ holder ∈ left, holder.Checked usage') ∧
      ∀ holder : Holder R, holder.Checked usage → holder.Checked usage' := by
  refine ⟨admissionRule_within h hu, ?_, fun holder hh => by cases holder <;> exact hh⟩
  cases h with
  | chargeChecked h => simpa [Holder.Checked] using chargeCheck_ok.mp h
  | _ => simp [Holder.Checked]

/-- What every reachable state satisfies. -/
structure Accounted (c : AdmissionConfig R) : Prop where
  reserved : c.shared.reserved = c.held Holder.remaining
  allocated : c.shared.allocated = c.held Holder.charge
  total_le : c.shared.total ≤ u64Max
  checked : ∀ holder ∈ c.running, holder.Checked c.shared

theorem Accounted.step {c c' : AdmissionConfig R} (hc : Accounted c) (h : AdmissionStep c c') :
    Accounted c' := by
  obtain ⟨htotal, hchecked⟩ := h.keeps (I := fun usage => usage.total ≤ u64Max)
    (J := Holder.Checked) admissionRule_total ⟨hc.total_le, hc.checked⟩
  exact ⟨h.tracks (g := MemoryUsage.reserved) admissionRule_reserved hc.reserved,
    h.tracks (g := MemoryUsage.allocated) admissionRule_allocated hc.allocated, htotal, hchecked⟩

theorem admission_reachable {c : AdmissionConfig R}
    (hc : Reachable AdmissionStart AdmissionStep c) : Accounted c := by
  refine hc.invariant ?_ fun _ _ hs h => hs.step h
  intro c hstart
  obtain ⟨limit⟩ := hstart
  exact ⟨rfl, rfl, Nat.zero_le _, by simp⟩

/-- The next section of a holder runs without arithmetic fault. -/
def Holder.Safe (usage : MemoryUsage) : Holder R → Prop
  | .reserving bytes => ∃ result, usage.reserve bytes = .ok result
  | .reservation remaining => ∃ usage', usage.cancel remaining = .ok usage'
  | .charging remaining resource => ∃ result, chargeTransfer usage remaining resource = .ok result
  | .charged _ => True
  | .releasing bytes => ∃ usage', usage.release bytes = .ok usage'

theorem Accounted.safe {c : AdmissionConfig R} (hc : Accounted c) {holder : Holder R}
    (hholder : holder ∈ c.running) : holder.Safe c.shared := by
  have hremaining := Config.le_held (f := Holder.remaining) hholder
  have hcharge := Config.le_held (f := Holder.charge) hholder
  rw [← hc.reserved] at hremaining
  rw [← hc.allocated] at hcharge
  cases holder with
  | reserving bytes => exact MemoryUsage.reserve_total hc.total_le bytes
  | reservation remaining => exact ⟨_, MemoryUsage.cancel_eq_ok.mpr ⟨hremaining, rfl⟩⟩
  | charging remaining resource =>
      have hchecked : Pooled.bytes resource ≤ remaining := hc.checked _ hholder
      have hreserved : remaining ≤ c.shared.reserved := hremaining
      have htotal := hc.total_le
      simp only [MemoryUsage.total] at htotal
      exact ⟨_, chargeTransfer_of_le (by omega) hchecked (by omega)⟩
  | charged owner => trivial
  | releasing bytes => exact ⟨_, MemoryUsage.release_eq_ok.mpr ⟨hcharge, rfl⟩⟩

/-! What the past has seen -/

/-- The largest total among the states a run has visited. -/
def IsPeak (peak : Nat) (visited : List (AdmissionConfig R)) : Prop :=
  (∀ d ∈ visited, d.shared.total ≤ peak) ∧ ∃ d ∈ visited, d.shared.total = peak

/-- Some visited state had a limit of at least `bytes`. -/
def WithinSomeLimit (bytes : Nat) (visited : List (AdmissionConfig R)) : Prop :=
  bytes = 0 ∨ ∃ d ∈ visited, ∃ limit, d.shared.limit = some limit ∧ bytes ≤ limit

theorem WithinSomeLimit.earlier {bytes bytes' : Nat} {visited : List (AdmissionConfig R)}
    (h : WithinSomeLimit bytes visited) (hle : bytes' ≤ bytes) (c : AdmissionConfig R) :
    WithinSomeLimit bytes' (c :: visited) := by
  cases h with
  | inl hzero => exact .inl (by omega)
  | inr hvisited =>
      obtain ⟨d, hd, limit, hlimit, hbytes⟩ := hvisited
      exact .inr ⟨d, List.mem_cons_of_mem _ hd, limit, hlimit, hle.trans hbytes⟩

/-- A step either leaves the peak and does not raise the total, or it is a
reservation admitted by the limit of the moment. -/
theorem admissionStep_total {c c' : AdmissionConfig R} (h : AdmissionStep c c') :
    (c'.shared.total ≤ c.shared.total ∧ c'.shared.peak = c.shared.peak) ∨
    (c'.shared.peak = max c.shared.peak c'.shared.total ∧
      (c'.shared.total = c.shared.total ∨
        ∃ limit, c.shared.limit = some limit ∧ c'.shared.total ≤ limit)) := by
  obtain ⟨rest, rule⟩ := h
  cases rule with
  | setLimit _ | beginReserve _ | chargeChecked _ | chargeFails _ | destroy =>
      exact .inl ⟨Nat.le_refl _, rfl⟩
  | reserve h =>
      obtain ⟨error, herror, _⟩ | ⟨_, _, hlimit, rfl⟩ := MemoryUsage.reserve_cases h
      · cases herror
      · right
        cases hlimit with
        | inl hzero => simp [MemoryUsage.total, hzero]
        | inr hadmitted =>
            obtain ⟨limit, hlimit, hle⟩ := hadmitted
            simp only [MemoryUsage.total] at hle ⊢
            exact ⟨by congr 1; omega, .inr ⟨limit, hlimit, by omega⟩⟩
  | reserveFails h =>
      obtain ⟨error, _, rfl⟩ | ⟨hanswer, _⟩ := MemoryUsage.reserve_cases h
      · exact .inl ⟨Nat.le_refl _, rfl⟩
      · cases hanswer
  | charge h =>
      obtain ⟨hreserved, hallocated, _, _, hpeak, _⟩ := chargeTransfer_cases h
      refine .inl ⟨?_, hpeak⟩
      simp only [MemoryUsage.total]
      omega
  | cancel h =>
      obtain ⟨_, rfl⟩ := MemoryUsage.cancel_eq_ok.mp h
      refine .inl ⟨?_, rfl⟩
      simp only [MemoryUsage.total]
      omega
  | release h =>
      obtain ⟨_, rfl⟩ := MemoryUsage.release_eq_ok.mp h
      refine .inl ⟨?_, rfl⟩
      simp only [MemoryUsage.total]
      omega

theorem admission_history {c : AdmissionConfig R} {past : List (AdmissionConfig R)}
    (run : Run AdmissionStart AdmissionStep (c :: past)) :
    IsPeak c.shared.peak (c :: past) ∧ WithinSomeLimit c.shared.total (c :: past) := by
  refine run.history (P := fun c past => IsPeak c.shared.peak (c :: past) ∧
    WithinSomeLimit c.shared.total (c :: past)) ?_ ?_
  · intro c hstart
    obtain ⟨limit⟩ := hstart
    exact ⟨⟨by simp [MemoryUsage.new, MemoryUsage.total], _, List.mem_singleton_self _, rfl⟩,
      .inl rfl⟩
  · intro c c' past _ ⟨⟨hmax, top, htop, hreached⟩, hlimit⟩ step
    have htotal : c.shared.total ≤ c.shared.peak := hmax c List.mem_cons_self
    cases admissionStep_total step with
    | inl hlower =>
        obtain ⟨hle, hpeak⟩ := hlower
        refine ⟨⟨?_, top, List.mem_cons_of_mem _ htop, by rw [hreached, hpeak]⟩,
          hlimit.earlier hle c'⟩
        intro d hd
        rw [hpeak]
        cases List.mem_cons.mp hd with
        | inl hnow => exact hnow ▸ hle.trans htotal
        | inr hbefore => exact hmax d hbefore
    | inr hraise =>
        obtain ⟨hpeak, hgrow⟩ := hraise
        refine ⟨⟨?_, ?_⟩, ?_⟩
        · intro d hd
          cases List.mem_cons.mp hd with
          | inl hnow =>
              subst hnow
              omega
          | inr hbefore =>
              have := hmax d hbefore
              omega
        · by_cases hnew : c.shared.peak ≤ c'.shared.total
          · exact ⟨c', List.mem_cons_self, by rw [hpeak, Nat.max_eq_right hnew]⟩
          · exact ⟨top, List.mem_cons_of_mem _ htop,
              by rw [hreached, hpeak, Nat.max_eq_left (Nat.le_of_not_le hnew)]⟩
        · cases hgrow with
          | inl hsame => exact hlimit.earlier hsame.le c'
          | inr hadmitted =>
              obtain ⟨limit, hlim, hle⟩ := hadmitted
              exact .inr ⟨c, List.mem_cons_of_mem _ List.mem_cons_self, limit, hlim, hle⟩

theorem charge_ok {usage usage' : MemoryUsage} {remaining remaining' : Nat} {resource : R}
    {owner : Charged R}
    (h : charge usage remaining resource = .ok (usage', remaining', .ok owner)) :
    owner.resource = resource ∧ usage'.reserved + owner.bytes = usage.reserved ∧
      usage'.allocated = usage.allocated + owner.bytes ∧ remaining' + owner.bytes = remaining := by
  rw [charge] at h
  cases hcheck : chargeCheck remaining resource with
  | error _ =>
      rw [hcheck] at h
      cases h
  | ok _ =>
      cases ht : chargeTransfer usage remaining resource with
      | error fault => simp [hcheck, ht] at h
      | ok result =>
          obtain ⟨usage'', rest, charged⟩ := result
          simp only [hcheck, ht, ok_bind] at h
          cases h
          obtain ⟨hreserved, hallocated, hremaining, _, _, hresource⟩ := chargeTransfer_cases ht
          exact ⟨hresource, hreserved, hallocated, hremaining⟩

theorem charge_of_le {usage : MemoryUsage} {remaining : Nat} {resource : R}
    (hr : Pooled.bytes resource ≤ usage.reserved) (hm : Pooled.bytes resource ≤ remaining)
    (ha : usage.allocated + Pooled.bytes resource ≤ u64Max) :
    charge usage remaining resource = .ok
      ({ usage with
          reserved := usage.reserved - Pooled.bytes resource
          allocated := usage.allocated + Pooled.bytes resource },
        remaining - Pooled.bytes resource, .ok ⟨resource, Pooled.bytes resource, rfl⟩) := by
  rw [charge, chargeCheck_ok.mpr hm]
  simp [chargeTransfer_of_le hr hm ha]

theorem charge_error {usage usage' : MemoryUsage} {remaining remaining' : Nat} {resource : R}
    {error : AdmissionError}
    (h : charge usage remaining resource = .ok (usage', remaining', .error error)) :
    usage' = usage ∧ remaining' = remaining := by
  unfold charge at h
  cases hcheck : chargeCheck remaining resource with
  | error _ =>
      rw [hcheck] at h
      cases h
      exact ⟨rfl, rfl⟩
  | ok _ =>
      cases ht : chargeTransfer usage remaining resource with
      | error fault => simp [hcheck, ht] at h
      | ok result =>
          simp only [hcheck, ht, ok_bind] at h
          cases h

/-- In every run, in whatever order the holders take their sections, the counters
are exactly what the live reservations and charges hold, their sum is a 64-bit
value and no section of a holder faults; the peak is the largest total so far;
the total is within some limit that was configured. A positive reservation is
admitted only within the limit of the moment, and above it only an empty one;
a refused reservation and a refused charge change nothing. -/
theorem memory_budget_accounting {c : AdmissionConfig R} {past : List (AdmissionConfig R)}
    (run : Run AdmissionStart AdmissionStep (c :: past)) :
    c.shared.reserved = c.held Holder.remaining ∧
    c.shared.allocated = c.held Holder.charge ∧
    c.shared.reserved + c.shared.allocated ≤ u64Max ∧
    (∀ holder ∈ c.running, holder.Safe c.shared) ∧
    ((∀ d ∈ c :: past, d.shared.total ≤ c.shared.peak) ∧
      ∃ d ∈ c :: past, d.shared.total = c.shared.peak) ∧
    (c.shared.total = 0 ∨ ∃ d ∈ c :: past, ∃ limit, d.shared.limit = some limit ∧
      c.shared.total ≤ limit) ∧
    (∀ bytes usage' remaining, c.shared.reserve bytes = .ok (usage', .ok remaining) → 0 < bytes →
      ∃ limit, c.shared.limit = some limit ∧ usage'.total = c.shared.total + bytes ∧
        usage'.total ≤ limit) ∧
    (∀ limit, c.shared.limit = some limit → limit < c.shared.total → ∀ bytes,
      (∃ usage' remaining, c.shared.reserve bytes = .ok (usage', .ok remaining)) ↔ bytes = 0) ∧
    (∀ bytes usage' error, c.shared.reserve bytes = .ok (usage', .error error) →
      usage' = c.shared) ∧
    (∀ remaining (resource : R) usage' remaining' error,
      charge c.shared remaining resource = .ok (usage', remaining', .error error) →
        usage' = c.shared ∧ remaining' = remaining) := by
  have hc := admission_reachable run.reachable
  obtain ⟨hpeak, hlimit⟩ := admission_history run
  have admitted : ∀ bytes usage' remaining,
      c.shared.reserve bytes = .ok (usage', .ok remaining) → 0 < bytes →
      ∃ limit, c.shared.limit = some limit ∧ usage'.total = c.shared.total + bytes ∧
        usage'.total ≤ limit := by
    intro bytes usage' remaining h hpos
    obtain ⟨error, herror, _⟩ | ⟨_, _, hzero | ⟨limit, hlim, hle⟩, rfl⟩ :=
      MemoryUsage.reserve_cases h
    · cases herror
    · omega
    · refine ⟨limit, hlim, ?_, ?_⟩ <;> simp only [MemoryUsage.total] at hle ⊢ <;> omega
  refine ⟨hc.reserved, hc.allocated, hc.total_le, fun _ => hc.safe, hpeak, hlimit, admitted,
    ?_, ?_, fun _ _ _ _ _ h => charge_error h⟩
  · intro limit hlim hover bytes
    constructor
    · intro hadmitted
      obtain ⟨usage', remaining, h⟩ := hadmitted
      by_contra hne
      obtain ⟨limit', hlim', htotal, hle⟩ := admitted bytes usage' remaining h (by omega)
      rw [hlim] at hlim'
      cases hlim'
      omega
    · intro heq
      subst heq
      have hused : c.shared.used = .ok c.shared.total := add64_of_le hc.total_le
      have hsum : checkedAdd c.shared.total 0 = some c.shared.total :=
        checkedAdd_eq_some.mpr ⟨hc.total_le, rfl⟩
      have hreserved : c.shared.reserved + 0 ≤ u64Max := by
        have := hc.total_le
        simp only [MemoryUsage.total] at this
        omega
      exact ⟨_, _, by simp only [MemoryUsage.reserve, hused, ok_bind, hsum, MemoryUsage.admission,
        if_true, add64_of_le hreserved]; rfl⟩
  · intro bytes usage' error h
    obtain ⟨_, _, hsame⟩ | ⟨hanswer, _⟩ := MemoryUsage.reserve_cases h
    · exact hsame
    · cases hanswer

private def overLimit : AdmissionConfig Fake :=
  ⟨⟨some 50, 60, 0, 60⟩, {.reservation 60}⟩

private theorem overLimit_run : ∃ past, Run AdmissionStart AdmissionStep (overLimit :: past) := by
  have fresh : Reachable AdmissionStart AdmissionStep
      (⟨.new (some 80), 0⟩ : AdmissionConfig Fake) := .start (.new (some 80))
  have asked := fresh.fire 0 (.beginReserve (show 60 ≤ u64Max by decide)) rfl
  have admitted := asked.fire 0 (.reserve rfl) rfl
  exact admitted.fire {.reservation 60} (.setLimit (some 50)) (zero_add _).symm

theorem memory_budget_accounting_over_limit :
    ¬ ∃ usage' remaining, overLimit.shared.reserve 1 = .ok (usage', .ok remaining) := by
  obtain ⟨past, run⟩ := overLimit_run
  have onlyZero := (memory_budget_accounting run).2.2.2.2.2.2.2.1 50 rfl (by decide) 1
  exact fun h => absurd (onlyZero.mp h) (by decide)

end GpuInfo
