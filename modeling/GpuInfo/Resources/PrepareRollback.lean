import GpuInfo.Resources.PrepareCreation

/-!
What a failed `prepare` leaves. Its matches become idle again, in the order of their slots;
only what it evicted for its admission is lost.
-/

namespace GpuInfo
open MachineInteger FuelProgram ResourcePool
variable {Format : Type} [DecidableEq Format]

/-- Other allocations are idle, and some natives have come back. -/
def Inner.returned (s : Inner Format) (slots : List (ChargedAllocation Format))
    (natives : NativeId → Option (Native Format)) : Inner Format :=
  { s with pool := s.pool.holding slots, natives }

omit [DecidableEq Format] in
theorem afterCall_nothing (s : Inner Format) (pool : ResourcePool (ChargedAllocation Format))
    (effect : Effect (ChargedAllocation Format))
    (natives : NativeId → Option (Native Format)) :
    s.afterCall ⟨pool, [], effect⟩ natives = { s with pool, natives } := by
  simp [Inner.afterCall, totalBytes]

/-- What `prepare` has checked out may go back. -/
structure ChargedAllocation.Offered (allocation : ChargedAllocation Format) : Prop where
  reusable : allocation.resource.spec.reusable = true
  mapped : allocation.needsRemap = false
  positive : 0 < allocation.bytes

/-- A match goes back where there is room for it, and evicts nothing. -/
theorem dropOwned_returns {s : Inner Format} (hp : Represented s.pool) (safe : s.loss = none)
    {allocation : ChargedAllocation Format} (offered : allocation.Offered)
    (room : totalBytes (s.pool.idle.slots ++ [allocation]) ≤ s.pool.budget)
    (entries : (s.pool.idle.slots ++ [allocation]).length ≤ s.pool.maxEntries) :
    ∃ natives, Ends (s.dropOwned ⟨allocation, true⟩)
      (s.returned (s.pool.idle.slots ++ [allocation]) natives) := by
  have hroom : totalBytes s.pool.idle.slots + allocation.bytes ≤ s.pool.budget := by
    simpa [totalBytes_append, totalBytes, Pooled.bytes] using room
  have hpositive := offered.positive
  have hsize : ¬ s.pool.budget < allocation.bytes := by omega
  have hbudget : s.pool.budget ≠ 0 := by omega
  rw [List.length_append, List.length_singleton] at entries
  obtain ⟨count, hleast, hends⟩ := put_alone hp (Nat.not_lt.mp hsize)
    (Nat.lt_of_lt_of_le (Nat.succ_pos _) entries)
  have hcount : count = 0 := Nat.le_zero.mp (hleast.2 ⟨hroom, entries⟩)
  rw [hcount, List.drop_zero, List.take_zero] at hends
  obtain ⟨natives, hcall⟩ := call_ends (s := { s with returning := s.returning + 1 }) hends
    (Nat.zero_le _)
  have hdrop : s.dropOwned ⟨allocation, true⟩ =
      { s with returning := s.returning + 1 }.call (.put allocation) >>= fun s' =>
        pure { s' with returning := s'.returning - 1 } := by
    simp [Inner.dropOwned, offered.reusable, offered.mapped, hsize, hbudget, safe]
  rw [afterCall_nothing] at hcall
  rw [hdrop]
  exact ⟨natives, .bind hcall (.pure _)⟩

/-- They go back one after another. -/
theorem dropOwners_returns {s : Inner Format} (hp : Represented s.pool) (safe : s.loss = none)
    {taken : List (ChargedAllocation Format)} (offered : ∀ allocation ∈ taken, allocation.Offered)
    (room : totalBytes (s.pool.idle.slots ++ taken) ≤ s.pool.budget)
    (entries : (s.pool.idle.slots ++ taken).length ≤ s.pool.maxEntries) :
    ∃ natives, Ends (s.dropOwners (taken.map fun allocation => ⟨allocation, true⟩))
      (s.returned (s.pool.idle.slots ++ taken) natives) := by
  induction taken generalizing s with
  | nil =>
      refine ⟨s.natives, ?_⟩
      rw [List.append_nil, Inner.returned, hp.holding_self]
      exact .pure s
  | cons allocation taken ih =>
      obtain ⟨hoffered, hrest⟩ := List.forall_mem_cons.mp offered
      rw [List.append_cons] at room entries
      have hfirst : (s.pool.idle.slots ++ [allocation]).Sublist
          (s.pool.idle.slots ++ [allocation] ++ taken) := List.sublist_append_left _ _
      have room₁ := (totalBytes_sublist hfirst).trans room
      have entries₁ := hfirst.length_le.trans entries
      obtain ⟨natives, hdrop⟩ := dropOwned_returns hp safe hoffered room₁ entries₁
      have hp₁ : Represented (s.returned (s.pool.idle.slots ++ [allocation]) natives).pool :=
        ⟨rfl, room₁, entries₁, hp.budget_le⟩
      obtain ⟨natives', hdrops⟩ := ih hp₁ safe hrest room entries
      rw [List.append_cons]
      exact ⟨natives', .bind hdrop hdrops⟩

theorem checkOut_reusable (idle : List (ChargedAllocation Format)) (specs : List (Spec Format)) :
    ∀ allocation ∈ (checkOut idle specs).taken, allocation.resource.spec.reusable = true := by
  induction specs generalizing idle with
  | nil => exact nofun
  | cons spec specs ih =>
      rw [checkOut]
      split
      · rename_i found others hfound
        obtain ⟨hreusable, hspec, -⟩ := candidate_spec hfound
        exact List.forall_mem_cons.mpr ⟨hspec ▸ hreusable, ih others⟩
      · exact ih idle

omit [DecidableEq Format] in
theorem Checkout.owners_slots (checkout : Checkout Format) :
    checkout.slots.owners = checkout.taken.map fun allocation => ⟨allocation, true⟩ :=
  List.reduceOption_map

variable [Wgpu Format] {limits : Limits}

/-- The matches of a plan go back beside those of the others that are still idle. -/
theorem checkout_returns [LawfulWgpu Format] {s s₁ : Inner Format} (hs : s.AtRest limits)
    (specs : List (Spec Format)) {kept : List (ChargedAllocation Format)}
    (hkept : kept.Sublist (s.checkout specs).left) (pool : s₁.pool = s.pool.holding kept)
    (safe : s₁.loss = none) :
    ∃ natives, Ends (s₁.dropOwners (s.checkout specs).slots.owners)
      (s₁.returned (kept ++ (s.checkout specs).taken) natives) := by
  have hperm := checkOut_perm s.pool.idle.slots specs
  have offered : ∀ allocation ∈ (s.checkout specs).taken, allocation.Offered := by
    intro allocation hmem
    have hidle : allocation ∈ s.pool.idle.slots :=
      hperm.mem_iff.mpr (List.mem_append_left _ hmem)
    exact ⟨checkOut_reusable _ specs allocation hmem, hs.mapped allocation hidle,
      Spec.bytes_pos (hs.priced allocation hidle)⟩
  have room : totalBytes (kept ++ (s.checkout specs).taken) ≤ s.pool.budget := by
    have hall := totalBytes_perm hperm
    have hbytes := totalBytes_sublist hkept
    have hwithin := hs.represented.within
    rw [hs.represented.exact, hall, totalBytes_append] at hwithin
    rw [totalBytes_append]
    simp only [Inner.checkout] at hbytes ⊢
    omega
  have entries : (kept ++ (s.checkout specs).taken).length ≤ s.pool.maxEntries := by
    have hlength := hkept.length_le
    have hentries := hs.represented.entries
    rw [hperm.length_eq, List.length_append] at hentries
    rw [List.length_append]
    simp only [Inner.checkout] at hlength ⊢
    omega
  have hp : Represented s₁.pool :=
    pool ▸ hs.represented.holding (hkept.trans (checkOut_sublist _ specs))
  have hslots : s₁.pool.idle.slots = kept := congrArg (·.idle.slots) pool
  have hbudget : s₁.pool.budget = s.pool.budget := (congrArg ResourcePool.budget pool).trans rfl
  have hentries : s₁.pool.maxEntries = s.pool.maxEntries :=
    (congrArg ResourcePool.maxEntries pool).trans rfl
  rw [← hslots, ← hbudget] at room
  rw [← hslots, ← hentries] at entries
  have hdrops := dropOwners_returns hp safe offered room entries
  rw [hslots] at hdrops
  rw [Checkout.owners_slots]
  exact hdrops

theorem prepareCheck_error {loss : Option String} {specs : List (Spec Format)}
    {error : ResourceError Format} (h : prepareCheck limits loss specs = .error error)
    (refusal : AdmissionError) : error ≠ .admission refusal := by
  cases loss with
  | some reason =>
      cases h
      exact nofun
  | none =>
      rintro rfl
      simp only [prepareCheck] at h
      induction specs with
      | nil => cases h
      | cons spec specs ih =>
          rw [List.forM] at h
          cases hbytes : spec.bytes limits with
          | error error =>
              rw [hbytes] at h
              cases h
              exact Spec.bytes_ne_admission refusal hbytes
          | ok bytes =>
              rw [hbytes] at h
              exact ih h

/-- A `prepare` whose plan fails ends with its error, and with the matches idle again. -/
theorem prepare_fails [LawfulWgpu Format] {s s₁ : Inner Format} (hs : s.AtRest limits)
    {specs found : List (Spec Format)} {kept : List (ChargedAllocation Format)}
    {error : ResourceError Format} (hkept : kept.Sublist (s.checkout found).left)
    (pool : s₁.pool = s.pool.holding kept) (safe : s₁.loss = none)
    (planned : Ends (s.plan limits specs) (s₁, (s.checkout found).slots, .error error)) :
    ∃ natives, Ends (s.prepare limits specs)
      (s₁.returned (kept ++ (s.checkout found).taken) natives, .error error) := by
  obtain ⟨natives, hdrops⟩ := checkout_returns hs found hkept pool safe
  exact ⟨natives, .bind planned (.bind hdrops (.pure _))⟩

omit [DecidableEq Format] [Wgpu Format] in
/-- A reservation that is refused after an eviction has seen everything evicted. -/
theorem evicted_all {s : Inner Format} {missing limit count : Nat}
    {natives : NativeId → Option (Native Format)}
    (charged : totalBytes s.pool.idle.slots ≤ s.memory.allocated)
    (reaches : Reaches s.pool.idle.slots (s.memory.total + missing - limit) count)
    (short : limit < (s.evicted count natives).memory.total + missing) :
    count = s.pool.idle.slots.length := by
  have htotal := evicted_total charged count natives
  cases reaches with
  | inl least =>
      have hreached : s.memory.total + missing - limit ≤
          totalBytes (s.pool.idle.slots.take count) := least.1
      omega
  | inr all => exact all.2

/-- What a `prepare` leaves when it fails. Where the capacity was not enough, the allocations
that matched nothing have been evicted for it, with their charges. -/
def Inner.FailsTo (s : Inner Format) (specs : List (Spec Format)) (s' : Inner Format) :
    ResourceError Format → Prop
  | .admission (.capacity _ _ _) =>
      (s'.pool.idle.slots : Multiset (ChargedAllocation Format)) + (s.checkout specs).left =
        (s.pool.idle.slots : Multiset (ChargedAllocation Format)) ∧
      s'.memory.total + totalBytes (s.checkout specs).left = s.memory.total
  | _ =>
      (s'.pool.idle.slots : Multiset (ChargedAllocation Format)) = s.pool.idle.slots ∧
      s'.memory.total = s.memory.total

omit [Wgpu Format] in
theorem Inner.FailsTo.unchanged {s s' : Inner Format} {specs : List (Spec Format)}
    {error : ResourceError Format}
    (other : ∀ requested used limit, error ≠ .admission (.capacity requested used limit))
    (idle : (s'.pool.idle.slots : Multiset (ChargedAllocation Format)) = s.pool.idle.slots)
    (total : s'.memory.total = s.memory.total) : s.FailsTo specs s' error := by
  unfold Inner.FailsTo
  split
  · exact absurd rfl (other _ _ _)
  · exact ⟨idle, total⟩

/-- Where the capacity is not enough, everything idle that did not match is gone. -/
theorem refused_fails [LawfulWgpu Format] {s : Inner Format} (hs : s.AtRest limits)
    (safe : s.loss = none) {specs : List (Spec Format)} {missing limit count : Nat}
    {natives : NativeId → Option (Native Format)}
    (reaches : Reaches (s.checkout specs).left (s.memory.total + missing - limit) count)
    (short : limit < ((s.checkedOut specs).evicted count natives).memory.total + missing)
    {requested used limit' : Nat}
    (planned : Ends (s.plan limits specs) ((s.checkedOut specs).evicted count natives,
      (s.checkout specs).slots, .error (.admission (.capacity requested used limit')))) :
    ∃ s', Ends (s.prepare limits specs)
        (s', .error (.admission (.capacity requested used limit'))) ∧
      s.FailsTo specs s' (.admission (.capacity requested used limit')) := by
  have charged : totalBytes (s.checkout specs).left ≤ s.memory.allocated :=
    (totalBytes_sublist (checkOut_sublist _ specs)).trans hs.charged
  have hall : count = (s.checkout specs).left.length :=
    evicted_all (s := s.checkedOut specs) charged reaches short
  have hpool : ((s.checkedOut specs).evicted count natives).pool =
      s.pool.holding ((s.checkout specs).left.drop count) := rfl
  obtain ⟨natives', hprepare⟩ := prepare_fails hs (List.drop_sublist _ _) hpool safe planned
  have htotal := evicted_total (s := s.checkedOut specs) charged count natives
  refine ⟨_, hprepare, ?_⟩
  subst hall
  have htake : totalBytes ((s.checkedOut specs).pool.idle.slots.take
      (s.checkout specs).left.length) = totalBytes (s.checkout specs).left :=
    congrArg totalBytes List.take_length
  rw [htake] at htotal
  rw [List.drop_length]
  exact ⟨Multiset.coe_eq_coe.mpr (checkOut_perm s.pool.idle.slots specs).symm, htotal⟩

/-- In every state in which a call can begin, a `prepare` ends. If it ends with an error other
than a lack of capacity, the same allocations are idle as before and as much of the budget is
used; if the capacity was not enough, those that matched are idle again, and the others, which
were evicted for it, are gone with their charges. -/
theorem failed_prepare_keeps_matches [LawfulWgpu Format] {s : Inner Format}
    (hs : s.AtRest limits) (specs : List (Spec Format)) :
    ∃ s' answer, Ends (s.prepare limits specs) (s', answer) ∧
      ∀ error, answer = .error error → s.FailsTo specs s' error := by
  have hperm := fun found => (checkOut_perm s.pool.idle.slots found).trans List.perm_append_comm
  -- Nothing was evicted: all that was found goes back.
  have unchanged : ∀ (found : List (Spec Format)) (error : ResourceError Format),
      (∀ requested used limit, error ≠ .admission (.capacity requested used limit)) →
      s.loss = none →
      Ends (s.plan limits specs) (s.checkedOut found, (s.checkout found).slots, .error error) →
      ∃ s' answer, Ends (s.prepare limits specs) (s', answer) ∧
        ∀ error, answer = .error error → s.FailsTo specs s' error := by
    intro found error other safe hplan
    have hpool : (s.checkedOut found).pool = s.pool.holding (s.checkout found).left := rfl
    obtain ⟨natives, hprepare⟩ := prepare_fails hs (.refl _) hpool safe hplan
    refine ⟨_, _, hprepare, fun error' heq => ?_⟩
    cases heq
    exact .unchanged other (Multiset.coe_eq_coe.mpr (hperm found).symm) rfl
  cases hcheck : prepareCheck limits s.loss specs with
  | error error =>
      have hplan : s.plan limits specs = pure (s, [], .error error) := by rw [Inner.plan, hcheck]
      have hprepare : Ends (s.prepare limits specs) (s, .error error) := by
        rw [Inner.prepare, hplan]
        exact .bind (.pure _) (.bind (.pure _) (.pure _))
      refine ⟨s, _, hprepare, fun error' heq => ?_⟩
      cases heq
      exact .unchanged (fun _ _ _ => prepareCheck_error hcheck _) rfl rfl
  | ok _ =>
      have safe := (prepareCheck_ok.mp hcheck).1
      by_cases hover : u64Max < (s.checkout specs).missing limits specs
      · obtain ⟨count, hplan⟩ := plan_overflows hs hcheck hover
        exact unchanged (specs.take count) .overflow (by simp) safe hplan
      · obtain ⟨s₁, answer, hplan, houtcome⟩ := plan_admits hs hcheck (Nat.le_of_not_lt hover)
        cases houtcome with
        | overflow _ | unconfigured _ _ _ => exact unchanged specs _ (by simp) safe hplan
        | granted _ _ | grantedLater _ _ _ _ _ _ =>
            obtain ⟨-, s', made, -, -, -, hprepare⟩ := planned_creates hs hplan
            exact ⟨s', _, hprepare, fun error heq => by cases heq⟩
        | @refused limit count natives _ _ _ exceeds reaches short =>
            obtain ⟨s', hprepare, hfails⟩ := refused_fails hs safe reaches short hplan
            refine ⟨s', _, hprepare, fun error heq => ?_⟩
            cases heq
            exact hfails

/-- A buffer that no eviction makes room for. -/
def huge : Spec R8 := .buffer ⟨⟨128, by decide⟩, 0x80⟩

theorem failed_prepare_keeps_matches_storage_returns : ∃ (s s' : Inner R8) (answer : _),
    s.memory = ⟨some 64, 0, 16, 16⟩ ∧ Ends (s.prepare smallLimits [huge]) (s', answer) ∧
      ∀ error, answer = .error error → s.FailsTo [huge] s' error := by
  obtain ⟨c, _, hc, -, -, -, hmemory, -⟩ := storage_returns
  obtain ⟨s', answer, hprepare, hfails⟩ :=
    failed_prepare_keeps_matches (reachable_atRest hc) [huge]
  exact ⟨c.shared, s', answer, hmemory, hprepare, hfails⟩

/-- One buffer is idle, and another is asked for that the limit has no room for at all. -/
theorem failed_prepare_can_lose_idle : ∃ (c : ResourceConfig R8) (s' : Inner R8)
    (error : ResourceError R8),
    Interleaving.Reachable ResourceStart (ResourceStep smallLimits) c ∧
      Ends (c.shared.prepare smallLimits [huge]) (s', .error error) ∧
      (s'.pool.idle.slots : Multiset (ChargedAllocation R8)) ≠ c.shared.pool.idle.slots ∧
      s'.memory.total ≠ c.shared.memory.total := by
  obtain ⟨c, allocation, hc, hidle, hspec, hbytes, hmemory, hloss⟩ := storage_returns
  have hother : (storage == huge.normalized) = false := by decide
  have hcheckout := checkout_of_storage hidle hspec hother
  have hmissing : (c.shared.checkout [huge]).missing smallLimits [huge] = 128 := by
    have hcost : huge.cost smallLimits = 128 := by decide
    rw [hcheckout]
    exact hcost
  have htotal : (c.shared.checkedOut [huge]).memory.total = 16 :=
    congrArg MemoryUsage.total hmemory
  have hlimit : (c.shared.checkedOut [huge]).memory.limit = some 64 :=
    congrArg MemoryUsage.limit hmemory
  have hcheck : prepareCheck smallLimits c.shared.loss [huge] = .ok () := by
    rw [hloss]
    rfl
  have hfits : (c.shared.checkout [huge]).missing smallLimits [huge] ≤ u64Max := by
    rw [hmissing]
    decide
  obtain ⟨s₁, answer, hplan, houtcome⟩ := plan_admits (reachable_atRest hc) hcheck hfits
  rw [hmissing] at houtcome
  cases houtcome with
  | overflow exceeds =>
      rw [htotal] at exceeds
      exact absurd exceeds (by decide)
  | unconfigured _ _ hnone => cases hlimit.symm.trans hnone
  | granted _ hroom =>
      obtain hzero | ⟨limit, hlimit', hroom⟩ := hroom
      · cases hzero
      · cases hlimit.symm.trans hlimit'
        omega
  | grantedLater _ _ hlimit' _ _ hroom =>
      cases hlimit.symm.trans hlimit'
      omega
  | refused _ _ hlimit' _ reaches short =>
      obtain ⟨s', hprepare, hidle', htotal'⟩ :=
        refused_fails (reachable_atRest hc) hloss reaches short hplan
      have hleft : totalBytes [allocation] = 16 := by simp [totalBytes, Pooled.bytes, hbytes]
      rw [hcheckout, hidle] at hidle'
      rw [hcheckout, hleft] at htotal'
      refine ⟨c, s', _, hc, hprepare, fun hsame => ?_, fun hsame => ?_⟩
      · rw [hsame, hidle] at hidle'
        simpa using congrArg Multiset.card hidle'
      · have hused : c.shared.memory.total = 16 := htotal
        omega

end GpuInfo
