import GpuInfo.Wait.Settling

/-!
A whole `collect`: the loop over the entries, with what the poll has proved for all of
them, and the end of everything when the device is lost.
-/

namespace GpuInfo
open StateProgram Device

section
variable {w w' : World} {works : Multiset RecordedWork} {rest : Multiset PendingWork}
  {entry : PendingWork} {entries : List PendingWork}

theorem cons_entries (entry : PendingWork) (entries : List PendingWork)
    (rest : Multiset PendingWork) :
    (((entry :: entries : List PendingWork) : Multiset PendingWork) + rest) =
      entry ::ₘ ((entries : Multiset PendingWork) + rest) := by
  rw [← Multiset.cons_coe, Multiset.cons_add]

/-- An entry that stays is counted with those that were looked at. -/
theorem keep_entry (entry : PendingWork) (entries : List PendingWork)
    (rest : Multiset PendingWork) :
    entry ::ₘ ((entries : Multiset PendingWork) + rest) =
      (entries : Multiset PendingWork) + entry ::ₘ rest :=
  (Multiset.add_cons _ _ _).symm

theorem Books.retired_later {pending : Multiset PendingWork} (books : Books w works pending)
    (hentry : entry ∈ pending) (retired : entry.Retired w.device)
    (later : w.device.Later w'.device) : entry.Retired w'.device :=
  retired.later later (books.retained entry hentry).allocated

namespace WorkQueue

theorem collectPending_spec (queueEmpty : Bool) (entries : List PendingWork)
    {collected : Collected} {w : World} {rest : Multiset PendingWork}
    (books : Books w works ((entries : Multiset PendingWork) + rest))
    (quiet : queueEmpty = true → ∀ entry ∈ entries, entry.Retired w.device)
    (polledLoss : w.device.polledLoss = none) :
    Ensures (collectPending queueEmpty entries collected) w fun result w' =>
      Books w' works ((result.1 : Multiset PendingWork) + rest) := by
  induction entries generalizing collected w rest with
  | nil => exact Ensures.pure books
  | cons entry entries ih =>
      rw [cons_entries] at books
      have quietEntry : queueEmpty = true → entry.Retired w.device :=
        fun hempty => quiet hempty entry List.mem_cons_self
      refine (entry.settle_spec books quietEntry polledLoss).bind fun result w₁ h₁ => ?_
      obtain ⟨books₁, proceeds₁, hsettled⟩ := h₁
      obtain ⟨entry₁, outcome⟩ := result
      -- what the poll proved still holds of the entries to come
      have quiet₁ : queueEmpty = true → ∀ entry ∈ entries, entry.Retired w₁.device := by
        intro hempty other hother
        have held : other ∈ entry ::ₘ ((entries : Multiset PendingWork) + rest) :=
          Multiset.mem_cons_of_mem (Multiset.mem_add.mpr (.inl (Multiset.mem_coe.mpr hother)))
        exact books.retired_later held (quiet hempty other (List.mem_cons_of_mem _ hother))
          proceeds₁.later
      have polledLoss₁ := proceeds₁.polledLoss.trans polledLoss
      cases outcome with
      | some outcome =>
          obtain ⟨settled, committed⟩ := hsettled outcome rfl
          refine (entry₁.finish_spec books₁ settled committed).bind fun _ w₂ h₂ => ?_
          obtain ⟨books₂, proceeds₂, -⟩ := h₂
          refine ih books₂ (fun hempty other hother => ?_)
            (proceeds₂.polledLoss.trans polledLoss₁)
          have held : other ∈ entry₁ ::ₘ ((entries : Multiset PendingWork) + rest) :=
            Multiset.mem_cons_of_mem (Multiset.mem_add.mpr (.inl (Multiset.mem_coe.mpr hother)))
          exact books₁.retired_later held (quiet₁ hempty other hother) proceeds₂.later
      | none =>
          rw [keep_entry] at books₁
          refine (ih books₁ quiet₁ polledLoss₁).bind fun result w₂ books₂ => ?_
          rw [← keep_entry, ← cons_entries] at books₂
          exact Ensures.pure books₂

/-- A lost device settles every entry, with the loss. -/
theorem finishAll_spec (reason : String) (entries : List PendingWork) {w : World}
    (books : Books w works entries) (lost : w.device.loss ≠ none) :
    Ensures (finishAll (.error (.deviceLost reason)) entries) w fun _ w' => Books w' works 0 := by
  induction entries generalizing w with
  | nil => exact Ensures.pure books
  | cons entry entries ih =>
      rw [← Multiset.cons_coe] at books
      have settled : w.device.Settled entry.completion.signal entry.leases
          (.error (.deviceLost reason)) := ⟨.inr lost, nofun⟩
      refine (entry.finish_spec books settled nofun).bind fun _ w₁ h₁ => ?_
      obtain ⟨books₁, proceeds₁, -⟩ := h₁
      refine ih books₁ ?_
      obtain ⟨known, hknown⟩ := Option.ne_none_iff_exists'.mp lost
      rw [proceeds₁.later.loss hknown]
      nofun

theorem terminalLoss_spec (queue : WorkQueue) (books : Books w works queue.pending) :
    Ensures queue.terminalLoss w fun result w' =>
      Books w' works result.1.pending ∧
        (result.2 = none → result.1 = queue ∧ Watches w w' ∧ w'.device.loss = none) := by
  refine (lossReason_spec w).bind fun loss w₁ h₁ => ?_
  obtain ⟨watched, hloss⟩ := h₁
  cases loss with
  | none => exact Ensures.pure ⟨books.watches watched, fun _ => ⟨rfl, watched, hloss.symm⟩⟩
  | some reason =>
      have lost : w₁.device.loss ≠ none := by
        rw [← hloss]
        nofun
      refine (finishAll_spec reason _ (books.watches watched) lost).bind fun _ w₂ books₂ => ?_
      exact Ensures.pure ⟨books₂, nofun⟩

theorem collectPolled_spec (queue : WorkQueue) (polled : Except WaitError PollStatus)
    (books : Books w works queue.pending)
    (quiet : polled = .ok .queueEmpty → ∀ entry ∈ queue.pending, entry.Retired w.device)
    (polledLoss : w.device.polledLoss = none) :
    Ensures (queue.collectPolled polled) w fun result w' => Books w' works result.1.pending := by
  simp only [collectPolled]
  split
  · exact Ensures.pure books
  · exact Ensures.pure books
  · rename_i status
    have quiet' : (status == .queueEmpty) = true →
        ∀ entry ∈ queue.pending, entry.Retired w.device := by
      intro hempty
      exact quiet (congrArg Except.ok (eq_of_beq hempty))
    rw [← add_zero (queue.pending : Multiset PendingWork)] at books
    refine (collectPending_spec _ queue.pending books quiet' polledLoss).bind fun result w₁ h₁ => ?_
    rw [add_zero] at h₁
    exact Ensures.pure h₁

/-- Until the loss is looked up again after the poll, no loss was known when it returned. -/
theorem collect_spec (queue : WorkQueue) (books : Books w works queue.pending) :
    Ensures queue.collect w fun result w' => Books w' works result.1.pending := by
  refine (terminalLoss_spec queue books).bind fun result w₁ h₁ => ?_
  obtain ⟨books₁, hsame⟩ := h₁
  obtain ⟨queue₁, error⟩ := result
  cases error with
  | some error => exact Ensures.pure books₁
  | none =>
      obtain ⟨rfl, -, -⟩ := hsame rfl
      simp only
      split
      · exact Ensures.pure books₁
      · refine (poll_spec w₁ books₁.ledger.device).bind fun polled w₂ h₂ => ?_
        obtain ⟨trace, later, sound, passed, hpolled, hempty⟩ := h₂
        have books₂ := books₁.later trace later sound fun _ h => passed ▸ h
        refine (terminalLoss_spec queue₁ books₂).bind fun result w₃ h₃ => ?_
        obtain ⟨books₃, hsame⟩ := h₃
        obtain ⟨queue₃, error⟩ := result
        cases error with
        | some error => exact Ensures.pure books₃
        | none =>
            obtain ⟨rfl, watched, hloss⟩ := hsame rfl
            refine collectPolled_spec queue₃ polled books₃ (fun hquiet entry hentry => ?_) ?_
            · have quiet : entry.Retired w₂.device := fun number hsent =>
                (sound.sent_le hsent).trans_eq (hempty hquiet).symm
              exact quiet.later watched.device.later
                (books₂.retained entry (Multiset.mem_coe.mpr hentry)).allocated
            · rw [watched.device.polledLoss, hpolled]
              cases hknown : w₂.device.loss with
              | none => rfl
              | some reason => cases (watched.device.loss hknown).symm.trans hloss

end WorkQueue
end

end GpuInfo
