import GpuInfo.PipelineCache.Save
import Mathlib.Data.List.TakeWhile
import Mathlib.Data.Multiset.Bind

/-!
What a reader of a cache file sees. The temporary's name tells processes apart but
not the caches of one process, so two of their saves may write one temporary, and
a reader then finds the half of a file. While no save opens the temporary another
save of its process is still to rename, every read returns the data of one save,
or what the file held at first.
-/

namespace GpuInfo
open FileSystem FileSystem.Directory Interleaving

/-! The temporary's name -/

theorem temporary_injective {file : FileName} {pid pid' : Nat}
    (h : temporary file pid = temporary file pid') : pid = pid' := by
  have hdigits : Nat.toDigits 10 pid = Nat.toDigits 10 pid' := by
    simpa [temporary, withExtension] using h
  rw [← Nat.ofDigitChars_ten_toDigits (n := pid), hdigits, Nat.ofDigitChars_ten_toDigits]

theorem fileStem_cases (name : FileName) :
    fileStem name = name ∨ ∃ extension, '.' ∉ extension ∧
      name = fileStem name ++ '.' :: extension := by
  have hsplit := List.takeWhile_append_dropWhile (p := (· ≠ '.')) (l := name.reverse)
  have hdots : '.' ∉ name.reverse.takeWhile (· ≠ '.') := fun hmem => by
    simpa using List.mem_takeWhile_imp hmem
  have hhead := List.head?_dropWhile_not (· ≠ '.') name.reverse
  simp only [fileStem]
  generalize name.reverse.takeWhile (· ≠ '.') = after at hsplit hdots
  generalize name.reverse.dropWhile (· ≠ '.') = rest at hsplit hhead ⊢
  cases rest with
  | nil => exact .inl rfl
  | cons c before =>
      obtain rfl : c = '.' := by simpa using hhead
      by_cases hfirst : ('.' :: before).tail.reverse = []
      · exact .inl (if_pos hfirst)
      · rw [if_neg hfirst]
        refine .inr ⟨after.reverse, by simpa using hdots, ?_⟩
        simpa using (congrArg List.reverse hsplit).symm

theorem temporary_ne_file (file : FileName) (pid : Nat) : temporary file pid ≠ file := by
  intro h
  cases fileStem_cases file with
  | inl hstem =>
      have := congrArg List.length h
      simp [temporary, withExtension, hstem] at this
  | inr hsplit =>
      obtain ⟨extension, hdot, hfile⟩ := hsplit
      have hextension : Nat.toDigits 10 pid ++ ['.', 't', 'm', 'p'] = extension := by
        simpa [temporary, withExtension] using h.trans hfile
      apply hdot
      simp [← hextension]

/-! Whole reads -/

/-- The temporaries a save has opened and not yet renamed, by process. -/
def CacheActivity.temporaries : CacheActivity → Multiset Nat
  | .writing cache _ _ _ | .replacing cache _ => {cache.pid}
  | .unlocked _ | .opening _ _ | .reading _ _ _ => 0

/-- A save opens the temporary that another save of its process has open or is
still to rename. -/
def SharesTemporary (c c' : CacheConfig) : Prop :=
  ∃ cache data inode others, c.running = .opening cache data ::ₘ others ∧
    c'.running = .writing cache data inode 0 ::ₘ others ∧
    ∃ other ∈ others, cache.pid ∈ other.temporaries

section
variable {hash : Bytes → UInt64} {file : FileName} {initial : Directory FileName}

/-- The data of one save, or what the file held at first. -/
def Whole (file : FileName) (initial : Directory FileName) (s : CacheFolder) (data : Bytes) :
    Prop :=
  data ∈ s.saves ∨ ∃ inode, initial.links file = some inode ∧ data = initial.files inode

def WholeReads (file : FileName) (initial : Directory FileName) (s : CacheFolder) : Prop :=
  ∀ data ∈ s.reads, Whole file initial s data

structure FolderWhole (file : FileName) (initial : Directory FileName) (s : CacheFolder) :
    Prop where
  current : ∀ inode, s.dir.links file = some inode → Whole file initial s (s.dir.files inode)
  reads : WholeReads file initial s

/-- What each phase of a save or of a read knows of the directory. -/
def CacheActivity.Sound (file : FileName) (initial : Directory FileName) (s : CacheFolder) :
    CacheActivity → Prop
  | .unlocked _ => True
  | .opening _ data => data ∈ s.saves
  | .writing cache data inode written =>
      data ∈ s.saves ∧ written ≤ data.length ∧
        s.dir.links (temporary file cache.pid) = some inode ∧
        s.dir.files inode = data.take written
  | .replacing cache data =>
      data ∈ s.saves ∧ ∃ inode, s.dir.links (temporary file cache.pid) = some inode ∧
        s.dir.files inode = data
  | .reading _ inode got =>
      (∀ pid, s.dir.links (temporary file pid) ≠ some inode) ∧ inode < s.dir.next ∧
        Whole file initial s (s.dir.files inode) ∧ got <+: s.dir.files inode

theorem Whole.mono {s s' : CacheFolder} {data : Bytes} (h : Whole file initial s data)
    (saves : ∀ data ∈ s.saves, data ∈ s'.saves) : Whole file initial s' data :=
  h.imp_left (saves data)

/-- What a save's own steps change is its temporary: the temporaries of other processes,
and the files that this one does not link to, stay. -/
structure TemporaryOnly (file : FileName) (pid : Nat) (d d' : Directory FileName) : Prop where
  next : d.next ≤ d'.next
  links : ∀ pid', pid' ≠ pid → d'.links (temporary file pid') = d.links (temporary file pid')
  files : ∀ inode, inode < d.next → d.links (temporary file pid) ≠ some inode →
    d'.files inode = d.files inode
  own : ∀ inode, inode < d.next → d.links (temporary file pid) ≠ some inode →
    d'.links (temporary file pid) ≠ some inode

theorem temporaryOnly_create {d d' : Directory FileName} {pid inode : Nat}
    (h : d.create (temporary file pid) = (d', inode)) :
    TemporaryOnly file pid d d' ∧ d'.links file = d.links file := by
  have hlink := (d.create_self (temporary file pid)).1
  have hlinks := @links_create_of_ne _ d _ (temporary file pid)
  have hfiles := @files_create_of_ne _ d _ (temporary file pid)
  have hnext := d.next_le_create (temporary file pid)
  have hnew := @create_ne _ d _ (temporary file pid)
  rw [h] at hlink hlinks hfiles hnext hnew
  refine ⟨⟨hnext, fun pid' hne => ?_, fun _ => hfiles, fun inode' hold hother htemp => ?_⟩,
    hlinks (temporary_ne_file file pid).symm⟩
  · apply hlinks
    exact fun heq => hne (temporary_injective heq)
  · rw [hlink] at htemp
    exact hnew hold hother (Option.some.inj htemp)

theorem temporaryOnly_write {d : Directory FileName} {pid inode : Nat}
    (h : d.links (temporary file pid) = some inode) (offset : Nat) (piece : Bytes) :
    TemporaryOnly file pid d (d.write inode offset piece) where
  next := Nat.le_refl _
  links _ _ := rfl
  files inode' _ hother := by
    apply files_write_of_ne
    intro heq
    subst heq
    exact hother h
  own _ _ hother := hother

theorem temporaryOnly_rename {d d' : Directory FileName} {pid : Nat}
    (h : d.rename (temporary file pid) file = some d') : TemporaryOnly file pid d d' := by
  obtain ⟨inode, -, hlinks, hfiles, hnext⟩ := Directory.rename_eq_some h
  refine ⟨hnext.ge, fun pid' hne => ?_, fun inode' _ _ => congrFun hfiles inode',
    fun _ _ _ => ?_⟩
  · have hother : temporary file pid' ≠ temporary file pid := fun heq =>
      hne (temporary_injective heq)
    simp [hlinks, temporary_ne_file file pid', hother]
  · simp [hlinks, temporary_ne_file file pid]

/-- An activity does not notice what happens to a temporary it does not use. -/
theorem TemporaryOnly.undisturbed {s : CacheFolder} {dir : Directory FileName} {pid : Nat}
    {activity : CacheActivity} (only : TemporaryOnly file pid s.dir dir)
    (apart : pid ∉ activity.temporaries) (h : activity.Sound file initial s) :
    activity.Sound file initial { s with dir } := by
  have other : ∀ {pid' inode}, pid' ≠ pid →
      s.dir.links (temporary file pid') = some inode →
      s.dir.links (temporary file pid) ≠ some inode := by
    intro pid' inode hne hlink hsame
    exact hne (temporary_injective (s.dir.unshared hlink hsame))
  cases activity with
  | unlocked cache => trivial
  | opening cache data => exact h
  | writing cache data inode written =>
      obtain ⟨hsave, hwritten, hlink, hfile⟩ := h
      have hne : cache.pid ≠ pid := fun heq => apart (by simp [CacheActivity.temporaries, heq])
      refine ⟨hsave, hwritten, (only.links _ hne).trans hlink, ?_⟩
      rw [← hfile]
      exact only.files inode (s.dir.bounded hlink) (other hne hlink)
  | replacing cache data =>
      obtain ⟨hsave, inode, hlink, hfile⟩ := h
      have hne : cache.pid ≠ pid := fun heq => apart (by simp [CacheActivity.temporaries, heq])
      refine ⟨hsave, inode, (only.links _ hne).trans hlink, ?_⟩
      rw [← hfile]
      exact only.files inode (s.dir.bounded hlink) (other hne hlink)
  | reading reader inode got =>
      obtain ⟨hunlinked, hold, hwhole, hgot⟩ := h
      have hfile := only.files inode hold (hunlinked pid)
      refine ⟨fun pid' => ?_, Nat.lt_of_lt_of_le hold only.next, ?_, ?_⟩
      · by_cases hpid : pid' = pid
        · exact hpid ▸ only.own inode hold (hunlinked pid)
        · exact (only.links pid' hpid).symm ▸ hunlinked pid'
      · exact hfile ▸ hwhole
      · exact hfile ▸ hgot

/-- The file itself is no temporary, so it stays whole while it keeps its link. -/
theorem TemporaryOnly.whole {s : CacheFolder} {dir : Directory FileName} {pid : Nat}
    (only : TemporaryOnly file pid s.dir dir) (kept : dir.links file = s.dir.links file)
    (h : FolderWhole file initial s) : FolderWhole file initial { s with dir } := by
  refine ⟨fun inode hfile => ?_, h.reads⟩
  have hbefore : s.dir.links file = some inode := kept.symm.trans hfile
  have hother : s.dir.links (temporary file pid) ≠ some inode := fun htemp =>
    temporary_ne_file file pid (s.dir.unshared htemp hbefore)
  have hsame : dir.files inode = s.dir.files inode :=
    only.files inode (s.dir.bounded hbefore) hother
  exact hsame.symm ▸ h.current inode hbefore

theorem CacheActivity.Sound.mono {s : CacheFolder} {saves reads : List Bytes}
    {activity : CacheActivity} (h : activity.Sound file initial s)
    (more : ∀ data ∈ s.saves, data ∈ saves) :
    activity.Sound file initial ⟨s.dir, saves, reads⟩ := by
  cases activity with
  | unlocked cache => trivial
  | opening cache data => exact more data h
  | writing cache data inode written => exact ⟨more data h.1, h.2⟩
  | replacing cache data => exact ⟨more data h.1, h.2⟩
  | reading reader inode got => exact ⟨h.1, h.2.1, h.2.2.1.mono more, h.2.2.2⟩

/-- One step keeps the file whole and every activity informed, given that no two
activities use one temporary. -/
theorem cacheRule_whole (s : CacheFolder) (taken : Multiset CacheActivity) (s' : CacheFolder)
    (left : Multiset CacheActivity) (h : CacheRule hash file s taken s' left)
    (whole : FolderWhole file initial s) (sound : ∀ a ∈ taken, a.Sound file initial s) :
    FolderWhole file initial s' ∧ (∀ a ∈ left, a.Sound file initial s') ∧
      ∀ a : CacheActivity, Disjoint a.temporaries ((taken.map CacheActivity.temporaries).sum) →
        Disjoint a.temporaries ((left.map CacheActivity.temporaries).sum) →
        a.Sound file initial s → a.Sound file initial s' := by
  obtain ⟨current, reads⟩ := whole
  cases h with
  | openMissing pid _ => exact ⟨⟨current, reads⟩, by simp [CacheActivity.Sound], fun _ _ _ h => h⟩
  | openFound pid hlink =>
      rename_i inode
      refine ⟨⟨current, reads⟩, ?_, fun _ _ _ h => h⟩
      intro _ hmem
      obtain rfl := Multiset.mem_singleton.mp hmem
      refine ⟨fun pid' htemp => ?_, s.dir.bounded hlink, current inode hlink, List.nil_prefix⟩
      exact temporary_ne_file file pid' (s.dir.unshared htemp hlink)
  | readPiece size _ =>
      refine ⟨⟨current, reads⟩, ?_, fun _ _ _ h => h⟩
      intro _ hmem
      obtain rfl := Multiset.mem_singleton.mp hmem
      obtain ⟨hunlinked, hold, hwhole, hgot⟩ := sound _ (Multiset.mem_singleton_self _)
      refine ⟨hunlinked, hold, hwhole, ?_⟩
      obtain ⟨rest, hrest⟩ := hgot
      rw [← hrest, List.drop_left]
      exact (List.prefix_append_right_inj _).mpr (List.take_prefix _ _)
  | readEnd hend =>
      obtain ⟨_, _, hwhole, hgot⟩ := sound _ (Multiset.mem_singleton_self _)
      refine ⟨⟨current, ?_⟩, by simp [CacheActivity.Sound], fun _ _ _ h => h.mono fun _ h => h⟩
      intro data hdata
      cases List.mem_cons.mp hdata with
      | inl hread =>
          rw [hread, hgot.eq_of_length_le hend]
          exact hwhole
      | inr hbefore => exact reads data hbefore
  | readFail => exact ⟨⟨current, reads⟩, by simp [CacheActivity.Sound], fun _ _ _ h => h⟩
  | save driver hsave =>
      rename_i cache data
      have more : ∀ data' ∈ s.saves, data' ∈ data :: s.saves := fun _ => List.mem_cons_of_mem _
      refine ⟨⟨fun inode hlink => (current inode hlink).mono more, fun data' hdata =>
        (reads data' hdata).mono more⟩, ?_, fun _ _ _ h => h.mono more⟩
      simp [CacheActivity.Sound]
  | create hcreate =>
      rename_i cache data dir inode
      obtain ⟨only, kept⟩ := temporaryOnly_create hcreate
      refine ⟨only.whole kept ⟨current, reads⟩, ?_, fun a _ hleft h => only.undisturbed ?_ h⟩
      · intro _ hmem
        obtain rfl := Multiset.mem_singleton.mp hmem
        have hopened := s.dir.create_self (temporary file cache.pid)
        rw [hcreate] at hopened
        exact ⟨sound _ (Multiset.mem_singleton_self _), Nat.zero_le _, hopened⟩
      · exact fun hmem => Multiset.disjoint_left.mp hleft hmem (Multiset.mem_singleton_self _)
  | write size hsize =>
      rename_i cache data inode written
      obtain ⟨hsave, hwritten, hlink, hfile⟩ := sound _ (Multiset.mem_singleton_self _)
      have only := temporaryOnly_write hlink written ((data.drop written).take size)
      refine ⟨only.whole rfl ⟨current, reads⟩, ?_, fun a htaken _ h => only.undisturbed ?_ h⟩
      · intro _ hmem
        obtain rfl := Multiset.mem_singleton.mp hmem
        refine ⟨hsave, hsize, hlink, ?_⟩
        have hoffset : written = (data.take written).length := by simp [hwritten]
        rw [files_write_self, hfile, overwrite_end hoffset, List.take_add]
      · exact fun hmem => Multiset.disjoint_left.mp htaken hmem (Multiset.mem_singleton_self _)
  | close =>
      rename_i cache data inode
      refine ⟨⟨current, reads⟩, ?_, fun _ _ _ h => h⟩
      intro _ hmem
      obtain rfl := Multiset.mem_singleton.mp hmem
      obtain ⟨hsave, _, hlink, hfile⟩ := sound _ (Multiset.mem_singleton_self _)
      exact ⟨hsave, inode, hlink, hfile.trans List.take_length⟩
  | rename hrename =>
      rename_i cache data dir
      have only := temporaryOnly_rename hrename
      obtain ⟨inode, hlink, hlinks, hfiles, -⟩ := Directory.rename_eq_some hrename
      obtain ⟨hsave, inode', hlink', hdata⟩ := sound _ (Multiset.mem_singleton_self _)
      obtain rfl := Option.some.inj (hlink'.symm.trans hlink)
      have htarget : dir.links file = some inode' := by simp [hlinks]
      refine ⟨⟨fun inode hcurrent => ?_, reads⟩, by simp [CacheActivity.Sound],
        fun a htaken _ h => only.undisturbed ?_ h⟩
      · obtain rfl := Option.some.inj (htarget.symm.trans hcurrent)
        exact .inl (hfiles ▸ hdata ▸ hsave)
      · exact fun hmem => Multiset.disjoint_left.mp htaken hmem (Multiset.mem_singleton_self _)
  | fail _ => exact ⟨⟨current, reads⟩, by simp [CacheActivity.Sound], fun _ _ _ h => h⟩
  | gone => exact ⟨⟨current, reads⟩, by simp, fun _ _ _ h => h⟩

/-- A save opens its temporary last among those of its process: the others are renamed. -/
theorem Step.temporaries_nodup {c c' : CacheConfig} (step : CacheStep hash file c c')
    (kept : ¬ SharesTemporary c c') (hc : (c.held CacheActivity.temporaries).Nodup) :
    (c'.held CacheActivity.temporaries).Nodup := by
  obtain ⟨rest, h⟩ := step
  simp only [Config.held, Multiset.map_add, Multiset.sum_add] at hc ⊢
  have hrest := (Multiset.nodup_add.mp hc).2.1
  cases h with
  | create hcreate =>
      rename_i s cache data dir inode
      simp only [Multiset.map_singleton, Multiset.sum_singleton, CacheActivity.temporaries,
        Multiset.singleton_add, Multiset.nodup_cons]
      refine ⟨fun hmem => kept ?_, hrest⟩
      obtain ⟨other, hother, hpid⟩ := Multiset.mem_bind.mp hmem
      exact ⟨cache, data, inode, rest, by simp, by simp, other, hother, hpid⟩
  | write _ _ | close => simpa [CacheActivity.temporaries] using hc
  | openMissing _ _ | openFound _ _ | readPiece _ _ | readEnd _ | readFail | save _ _
  | rename _ | fail _ | gone => simpa [CacheActivity.temporaries] using hrest

/-- While no save opens the temporary that another save of its process still uses,
every read of the file returns the data of one save, or what it held at first. -/
theorem reads_are_whole {c : CacheConfig}
    (hc : Reachable (CacheStart initial)
      (fun c c' => CacheStep hash file c c' ∧ ¬ SharesTemporary c c') c) :
    WholeReads file initial c.shared := by
  have hwhole : (c.held CacheActivity.temporaries).Nodup ∧
      FolderWhole file initial c.shared ∧
      ∀ a ∈ c.running, a.Sound file initial c.shared := by
    refine hc.invariant (I := fun c => (c.held CacheActivity.temporaries).Nodup ∧
      FolderWhole file initial c.shared ∧
      ∀ a ∈ c.running, a.Sound file initial c.shared) ?_ ?_
    · intro c hstart
      subst hstart
      refine ⟨by simp [Config.held], ⟨fun inode hlink => .inr ⟨inode, hlink, rfl⟩, ?_⟩, ?_⟩
      · exact fun _ hmem => absurd hmem List.not_mem_nil
      · exact fun _ hmem => absurd hmem (Multiset.notMem_zero _)
    · intro c c' hc hstep
      obtain ⟨hapart, hs⟩ := hc
      obtain ⟨step, kept⟩ := hstep
      have hapart' := Step.temporaries_nodup step kept hapart
      exact ⟨hapart', step.keeps_claims cacheRule_whole hapart hapart' hs⟩
  exact hwhole.2.1.reads

end

/-! Two caches of process 1, both saving to a file `k` that does not exist. -/

/-- The temporary, complete, under the name the second save will open. -/
def writtenOnce : Directory FileName :=
  (Directory.empty.create (temporary ['k'] 1)).1.write 0 0 [1, 2]

theorem not_sharesTemporary {c c' : CacheConfig} (h : c.held CacheActivity.temporaries = 0) :
    ¬ SharesTemporary c c' := by
  intro hshares
  obtain ⟨cache, data, inode, others, hrunning, -, other, hother, hpid⟩ := hshares
  have hmem : cache.pid ∈ c.held CacheActivity.temporaries :=
    Multiset.mem_bind.mpr ⟨other, hrunning ▸ Multiset.mem_cons_of_mem hother, hpid⟩
  rw [h] at hmem
  exact Multiset.notMem_zero _ hmem

theorem not_sharesTemporary_of_no_opening {c c' : CacheConfig}
    (h : ∀ a ∈ c.running, ∀ cache data, a ≠ .opening cache data) : ¬ SharesTemporary c c' := by
  intro hshares
  obtain ⟨cache, data, inode, others, hrunning, -⟩ := hshares
  exact h _ (hrunning ▸ Multiset.mem_cons_self _ _) cache data rfl

theorem first_save_written :
    Reachable (CacheStart .empty)
      (fun c c' => CacheStep (fun _ => 0) ['k'] c c' ∧ ¬ SharesTemporary c c')
      ⟨⟨writtenOnce, [[1, 2]], []⟩,
        {.replacing ⟨1, none⟩ [1, 2]} + {.unlocked ⟨1, none⟩}⟩ := by
  have empty : Reachable (CacheStart .empty)
      (fun c c' => CacheStep (fun _ => 0) ['k'] c c' ∧ ¬ SharesTemporary c c')
      ⟨⟨.empty, [], []⟩, 0⟩ := .start rfl
  have one := empty.fire_meeting 0 (.openMissing 1 rfl) rfl (not_sharesTemporary rfl)
  have two := one.fire_meeting {.unlocked ⟨1, none⟩} (.openMissing 1 rfl) rfl
    (not_sharesTemporary rfl)
  have begun := two.fire_meeting {.unlocked ⟨1, none⟩} (.save (some [1, 2]) rfl) rfl
    (not_sharesTemporary rfl)
  have opened := begun.fire_meeting {.unlocked ⟨1, none⟩} (.create rfl) rfl
    (not_sharesTemporary rfl)
  have written := opened.fire_meeting {.unlocked ⟨1, none⟩} (.write 2 (by decide)) rfl
    (not_sharesTemporary_of_no_opening (by simp))
  exact written.fire_meeting {.unlocked ⟨1, none⟩} .close rfl
    (not_sharesTemporary_of_no_opening (by simp))

theorem reads_are_whole_after_one_save :
    ∃ s, s.reads = [[1, 2]] ∧ WholeReads ['k'] .empty s := by
  have renamed := first_save_written.fire_meeting {.unlocked ⟨1, none⟩} (.rename rfl) rfl
    (not_sharesTemporary_of_no_opening (by simp))
  have found := renamed.fire_meeting _ (.openFound 2 rfl) (zero_add _).symm
    (not_sharesTemporary_of_no_opening (by simp))
  have got := found.fire_meeting _ (.readPiece 2 (by decide)) rfl
    (not_sharesTemporary_of_no_opening (by simp))
  have done := got.fire_meeting _ (.readEnd (by decide)) rfl
    (not_sharesTemporary_of_no_opening (by simp))
  exact ⟨_, rfl, reads_are_whole done⟩

/-- The second save empties the temporary the first one is about to rename, and
writes half of its data into what is now the file. -/
theorem a_reader_can_see_half_a_file :
    ¬ ∀ (hash : Bytes → UInt64) (file : FileName) (initial : Directory FileName)
      (c : CacheConfig), Reachable (CacheStart initial) (CacheStep hash file) c →
      WholeReads file initial c.shared := by
  intro whole
  have first := first_save_written.mono fun _ _ h => h.1
  have begun := first.fire {.replacing ⟨1, none⟩ [1, 2]} (.save (some [3, 4]) rfl)
    (add_comm _ _)
  have opened := begun.fire {.replacing ⟨1, none⟩ [1, 2]} (.create rfl) rfl
  have written := opened.fire {.replacing ⟨1, none⟩ [1, 2]} (.write 1 (by decide)) rfl
  have renamed := written.fire _ (.rename rfl) (add_comm _ _)
  have found := renamed.fire _ (.openFound 2 rfl) (zero_add _).symm
  have got := found.fire _ (.readPiece 2 (by decide)) rfl
  have done := got.fire _ (.readEnd (by decide)) rfl
  have hread := whole _ _ _ _ done [3] List.mem_cons_self
  simp [Whole, Directory.empty] at hread

end GpuInfo
