import GpuInfo.Budget.Shares
import GpuInfo.Stats.Attribution
import GpuInfo.TextFields

/-!
The memory of the machine as `sys_mem_platform` in `src/os.rs` reads it from text: `/proc/meminfo`
on Linux, what `sysctl` and `vm_stat` print on macOS. What the system prints is read back, and
`ram_budget` of `src/budget.rs` is a share of it. A text is its characters.
-/

namespace GpuInfo
open MachineInteger TextFields

/-- `str::parse` of a `u64` -/
def parseU64 (text : List Char) : Option Nat := parseDecimal u64Max text

/-! Linux -/

/-- `macos_sysctl_memsize`, of what `sysctl` prints if it succeeds. -/
def macosSysctlMemsize (stdout : Option (List Char)) : Option Nat :=
  stdout.bind fun text => parseU64 (trim text)

def pageSizeMark : List Char := "page size of ".toList

/-- The size of a page, in the first line. -/
def pageSize (first : List Char) : Option Nat :=
  parseU64 (((afterLast pageSizeMark first).getD first).rdropWhile fun c => !c.isDigit)

structure VmPages where
  free : Nat
  inactive : Nat
  speculative : Nat
  deriving DecidableEq, Repr

def pagesFree : List Char := "Pages free".toList

def pagesInactive : List Char := "Pages inactive".toList

def pagesSpeculative : List Char := "Pages speculative".toList

def parsePages (text : List Char) : Nat := (parseU64 (trim text)).getD 0

/-- `line.trim().trim_end_matches('.')` -/
def vmStatTrimmed (line : List Char) : List Char := (trim line).rdropWhile (· == '.')

def vmStatLine (found : VmPages) (line : List Char) : VmPages :=
  match stripPrefix (pagesFree ++ [':']) (vmStatTrimmed line) with
  | some rest => { found with free := parsePages rest }
  | none =>
      match stripPrefix (pagesInactive ++ [':']) (vmStatTrimmed line) with
      | some rest => { found with inactive := parsePages rest }
      | none =>
          match stripPrefix (pagesSpeculative ++ [':']) (vmStatTrimmed line) with
          | some rest => { found with speculative := parsePages rest }
          | none => found

/-- `macos_vm_stat_free`, of what `vm_stat` prints if it succeeds. -/
def macosVmStatFree (build : Build) (stdout : Option (List Char)) : Except Fault (Option Nat) :=
  match stdout with
  | none => .ok none
  | some text =>
      match lines text with
      | [] => .ok none
      | first :: rest =>
          match pageSize first with
          | none => .ok none
          | some size => do
              let pages := rest.foldl vmStatLine ⟨0, 0, 0⟩
              let count ← build.add pages.free pages.inactive
              let count ← build.add count pages.speculative
              let bytes ← build.mul count size
              return some bytes

/-- `sys_mem_platform` on macOS -/
def macosSysMem (build : Build) (sysctl vmStat : Option (List Char)) :
    Except Fault (Option SysMem) :=
  match macosSysctlMemsize sysctl with
  | none => .ok none
  | some total => do
      let free ← macosVmStatFree build vmStat
      return some ⟨total, free.getD 0⟩

/-! What the systems print -/

/-- A name, and a number that is set off by spaces. -/
structure Line where
  name : List Char
  padding : Nat
  value : Nat
  ending : List Char

def Line.number (line : Line) : List Char :=
  List.replicate line.padding ' ' ++ Nat.toDigits 10 line.value

def Line.print (line : Line) : List Char := line.name ++ ':' :: (line.number ++ line.ending)

structure Line.WellFormed (line : Line) : Prop where
  name : ':' ∉ line.name
  inline : Inline line.name
  range : line.value ≤ u64Max

structure Line.VmStat (line : Line) : Prop extends line.WellFormed where
  first : ∀ c ∈ line.name.head?, ¬ isWhitespace c
  ending : line.ending = ['.']

def vmStatHeader (size : Nat) : List Char :=
  "Mach Virtual Memory Statistics: (".toList ++ pageSizeMark ++
    (Nat.toDigits 10 size ++ " bytes)".toList)

def vmStat (size : Nat) (all : List Line) : List Char :=
  unlines (vmStatHeader size :: all.map Line.print)

/-- The number of the last line of that name. -/
def numberOf (all : List Line) (name : List Char) : Nat := valueOf Line.name Line.value 0 all name

/-! Digits -/

theorem isDigit_of_toDigits {value : Nat} {c : Char} (h : c ∈ Nat.toDigits 10 value) :
    c.isDigit :=
  Nat.isDigit_of_mem_toDigits (by decide) (by decide) h

theorem digit_not_space {c : Char} (h : c.isDigit) : ¬ isWhitespace c := by
  have digit : 48 ≤ c.toNat ∧ c.toNat ≤ 57 := by
    simpa [Char.isDigit, UInt32.le_iff_toNat_le] using h
  simp [isWhitespace]
  omega

theorem number_last {line : Line} : ∀ c ∈ line.number.getLast?, c.isDigit := by
  intro c hc
  rw [Line.number, List.getLast?_append_of_ne_nil _ Nat.toDigits_ne_nil] at hc
  exact isDigit_of_toDigits (List.mem_of_mem_getLast? hc)

theorem number_ne_nil (line : Line) : line.number ≠ [] := by
  simp [Line.number, Nat.toDigits_ne_nil]

theorem parse_digits {value : Nat} (h : value ≤ u64Max) :
    parseU64 (Nat.toDigits 10 value) = some value := by
  rw [parseU64, parseDecimal_toDigits, if_pos h]

/-- A word between spaces; neither its first character nor its last is one. -/
theorem trim_spaced {word : List Char} (padding after : Nat)
    (hfirst : ∀ c ∈ word.head?, ¬ isWhitespace c) (hlast : ∀ c ∈ word.getLast?, ¬ isWhitespace c) :
    trim (List.replicate padding ' ' ++ word ++ List.replicate after ' ') = word := by
  have spaces : ∀ (count : Nat), ∀ c ∈ List.replicate count ' ', isWhitespace c := by
    intro count c hc
    rw [List.eq_of_mem_replicate hc]
    decide
  exact trimBy_padded (spaces padding) (spaces after) hfirst hlast

/-- A name that fills its line. -/
structure IsName (name : List Char) : Prop where
  inline : Inline name
  first : ∃ c rest, name = c :: rest ∧ ¬ isWhitespace c
  last : ∀ c ∈ name.getLast?, ¬ isWhitespace c

theorem IsName.head {name : List Char} (h : IsName name) : ∀ c ∈ name.head?, ¬ isWhitespace c := by
  obtain ⟨c, rest, rfl, hfirst⟩ := h.first
  rintro d ⟨⟩
  exact hfirst

theorem trim_digits (padding after value : Nat) :
    trim (List.replicate padding ' ' ++ Nat.toDigits 10 value ++ List.replicate after ' ') =
      Nat.toDigits 10 value := by
  apply trim_spaced
  · exact fun c hc => digit_not_space (isDigit_of_toDigits (List.mem_of_mem_head? hc))
  · exact fun c hc => digit_not_space (isDigit_of_toDigits (List.mem_of_mem_getLast? hc))

/-- A number on a line of its own. -/
def printed (value : Nat) : List Char := Nat.toDigits 10 value ++ ['\n']

theorem trim_printed (value : Nat) : trim (printed value) = Nat.toDigits 10 value := by
  refine @trimBy_padded isWhitespace [] (Nat.toDigits 10 value) ['\n'] (by simp) (by decide)
    (fun c hc => ?_) fun c hc => ?_
  · exact digit_not_space (isDigit_of_toDigits (List.mem_of_mem_head? hc))
  · exact digit_not_space (isDigit_of_toDigits (List.mem_of_mem_getLast? hc))

theorem trim_number (line : Line) : trim line.number = Nat.toDigits 10 line.value := by
  have trimmed := trim_digits line.padding 0 line.value
  rwa [List.replicate_zero, List.append_nil] at trimmed

/-! Lines -/

theorem inline_digits (value : Nat) : Inline (Nat.toDigits 10 value) := by
  intro c hc
  have digit := isDigit_of_toDigits hc
  constructor <;> (rintro rfl; exact absurd digit (by decide))

theorem inline_spaces (count : Nat) : Inline (List.replicate count ' ') := by
  intro c hc
  rw [List.eq_of_mem_replicate hc]
  decide

theorem print_inline {line : Line} (h : line.WellFormed) (ending : Inline line.ending) :
    Inline line.print := by
  have mark : Inline [':'] := by decide
  have whole := h.inline.append
    (mark.append (((inline_spaces line.padding).append (inline_digits line.value)).append ending))
  rwa [List.singleton_append] at whole

/-! `/proc/meminfo` -/

theorem parsePages_number {line : Line} (h : line.WellFormed) :
    parsePages line.number = line.value := by
  rw [parsePages, trim_number, parse_digits h.range, Option.getD_some]

theorem vmStatTrimmed_print {line : Line} (h : line.VmStat) :
    vmStatTrimmed line.print = line.name ++ ':' :: line.number := by
  have split : line.print = (line.name ++ ':' :: line.number) ++ ['.'] := by
    rw [Line.print, h.ending, List.append_assoc, List.cons_append]
  have whole : trim line.print = line.print := by
    have spaced : trim (List.replicate 0 ' ' ++ line.print ++ List.replicate 0 ' ') =
        line.print := trim_spaced 0 0 ?_ ?_
    · simpa using spaced
    · intro c hc
      rw [Line.print] at hc
      cases hname : line.name with
      | nil =>
          rw [hname] at hc
          cases hc
          decide
      | cons d name =>
          rw [hname] at hc
          exact h.first c (by rw [hname]; exact hc)
    · rw [split, List.getLast?_concat]
      intro c hc
      cases hc
      decide
  rw [vmStatTrimmed, whole, split, rdropWhile_append (by decide)]
  apply rdropWhile_of_last
  intro c hc hdot
  rw [List.append_cons, List.getLast?_append_of_ne_nil _ (number_ne_nil line)] at hc
  have digit := number_last c hc
  rw [eq_of_beq hdot] at digit
  exact absurd digit (by decide)

theorem pageSize_header {size : Nat} (h : size ≤ u64Max) :
    pageSize (vmStatHeader size) = some size := by
  have mark : afterLast pageSizeMark (vmStatHeader size) =
      some (Nat.toDigits 10 size ++ " bytes)".toList) := by
    refine afterLast_mark (show 'p' ∉ "age size of ".toList by decide) (fun hmem => ?_) _
    cases List.mem_append.mp hmem with
    | inl hdigit => exact absurd (isDigit_of_toDigits hdigit) (by decide)
    | inr hunit => exact absurd hunit (by decide)
  have word : (Nat.toDigits 10 size ++ " bytes)".toList).rdropWhile (fun c => !c.isDigit) =
      Nat.toDigits 10 size := by
    rw [rdropWhile_append (by decide)]
    apply rdropWhile_of_last
    intro c hc
    simp [isDigit_of_toDigits (List.mem_of_mem_getLast? hc)]
  rw [pageSize, mark, Option.getD_some, word, parse_digits h]

theorem vmStat_fold {all : List Line} (h : ∀ line ∈ all, line.VmStat) (found : VmPages) :
    (all.map Line.print).foldl vmStatLine found =
      let fields := all.map fun line => line.name ++ ':' :: line.number
      ⟨lastOf parsePages (pagesFree ++ [':']) found.free fields,
        lastOf parsePages (pagesInactive ++ [':']) found.inactive fields,
        lastOf parsePages (pagesSpeculative ++ [':']) found.speculative fields⟩ := by
  induction all generalizing found with
  | nil => rfl
  | cons line all ih =>
      have rest := ih fun other hother => h other (List.mem_cons_of_mem line hother)
      simp only [List.map_cons, List.foldl_cons, lastOf] at rest ⊢
      rw [rest, vmStatLine, vmStatTrimmed_print (h line List.mem_cons_self)]
      cases hfree : stripPrefix (pagesFree ++ [':']) (line.name ++ ':' :: line.number) with
      | some text =>
          rw [stripPrefix_other (by decide) (by decide) hfree,
            stripPrefix_other (by decide) (by decide) hfree]
          rfl
      | none =>
          cases hinactive : stripPrefix (pagesInactive ++ [':'])
              (line.name ++ ':' :: line.number) with
          | some text =>
              rw [stripPrefix_other (by decide) (by decide) hinactive]
              rfl
          | none =>
              cases stripPrefix (pagesSpeculative ++ [':']) (line.name ++ ':' :: line.number) with
              | some text => rfl
              | none => rfl

theorem vmStat_number {all : List Line} (h : ∀ line ∈ all, line.VmStat) {name : List Char}
    (hname : ':' ∉ name) :
    lastOf parsePages (name ++ [':']) 0 (all.map fun line => line.name ++ ':' :: line.number) =
      numberOf all name :=
  lastOf_named 0 hname (fun line hline => (h line hline).name)
    fun line hline => parsePages_number (h line hline).toWellFormed

theorem vmStatHeader_inline (size : Nat) : Inline (vmStatHeader size) := by
  have start : Inline ("Mach Virtual Memory Statistics: (".toList ++ pageSizeMark) := by
    decide
  have unit : Inline " bytes)".toList := by
    decide
  exact start.append ((inline_digits size).append unit)

theorem lines_vmStat (size : Nat) {all : List Line} (h : ∀ line ∈ all, line.VmStat) :
    lines (vmStat size all) = vmStatHeader size :: all.map Line.print := by
  apply lines_unlines
  intro line hline
  cases List.mem_cons.mp hline with
  | inl heq => exact heq ▸ vmStatHeader_inline size
  | inr hmem =>
      obtain ⟨entry, hentry, rfl⟩ := List.mem_map.mp hmem
      apply print_inline (h entry hentry).toWellFormed
      rw [(h entry hentry).ending]
      decide

/-- The pages that can be had: of three kinds. -/
def vmStatPages (all : List Line) : Nat :=
  numberOf all pagesFree + numberOf all pagesInactive + numberOf all pagesSpeculative

theorem macosVmStatFree_vmStat (build : Build) {size : Nat} {all : List Line}
    (h : ∀ line ∈ all, line.VmStat) (hsize : size ≤ u64Max) (pages : vmStatPages all ≤ u64Max)
    (fits : vmStatPages all * size ≤ u64Max) :
    macosVmStatFree build (some (vmStat size all)) = .ok (some (vmStatPages all * size)) := by
  simp only [macosVmStatFree, lines_vmStat size h, pageSize_header hsize, vmStat_fold h,
    vmStat_number h (show ':' ∉ pagesFree by decide),
    vmStat_number h (show ':' ∉ pagesInactive by decide),
    vmStat_number h (show ':' ∉ pagesSpeculative by decide)]
  unfold vmStatPages at pages fits ⊢
  rw [Build.add_of_le (by omega), ok_bind, Build.add_of_le pages, ok_bind, Build.mul_of_le fits,
    ok_bind]
  rfl

theorem macosSysctlMemsize_printed {total : Nat} (h : total ≤ u64Max) :
    macosSysctlMemsize (some (printed total)) = some total := by
  rw [macosSysctlMemsize, Option.bind_some, trim_printed, parse_digits h]

/-- The RAM budget on macOS is the share of what `sysctl` prints and of the pages that `vm_stat`
counts, whatever else it counts. -/
theorem ram_budget_of_vm_stat (build : Build) {total size : Nat} {all : List Line}
    (h : ∀ line ∈ all, line.VmStat) (htotal : total ≤ u64Max) (hsize : size ≤ u64Max)
    (pages : vmStatPages all ≤ u64Max) (fits : vmStatPages all * size ≤ u64Max) (policy : Policy)
    (fraction : UInt64) (reserve : Nat) :
    let available := vmStatPages all * size
    let budget := ramBudgetFrom total available policy fraction reserve
    ∃ sysMem, macosSysMem build (some (printed total)) (some (vmStat size all)) = .ok sysMem ∧
      ramBudgetOr none sysMem policy fraction reserve = .ok budget ∧
      budget ≤ policy.cap total available reserve := by
  intro available budget
  refine ⟨some ⟨total, available⟩, ?_, rfl,
    ramBudgetFrom_le_cap htotal fits policy fraction reserve⟩
  simp only [macosSysMem, macosSysctlMemsize_printed htotal,
    macosVmStatFree_vmStat build h hsize pages fits]
  rfl

/-- A machine with 16 GiB and pages of 16 KiB. -/
theorem ram_budget_of_vm_stat_pages :
    let all : List Line := [⟨pagesFree, 31, 123456, ['.']⟩,
      ⟨"Pages active".toList, 29, 234567, ['.']⟩,
      ⟨pagesInactive, 28, 34567, ['.']⟩]
    let available := vmStatPages all * 16384
    let budget := ramBudgetFrom 17179869184 available .min 0x3FE0000000000000 0
    ∃ sysMem, macosSysMem .release (some (printed 17179869184))
        (some (vmStat 16384 all)) = .ok sysMem ∧
      ramBudgetOr none sysMem .min 0x3FE0000000000000 0 = .ok budget ∧
      budget ≤ Policy.min.cap 17179869184 available 0 := by
  refine ram_budget_of_vm_stat .release (fun line hline => ?_) (by decide) (by decide)
    (by decide +kernel) (by decide +kernel) .min 0x3FE0000000000000 0
  simp only [List.mem_cons, List.not_mem_nil, or_false] at hline
  obtain rfl | rfl | rfl := hline
  all_goals exact ⟨⟨by decide, by decide, by decide⟩, by decide, by decide⟩

end GpuInfo
