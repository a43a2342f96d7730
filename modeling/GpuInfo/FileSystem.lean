import Mathlib.Data.Finset.Attr
import Mathlib.Logic.Function.Basic

/-!
One directory of a POSIX file system: names link to files, and whoever has a file
open keeps referring to it whatever becomes of its name. A write replaces the bytes
from its offset on and fills a gap before it with zeros. Nothing is said about
durability: what was written is what a read sees.
-/

namespace FileSystem

abbrev Bytes := List UInt8

/-- The links of a directory and the bytes of each file by its inode; `next` is
above every inode in use. No file has two names. -/
structure Directory (Name : Type) where
  links : Name → Option Nat
  files : Nat → Bytes
  next : Nat
  bounded : ∀ {name inode}, links name = some inode → inode < next
  unshared : ∀ {name name' inode}, links name = some inode → links name' = some inode →
    name = name'

/-- A write of `piece` at `offset`. -/
def overwrite (bytes : Bytes) (offset : Nat) (piece : Bytes) : Bytes :=
  bytes.take offset ++ List.replicate (offset - bytes.length) 0 ++ piece ++
    bytes.drop (offset + piece.length)

theorem overwrite_end {bytes : Bytes} {offset : Nat} (h : offset = bytes.length)
    (piece : Bytes) : overwrite bytes offset piece = bytes ++ piece := by
  simp [overwrite, h]

namespace Directory
variable {Name : Type} (d : Directory Name)

def empty : Directory Name where
  links _ := none
  files _ := []
  next := 0
  bounded := nofun
  unshared := nofun

def setFile (inode : Nat) (bytes : Bytes) : Directory Name where
  links := d.links
  files := Function.update d.files inode bytes
  next := d.next
  bounded := d.bounded
  unshared := d.unshared

def write (inode offset : Nat) (piece : Bytes) : Directory Name :=
  d.setFile inode (overwrite (d.files inode) offset piece)

@[simp] theorem links_write (inode offset : Nat) (piece : Bytes) :
    (d.write inode offset piece).links = d.links := rfl

@[simp] theorem files_write_self (inode offset : Nat) (piece : Bytes) :
    (d.write inode offset piece).files inode = overwrite (d.files inode) offset piece := by
  simp [write, setFile]

theorem files_write_of_ne {inode inode' : Nat} (h : inode' ≠ inode) (offset : Nat)
    (piece : Bytes) : (d.write inode offset piece).files inode' = d.files inode' := by
  simp [write, setFile, h]

@[simp] theorem next_write (inode offset : Nat) (piece : Bytes) :
    (d.write inode offset piece).next = d.next := rfl

variable [DecidableEq Name]

/-- A new empty file under a name that has none. -/
def link (name : Name) : Directory Name where
  links := Function.update d.links name (some d.next)
  files := Function.update d.files d.next []
  next := d.next + 1
  bounded := by
    intro name' inode h
    rw [Function.update_apply] at h
    split at h
    · cases h
      omega
    · exact Nat.lt_succ_of_lt (d.bounded h)
  unshared := by
    intro a b inode ha hb
    rw [Function.update_apply] at ha hb
    split at ha <;> split at hb
    · simp_all
    · cases ha
      exact absurd (d.bounded hb) (Nat.lt_irrefl _)
    · cases hb
      exact absurd (d.bounded ha) (Nat.lt_irrefl _)
    · exact d.unshared ha hb

/-- Open for writing, created if it does not exist and emptied if it does. -/
def create (name : Name) : Directory Name × Nat :=
  match d.links name with
  | some inode => (d.setFile inode [], inode)
  | none => (d.link name, d.next)

/-- `inode`, which is at `source`, moves to `target`; what had that name loses it. -/
def move {source : Name} {inode : Nat} (h : d.links source = some inode) (target : Name) :
    Directory Name where
  links := Function.update (Function.update d.links source none) target (some inode)
  files := d.files
  next := d.next
  bounded := by
    intro name inode' hname
    simp only [Function.update_apply] at hname
    split at hname
    · cases hname
      exact d.bounded h
    · split at hname
      · cases hname
      · exact d.bounded hname
  unshared := by
    intro a b inode' ha hb
    have other : ∀ {name}, (if name = source then none else d.links name) ≠ some inode := by
      intro name hname
      split at hname
      · cases hname
      · rename_i hne
        exact hne (d.unshared hname h)
    simp only [Function.update_apply] at ha hb
    split at ha <;> split at hb
    · simp_all
    · cases ha
      exact absurd hb other
    · cases hb
      exact absurd ha other
    · split at ha <;> split at hb <;> first | cases ha | cases hb | exact d.unshared ha hb

def rename (source target : Name) : Option (Directory Name) :=
  match h : d.links source with
  | none => none
  | some _ => some (d.move h target)

theorem create_self (name : Name) :
    (d.create name).1.links name = some (d.create name).2 ∧
    (d.create name).1.files (d.create name).2 = [] := by
  unfold create
  split
  · rename_i inode h
    exact ⟨h, by simp [setFile]⟩
  · simp [link]

theorem links_create_of_ne {name name' : Name} (h : name' ≠ name) :
    (d.create name).1.links name' = d.links name' := by
  unfold create
  split
  · rfl
  · simp [link, h]

/-- Opening a name leaves every file alone that it does not link to. -/
theorem files_create_of_ne {name : Name} {inode : Nat} (old : inode < d.next)
    (h : d.links name ≠ some inode) :
    (d.create name).1.files inode = d.files inode := by
  unfold create
  split
  · rename_i inode' hlink
    have hne : inode ≠ inode' := by
      intro heq
      subst heq
      exact h hlink
    simp [setFile, hne]
  · simp [link, Nat.ne_of_lt old]

theorem next_le_create (name : Name) : d.next ≤ (d.create name).1.next := by
  unfold create
  split
  · exact Nat.le_refl _
  · exact Nat.le_succ _

/-- An open file that a name does not link to is not the one it is opened as. -/
theorem create_ne {name : Name} {inode : Nat} (old : inode < d.next)
    (h : d.links name ≠ some inode) : (d.create name).2 ≠ inode := by
  unfold create
  split
  · rename_i inode' hlink
    intro heq
    subst heq
    exact h hlink
  · exact (Nat.ne_of_lt old).symm

variable {d} {d' : Directory Name} {source target : Name}

/-- What a rename does to the links; the files stay as they are. -/
theorem rename_eq_some (h : d.rename source target = some d') :
    ∃ inode, d.links source = some inode ∧
      d'.links = Function.update (Function.update d.links source none) target (some inode) ∧
      d'.files = d.files ∧ d'.next = d.next := by
  unfold rename at h
  split at h
  · cases h
  · rename_i inode hlink
    obtain rfl := Option.some.inj h
    exact ⟨inode, hlink, rfl, rfl, rfl⟩

end Directory
end FileSystem
