import ApiPages.Proofs.Files.Written
import Mathlib.Data.List.Pairwise

/-!
The files of a tree by the places where they stand. In a tree whose directories have children of
distinct names every file is found once, and of two files the one is found first whose path comes
first, name by name, in the order of bytes.
-/

namespace ApiPages

/-- The order of places: names are compared by their bytes, the outermost first. -/
def Place.Precedes (place other : Place) : Prop := place < other

theorem Place.precedes_cons_iff {name : FileName} {place other : Place} :
    Precedes (name :: place) (name :: other) ↔ place.Precedes other := by
  simp [Precedes]

theorem Place.precedes_of_lt {name other : FileName} (less : name < other) (place rest : Place) :
    Precedes (name :: place) (other :: rest) :=
  .rel less

namespace FileTree

open Named (find? find?_eq_some_iff)

def NamesDistinct (tree : FileTree) : Prop :=
  ∀ place children, tree.at? place = some (.directory children) → (children.map Prod.fst).Nodup

theorem NamesDistinct.at? {tree inner : FileTree} (distinct : tree.NamesDistinct) {place : Place}
    (standing : tree.at? place = some inner) : inner.NamesDistinct := by
  intro behind children found
  refine distinct (place ++ behind) children ?_
  rw [at?_append, standing]
  exact found

theorem NamesDistinct.child {name : FileName} {child : FileTree}
    {children : List (FileName × FileTree)} (distinct : (directory children).NamesDistinct)
    (member : (name, child) ∈ children) :
    child.NamesDistinct := by
  have found : find? name children = some child :=
    (find?_eq_some_iff (distinct [] children rfl)).2 member
  have standing : (directory children).at? [name] = some child := by
    simp [FileTree.at?, child?, found]
  exact distinct.at? standing

theorem namesDistinct_directory_iff {children : List (FileName × FileTree)} :
    (directory children).NamesDistinct ↔
      (children.map Prod.fst).Nodup ∧ ∀ child ∈ children, child.2.NamesDistinct := by
  constructor
  · intro distinct
    exact ⟨distinct [] children rfl, fun _ member => distinct.child member⟩
  · rintro ⟨names, inner⟩ (_ | ⟨name, place⟩) others standing
    · cases standing
      exact names
    · obtain ⟨child, found, below⟩ := Option.bind_eq_some_iff.1 standing
      exact inner _ ((find?_eq_some_iff names).1 found) place others below

theorem namesDistinct_empty : empty.NamesDistinct :=
  namesDistinct_directory_iff.2 (by simp)

theorem NamesDistinct.put {tree value : FileTree} (distinct : tree.NamesDistinct)
    (valueDistinct : value.NamesDistinct) (place : Place) :
    (tree.put place value).NamesDistinct := by
  induction place generalizing tree with
  | nil =>
    rw [FileTree.put]
    exact valueDistinct
  | cons name rest ih =>
    cases tree with
    | directory children =>
      obtain ⟨names, inner⟩ := namesDistinct_directory_iff.1 distinct
      have new : ((find? name children).getD empty).NamesDistinct := by
        cases found : find? name children with
        | none => exact namesDistinct_empty
        | some child => exact inner _ ((find?_eq_some_iff names).1 found)
      refine namesDistinct_directory_iff.2 ⟨Named.nodup_set names _ _, fun child member => ?_⟩
      rcases Named.mem_set member with rfl | old
      · exact ih new
      · exact inner child old
    | file | link =>
      refine namesDistinct_directory_iff.2 ⟨by simp, ?_⟩
      simpa using ih namesDistinct_empty

theorem filesOfChildren_eq_map (children : List (FileName × FileTree)) :
    filesOfChildren children = children.map fun (name, tree) => (name, tree.files) := by
  induction children with
  | nil => rfl
  | cons child rest ih => rw [filesOfChildren, ih, List.map_cons]

mutual

theorem files_pairwise : (tree : FileTree) → tree.NamesDistinct →
    tree.files.Pairwise fun found later => found.path.Precedes later.path
  | .file _, _ => by simp [files]
  | .link _, _ => by simp [files]
  | .directory children, distinct => by
    have inner := filesOfChildren_pairwise children fun name child member =>
      distinct.child member
    have names : ((filesOfChildren children).map Prod.fst).Nodup := by
      rw [filesOfChildren_eq_map, List.map_map]
      exact distinct [] children rfl
    -- Files below one child are ordered among themselves, and those of two children by the names.
    rw [files, List.pairwise_flatMap]
    refine ⟨fun (name, found) member => ?_, (Text.inNameOrder_strict names).imp ?_⟩
    · rw [List.pairwise_map]
      exact (inner _ ((Text.inNameOrder_perm _).mem_iff.1 member)).imp Place.precedes_cons_iff.2
    · rintro ⟨name, found⟩ ⟨other, later⟩ less _ member _ otherMember
      obtain ⟨first, -, rfl⟩ := List.mem_map.1 member
      obtain ⟨second, -, rfl⟩ := List.mem_map.1 otherMember
      exact Place.precedes_of_lt less first.path second.path

theorem filesOfChildren_pairwise : (children : List (FileName × FileTree)) →
    (∀ name child, (name, child) ∈ children → child.NamesDistinct) →
    ∀ item ∈ filesOfChildren children,
      item.2.Pairwise fun found later => found.path.Precedes later.path
  | [], _ => by simp [filesOfChildren]
  | (name, tree) :: rest, distinct => by
    rw [filesOfChildren, List.forall_mem_cons]
    exact ⟨files_pairwise tree (distinct name tree List.mem_cons_self),
      filesOfChildren_pairwise rest fun _ _ member =>
        distinct _ _ (List.mem_cons_of_mem _ member)⟩

end

end FileTree

end ApiPages
