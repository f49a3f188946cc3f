import ApiPages.Record

/-!
Binary names by their segments. The last segment is the class part and the others are the package,
so a name can be read off its package segments and its nested name as long as none of them hides a
dot. A class inside another one is in the same package, unless its own name leads out of it.
-/

namespace ApiPages

theorem dottedName_nestedName (name : BinaryName) :
    dottedName name.nestedName = name.nestedName := by
  have absent : '$' ∉ name.nestedName.toList := by
    rw [BinaryName.nestedName, String.toList_ofList]
    exact Text.not_mem_swap (by decide) _
  rw [dottedName, Text.swap_of_not_mem absent, String.ofList_toList]

theorem dottedName_append (name behind : String) :
    dottedName (name ++ behind) = dottedName name ++ dottedName behind := by
  rw [dottedName, String.toList_append, Text.swap_append, String.ofList_append]
  rfl

namespace BinaryName

def packagePath (name : BinaryName) : List (List Char) :=
  (Text.split '/' name.text.toList).dropLast

/-- A name that is read without doubt: no package segment is empty and nothing holds a dot. -/
structure Plain (name : BinaryName) : Prop where
  filled : [] ∉ name.packagePath
  undotted : '.' ∉ name.text.toList

theorem split_text (name : BinaryName) :
    Text.split '/' name.text.toList = name.packagePath ++ [name.parts.2] := by
  rw [packagePath, parts]
  cases cut : Text.splitLast? '/' name.text.toList with
  | none =>
    have segments := Text.split_of_not_mem (Text.splitLast?_eq_none_iff.1 cut)
    simp [segments]
  | some both =>
    obtain ⟨whole, absent⟩ := Text.eq_append_of_splitLast? cut
    simp [whole, Text.split_append_last absent]

theorem eq_of_segments {name other : BinaryName} (samePath : name.packagePath = other.packagePath)
    (sameClass : name.parts.2 = other.parts.2) : name = other := by
  have segments : Text.split '/' name.text.toList = Text.split '/' other.text.toList := by
    rw [split_text, split_text, samePath, sameClass]
  have texts : name.text.toList = other.text.toList := by
    rw [← Text.join_split '/' name.text.toList, segments, Text.join_split]
  have text : name.text = other.text := String.toList_inj.1 texts
  exact congrArg BinaryName.mk text

theorem parts_mem_split (name : BinaryName) : name.parts.2 ∈ Text.split '/' name.text.toList := by
  rw [split_text]
  exact List.mem_append_right _ (List.mem_singleton_self _)

theorem slash_not_mem_parts (name : BinaryName) : '/' ∉ name.parts.2 :=
  Text.not_mem_of_mem_split name.parts_mem_split

theorem slash_not_mem_package (name : BinaryName) : '/' ∉ name.package.toList := by
  rw [package, String.toList_ofList]
  exact Text.not_mem_swap (by decide) _

theorem slash_not_mem_nestedName (name : BinaryName) : '/' ∉ name.nestedName.toList := by
  intro member
  rw [nestedName, String.toList_ofList] at member
  exact name.slash_not_mem_parts (Text.mem_of_mem_swap member (by decide))

section

variable {name : BinaryName} (plain : name.Plain)
include plain

theorem Plain.dot_not_mem_parts : '.' ∉ name.parts.2 :=
  fun inside => plain.undotted (Text.mem_of_mem_split name.parts_mem_split inside)

theorem Plain.filter_split_package :
    ((Text.split '.' name.package.toList).filter fun segment => !segment.isEmpty) =
      name.packagePath := by
  have filled := plain.filled
  rw [package, String.toList_ofList, packagePath, parts] at *
  cases cut : Text.splitLast? '/' name.text.toList with
  | none =>
    have segments := Text.split_of_not_mem (Text.splitLast?_eq_none_iff.1 cut)
    simp [segments, Text.swap, Text.split]
  | some both =>
    obtain ⟨whole, absent⟩ := Text.eq_append_of_splitLast? cut
    have undotted : '.' ∉ both.1 := by
      intro inside
      exact plain.undotted (by simp [whole, inside])
    have segments : (Text.split '/' name.text.toList).dropLast = Text.split '/' both.1 := by
      simp [whole, Text.split_append_last absent]
    rw [segments] at filled ⊢
    rw [Option.getD_some, Text.split_swap undotted, List.filter_eq_self]
    intro segment member
    have some : segment ≠ [] := fun empty => filled (empty ▸ member)
    simpa using some

theorem Plain.parts_eq {other : BinaryName} (otherPlain : other.Plain)
    (same : name.nestedName = other.nestedName) : name.parts.2 = other.parts.2 := by
  have swapped : Text.swap '$' '.' name.parts.2 = Text.swap '$' '.' other.parts.2 := by
    simpa [nestedName] using congrArg String.toList same
  rw [← Text.swap_swap plain.dot_not_mem_parts, swapped,
    Text.swap_swap otherPlain.dot_not_mem_parts]

end

theorem package_inner (name : BinaryName) {inner : String} (plain : '/' ∉ inner.toList) :
    (name.inner inner).package = name.package := by
  have text : (name.inner inner).text.toList = name.text.toList ++ '$' :: inner.toList := by
    simp [BinaryName.inner, String.toList_append]
  have absent : '/' ∉ '$' :: inner.toList := by simp [plain]
  rw [package, package, parts, parts, text, Text.splitLast?_append absent]
  cases Text.splitLast? '/' name.text.toList <;> rfl

end BinaryName

end ApiPages
