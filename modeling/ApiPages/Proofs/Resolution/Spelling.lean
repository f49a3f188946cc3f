import ApiPages.Proofs.Name.Binary
import ApiPages.Proofs.Query.Faults
import ApiPages.Proofs.Resolution.Answers

/-!
Two spellings of a class name. Queries may write a dollar sign where a nested name has a dot, so
names that agree once dots are written find the same entries. Main statement: they are answered
alike, with the same page or the same choice, and only a text that repeats the name shows which
spelling was asked for. The label of a member is taken from the index and does not repeat it.
-/

namespace ApiPages

/-- Texts that agree once dots are written for dollar signs. -/
def SameDotted (text other : String) : Prop := dottedName text = dottedName other

theorem SameDotted.append {text other behind otherBehind : String} (same : SameDotted text other)
    (sameBehind : SameDotted behind otherBehind) :
    SameDotted (text ++ behind) (other ++ otherBehind) := by
  rw [SameDotted, dottedName_append, dottedName_append, same, sameBehind]

theorem SameDotted.length_eq {text other : String} (same : SameDotted text other) :
    text.toList.length = other.toList.length := by
  have lengths := congrArg (fun dotted : String => dotted.toList.length) same
  simpa [dottedName] using lengths

/-- Why no query with some identifier and flag text is looked up. -/
inductive Query.Refusal (identifier : String) (flagText : List Char) : ResolutionError → Prop
  | noIdentifier (absent : identifier = "") : Refusal identifier flagText .emptyIdentifier
  | unknownKind {unknown : List Char} (named : identifier ≠ "")
      (asked : AsksForUnknown flagText.tail unknown) :
      Refusal identifier flagText (.unknownKind (String.ofList unknown))

/-- Answers that agree but for the spelling of names that they repeat. What is refused on either
side, and when labels agree, are parameters. -/
inductive Respelled (refusal : ResolutionError → Prop) (agree : String → String → Prop) :
    Except ResolutionError Link → Except ResolutionError Link → Prop
  | page {label otherLabel : String} (url : String) (labels : agree label otherLabel) :
      Respelled refusal agree (.ok ⟨label, url⟩) (.ok ⟨otherLabel, url⟩)
  | missing {reason otherReason : String} (reasons : SameDotted reason otherReason) :
      Respelled refusal agree (.error (.notFound reason)) (.error (.notFound otherReason))
  | choice {identifier other : String} (candidates : List String)
      (identifiers : SameDotted identifier other) :
      Respelled refusal agree (.error (.ambiguous identifier candidates))
        (.error (.ambiguous other candidates))
  | refused {error : ResolutionError} (atFault : refusal error) :
      Respelled refusal agree (.error error) (.error error)

structure IsClassName (name : String) : Prop where
  noSmallLetter : ¬name.toList.head?.any Text.isLower
  unbroken : ¬name.toList.any Text.isBlank
  plain : '#' ∉ name.toList

theorem Index.find_eq_of_sameDotted (index : Index) {name other : String}
    (same : SameDotted name other) : index.find name = index.find other := by
  rw [find, find, same]

theorem Candidates.single_respelled (refusal : ResolutionError → Prop) (candidates : Candidates)
    {identifier other : String} (identifiers : SameDotted identifier other)
    {notFound otherNotFound : String} (reasons : SameDotted notFound otherNotFound) :
    Respelled refusal Eq (candidates.single identifier notFound)
      (candidates.single other otherNotFound) := by
  match candidates with
  | ⟨[]⟩ => exact .missing reasons
  | ⟨[only]⟩ => exact .page only.link.url rfl
  | ⟨_ :: _ :: _⟩ => exact .choice _ identifiers

namespace Documentation

section

variable (documentation : Documentation) {name other : String} (same : SameDotted name other)
  (refusal : ResolutionError → Prop)
include same

theorem notIndexed_respelled (agree : String → String → Prop) :
    Respelled refusal agree (.error (notIndexed name)) (.error (notIndexed other)) :=
  .missing ((SameDotted.append rfl same).append rfl)

theorem resolveClass_respelled :
    Respelled refusal SameDotted (documentation.resolveClass name)
      (documentation.resolveClass other) := by
  rw [resolveClass, resolveClass, documentation.index.find_eq_of_sameDotted same]
  cases documentation.index.find other with
  | nil => exact notIndexed_respelled same refusal _
  | cons entry rest =>
    cases rest with
    | cons second others => exact .choice _ same
    | nil =>
      dsimp only
      cases entry.class? with
      | none => exact .missing rfl
      | some indexed =>
        refine .page _ ?_
        rw [classLabel, classLabel]
        split
        · exact .append rfl same
        · exact same

theorem resolveMember_respelled (kinds : KindSet) {member : String}
    (plain : '#' ∉ name.toList) (otherPlain : '#' ∉ other.toList)
    (plainMember : '#' ∉ member.toList) :
    Respelled refusal Eq (documentation.resolveMember ⟨name ++ "#" ++ member, kinds⟩)
      (documentation.resolveMember ⟨other ++ "#" ++ member, kinds⟩) := by
  rw [resolveMember_mk_of_split _ kinds (splitMember?_append plain plainMember),
    resolveMember_mk_of_split _ kinds (splitMember?_append otherPlain plainMember),
    documentation.index.find_eq_of_sameDotted same]
  split
  · exact notIndexed_respelled same refusal _
  · have identifiers : SameDotted (name ++ "#" ++ member) (other ++ "#" ++ member) :=
      (same.append rfl).append rfl
    have reasons : SameDotted (noSuchMember name member) (noSuchMember other member) :=
      (SameDotted.append rfl same).append rfl
    exact Candidates.single_respelled refusal _ identifiers reasons

end

theorem answer_of_flagText (documentation : Documentation) {identifier flagText : String}
    (unbroken : ¬identifier.toList.any Text.isBlank)
    (apart : Query.IsFlagText flagText.toList) :
    documentation.answer (identifier ++ flagText) =
      if identifier = "" then .error .emptyIdentifier
      else (Query.kindsOfFlags (Query.flags flagText.toList.tail)).bind fun kinds =>
        documentation.resolve ⟨identifier, kinds⟩ := by
  have parts := Query.parts_append unbroken apart
  rw [← String.toList_append] at parts
  rw [answer, Request.parse_of_parts parts]
  by_cases empty : identifier = ""
  · simp [empty, Except.bind]
  · rw [if_neg (by simpa using empty), if_neg empty, String.ofList_toList]
    cases Query.kindsOfFlags (Query.flags flagText.toList.tail) <;> rfl

theorem answer_respelled_of_resolve (documentation : Documentation)
    {agree : String → String → Prop} {identifier other flagText : String}
    (unbroken : ¬identifier.toList.any Text.isBlank)
    (otherUnbroken : ¬other.toList.any Text.isBlank)
    (apart : Query.IsFlagText flagText.toList) (same : SameDotted identifier other)
    (resolved : ∀ kinds, Respelled (Query.Refusal identifier flagText.toList) agree
      (documentation.resolve ⟨identifier, kinds⟩) (documentation.resolve ⟨other, kinds⟩)) :
    Respelled (Query.Refusal identifier flagText.toList) agree
      (documentation.answer (identifier ++ flagText))
      (documentation.answer (other ++ flagText)) := by
  -- Flags are read before anything is looked up, so identifiers that resolve alike under the same
  -- kinds are answered alike with the same flags, or both are refused for these.
  have named : identifier = "" ↔ other = "" := by
    rw [← String.toList_eq_nil_iff, ← String.toList_eq_nil_iff, ← List.length_eq_zero_iff,
      ← List.length_eq_zero_iff, same.length_eq]
  rw [answer_of_flagText documentation unbroken apart,
    answer_of_flagText documentation otherUnbroken apart]
  simp only [← named]
  split
  · next absent => exact .refused (.noIdentifier absent)
  · next present =>
    cases read : Query.kindsOfFlags (Query.flags flagText.toList.tail) with
    | error error =>
      obtain ⟨unknown, asked, rfl⟩ := Query.kindsOfFlags_eq_error_iff.1 read
      exact .refused (.unknownKind present asked)
    | ok kinds => exact resolved kinds

theorem resolve_class (documentation : Documentation) {name : String} (isName : IsClassName name)
    (kinds : KindSet) :
    documentation.resolve ⟨name, kinds⟩ = documentation.resolveClass name := by
  rw [resolve, Target.ofIdentifier, if_neg isName.noSmallLetter, if_neg isName.plain]
  rfl

theorem resolve_member (documentation : Documentation) {name : String} (isName : IsClassName name)
    (member : String) (kinds : KindSet) :
    documentation.resolve ⟨name ++ "#" ++ member, kinds⟩ =
      documentation.resolveMember ⟨name ++ "#" ++ member, kinds⟩ := by
  have text : (name ++ "#" ++ member).toList = name.toList ++ '#' :: member.toList := by
    simp [String.toList_append]
  have hash : '#' ∈ (name ++ "#" ++ member).toList := by simp [text]
  have noSmallLetter : ¬(name ++ "#" ++ member).toList.head?.any Text.isLower := by
    rw [text]
    cases letters : name.toList with
    | nil =>
      have notLower : ¬Text.isLower '#' := by decide
      simpa using notLower
    | cons first rest => simpa [letters] using isName.noSmallLetter
  rw [resolve, Target.ofIdentifier, if_neg noSmallLetter, if_pos hash]
  rfl

theorem unbroken_member {name member : String} (isName : IsClassName name)
    (unbroken : ¬member.toList.any Text.isBlank) :
    ¬(name ++ "#" ++ member).toList.any Text.isBlank := by
  have hash : ¬"#".toList.any Text.isBlank := by decide
  simp only [String.toList_append, List.any_append, Bool.or_eq_true, not_or]
  exact ⟨⟨isName.unbroken, hash⟩, unbroken⟩

/-- Class names that agree once dots are written for dollar signs are answered alike, and members
of the classes are even labelled alike. Only the flag text can have both refused, or the lack of any
name. -/
theorem answer_spelling (documentation : Documentation) {name other flagText : String}
    (isName : IsClassName name) (otherIsName : IsClassName other) (same : SameDotted name other)
    (apart : Query.IsFlagText flagText.toList) :
    Respelled (Query.Refusal name flagText.toList) SameDotted
      (documentation.answer (name ++ flagText)) (documentation.answer (other ++ flagText)) ∧
    ∀ member : String, ¬member.toList.any Text.isBlank → '#' ∉ member.toList →
      Respelled (Query.Refusal (name ++ "#" ++ member) flagText.toList) Eq
        (documentation.answer (name ++ "#" ++ member ++ flagText))
        (documentation.answer (other ++ "#" ++ member ++ flagText)) := by
  constructor
  · refine documentation.answer_respelled_of_resolve isName.unbroken otherIsName.unbroken apart same
      fun kinds => ?_
    rw [documentation.resolve_class isName, documentation.resolve_class otherIsName]
    exact documentation.resolveClass_respelled same _
  · intro member unbroken plainMember
    refine documentation.answer_respelled_of_resolve (unbroken_member isName unbroken)
      (unbroken_member otherIsName unbroken) apart ((same.append rfl).append rfl) fun kinds => ?_
    rw [documentation.resolve_member isName, documentation.resolve_member otherIsName]
    exact documentation.resolveMember_respelled same _ kinds isName.plain otherIsName.plain
      plainMember

theorem answer_spelling_nested :
    let records := [Record.ofClass "a/Outer$Inner" "create" none]
    let documentation := Documentation.ofRecords .all records .default
    IsClassName "Outer$Inner" ∧ IsClassName "Outer.Inner" ∧
    SameDotted "Outer$Inner" "Outer.Inner" ∧ Query.IsFlagText " type=function".toList ∧
    documentation.answer "Outer$Inner type=function" =
      .ok ⟨"Outer$Inner", "https://docs.example/module/a/outer/inner/index.html"⟩ ∧
    Respelled (Query.Refusal "Outer$Inner" " type=function".toList) SameDotted
      (documentation.answer "Outer$Inner type=function")
      (documentation.answer "Outer.Inner type=function") ∧
    documentation.answer "Outer$Inner#create type=function" =
      .ok ⟨"Outer.Inner.create", "https://docs.example/module/a/outer/inner/create.html"⟩ ∧
    Respelled (Query.Refusal "Outer$Inner#create" " type=function".toList) Eq
      (documentation.answer "Outer$Inner#create type=function")
      (documentation.answer "Outer.Inner#create type=function") := by
  intro records documentation
  have isName : IsClassName "Outer$Inner" := ⟨by decide, by decide, by decide⟩
  have otherIsName : IsClassName "Outer.Inner" := ⟨by decide, by decide, by decide⟩
  have same : SameDotted "Outer$Inner" "Outer.Inner" := by unfold SameDotted; decide
  have apart : Query.IsFlagText " type=function".toList := .inr (by decide)
  obtain ⟨pages, members⟩ := documentation.answer_spelling isName otherIsName same apart
  exact ⟨isName, otherIsName, same, apart, by decide +kernel, pages, by decide +kernel,
    members "create" (by decide) (by decide)⟩

end Documentation

end ApiPages
