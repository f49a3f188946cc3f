import ApiPages.Proofs.Declaration.Fallback
import ApiPages.Proofs.Metadata.Refusals

/-!
Labels of decoded members. Decoding refuses members that mention an undeclared type parameter. Main
statement: all type parameters of decoded members are displayed by their declared names, so every
star that is not part of a name stands for a star.
-/

namespace ApiPages

namespace Declared

def members {Ref : Type} : Declared Ref → List Member
  | .ofClass declared => declared.functions ++ declared.properties
  | .ofPackage declared => declared.functions ++ declared.properties
  | .nothing _ => []

end Declared

theorem Metadata.undeclared_of_firstUndeclared {members : List Member}
    (sound : firstUndeclared members = none) : ∀ member ∈ members, member.undeclared = [] := by
  induction members with
  | nil => simp
  | cons first rest ih =>
    rw [firstUndeclared] at sound
    cases undeclared : first.undeclared with
    | nil =>
      rw [undeclared] at sound
      exact List.forall_mem_cons.2 ⟨undeclared, ih sound⟩
    | cons =>
      rw [undeclared] at sound
      cases sound

theorem undeclared_of_decode {blob : Json} {declared : Declared String}
    (decodes : decode blob = .ok declared) :
    ∀ member ∈ declared.members, member.undeclared = [] := by
  rw [decode] at decodes
  cases read : Metadata.ofJson? blob with
  | none =>
    rw [read] at decodes
    cases decodes
  | some metadata =>
    rw [read] at decodes
    dsimp only at decodes
    have faultless : ∀ error, ¬metadata.Refused error := by
      intro error refused
      rw [Metadata.declared_of_refused refused] at decodes
      cases decodes
    obtain ⟨found, accepted, declares⟩ := Metadata.declared_of_not_refused faultless
    obtain rfl : found = declared := Except.ok.inj (accepted.symm.trans decodes)
    have sound := fun holds => Metadata.undeclared_of_firstUndeclared
      (Metadata.firstUndeclared_of_not_refused faultless holds)
    cases declares with
    | ofClass isClass => exact sound (.inl isClass)
    | ofPackage isPackage => exact sound (.inr isPackage)
    | nothing => simp [Declared.members]

/-- Decoded members display each type parameter by its first declared name and no star but those of
arguments and names, whatever stands for an undeclared one. A member that mentions an undeclared
type parameter displays what stands for it and tells by its name what this is. -/
theorem decode_displays :
    (∀ blob declared, decode blob = .ok declared → ∀ member ∈ declared.members,
      (∀ undeclared, member.qualifiedNameWith undeclared = member.qualifiedName) ∧
      ∀ type, member.receiver = some type →
        member.qualifiedName =
          String.ofList (member.shape ['*'] type).chars ++ "." ++ member.name ∧
        (member.shape ['*'] type).chars.count '*' =
          type.stars + (member.shape ['*'] type).names.flatten.count '*' ∧
        ∀ position id, type.Mentions position id → ∃ parameter,
          member.DeclaresFirst id parameter ∧
            member.Displays ['*'] position parameter.name.toList) ∧
    ∀ member : Member, member.undeclared ≠ [] →
      (∃ position id, member.Dangles position id ∧
        ∀ undeclared, member.Displays undeclared position undeclared) ∧
      Function.Injective member.qualifiedNameWith := by
  constructor
  · intro blob declared decodes member isMember
    have sound := undeclared_of_decode decodes member isMember
    refine ⟨fun undeclared => Member.qualifiedNameWith_congr sound undeclared ['*'], ?_⟩
    intro type receives
    exact ⟨Member.qualifiedNameWith_of_receiver receives ['*'], type.count_star _,
      fun position id mentions => Member.exists_displays_declared sound receives mentions ['*']⟩
  · intro member dangling
    exact ⟨Member.exists_displays_fallback dangling, Member.qualifiedNameWith_injective dangling⟩

theorem decode_displays_shadowed :
    let mention : Json := .object [("classifier", .object [("type_parameter", .integer 3)])]
    let list : Json := .object [("classifier", .object [("class", .string "kotlin/List")]),
      ("arguments", .array [.object [("variance", .string "out"), ("type", mention)]])]
    let stored : Json := .object [("classifier", .object [("class", .string "kotlin/Map")]),
      ("arguments", .array [.object [], .object [("type", list)]])]
    let declared : Json :=
      .array [.array [.integer 3, .string "T"], .array [.integer 3, .string "S"]]
    let blob : Json := .object [("version", .array [.integer 2, .integer 0, .integer 0]),
      ("kind", .string "file_facade"), ("module", .string "core"),
      ("functions", .array [.object [("name", .string "first"), ("receiver", stored),
        ("type_parameters", declared)]])]
    let receiver : TypeDescriptor := .of (.ofClass "kotlin/Map") [.star .invariant,
      .projected .invariant (.of (.ofClass "kotlin/List")
        [.projected .covariant (.of (.ofParameter 3) [])])]
    let member : Member := ⟨"first", some receiver, [⟨3, "T"⟩, ⟨3, "S"⟩]⟩
    let dangling : Member := ⟨"first", some receiver, []⟩
    decode blob = .ok (.ofPackage ⟨.fileFacade, "core", [member], []⟩) ∧
      member.qualifiedNameWith ['?'] = "Map<*, List<out T>>.first" ∧
      (∃ parameter, member.DeclaresFirst 3 parameter ∧
        member.Displays ['*'] [1, 0] parameter.name.toList) ∧
      dangling.undeclared ≠ [] ∧ Function.Injective dangling.qualifiedNameWith := by
  -- An id that is declared twice below a star of its own, and the same receiver without its
  -- declarations.
  intro mention list stored declared blob receiver member dangling
  have decodes : decode blob = .ok (.ofPackage ⟨.fileFacade, "core", [member], []⟩) := rfl
  have undeclared : dangling.undeclared ≠ [] := by decide
  obtain ⟨unmoved, displayed⟩ := decode_displays.1 blob _ decodes member (List.mem_singleton_self _)
  obtain ⟨-, -, named⟩ := displayed receiver rfl
  refine ⟨decodes, ?_, named [1, 0] 3 ⟨[], rfl⟩, undeclared, (decode_displays.2 _ undeclared).2⟩
  rw [unmoved ['?']]
  decide

end ApiPages
