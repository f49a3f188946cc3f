import ApiPages.Metadata.Decode
import ApiPages.Proofs.Declaration.Mentions

/-!
Metadata that is refused. A later major version is refused whatever else is stored. Metadata that
holds no members needs nothing more; any other has to name its module, a class its class kind, and
no member may mention a type parameter that it does not declare. Main statement: what is refused is
refused for the first of these that fails, and all else is declared as it is stored.
-/

namespace ApiPages

namespace Metadata

def HoldsMembers (metadata : Metadata) : Prop :=
  metadata.kind = .classFile ∨ metadata.kind = .fileFacade ∨ metadata.kind = .multiFilePart

/-- The first member that mentions an undeclared type parameter, with the first that it mentions. -/
def FirstDangling (members : List Member) (member : Member) (id : UInt32) : Prop :=
  ∃ before behind, members = before ++ member :: behind ∧
    (∀ other ∈ before, ∀ position parameter, ¬other.Dangles position parameter) ∧
    member.DanglesFirst id

/-- Why metadata is refused. A cause is one only where those before it are not. -/
inductive Refused (metadata : Metadata) : MetadataError → Prop
  | laterVersion (later : 2 < metadata.version.major) :
    Refused metadata (.unsupportedVersion metadata.version)
  | noModule (supported : metadata.version.major ≤ 2) (holds : metadata.HoldsMembers)
    (unnamed : metadata.moduleName = "") : Refused metadata .missingModule
  | noClassKind (supported : metadata.version.major ≤ 2) (isClass : metadata.kind = .classFile)
    (named : metadata.moduleName ≠ "") (unknown : metadata.classKind = none) :
    Refused metadata .missingClassKind
  | dangling {member : Member} {id : UInt32} (supported : metadata.version.major ≤ 2)
    (holds : metadata.HoldsMembers) (named : metadata.moduleName ≠ "")
    (known : metadata.kind = .classFile → metadata.classKind ≠ none)
    (first : FirstDangling (metadata.functions ++ metadata.properties) member id) :
    Refused metadata (.unknownParameter member.name id)

/-- What metadata declares when nothing is wrong with it. -/
inductive Declares (metadata : Metadata) : Declared String → Prop
  | ofClass {kind : ClassKind} (isClass : metadata.kind = .classFile)
    (known : metadata.classKind = some kind) :
    Declares metadata (.ofClass {
      moduleName := metadata.moduleName
      kind := kind
      functions := metadata.functions
      properties := metadata.properties
      enumEntries := metadata.enumEntries
      companion := metadata.companion })
  | ofPackage (isPackage : metadata.kind = .fileFacade ∨ metadata.kind = .multiFilePart) :
    Declares metadata (.ofPackage {
      kind := metadata.kind
      moduleName := metadata.moduleName
      functions := metadata.functions
      properties := metadata.properties })
  | nothing (memberless : metadata.kind = .multiFileFacade ∨ metadata.kind = .synthetic) :
    Declares metadata (.nothing metadata.kind)

theorem firstUndeclared_eq_some_iff {members : List Member} {name : String} {id : UInt32} :
    firstUndeclared members = some (name, id) ↔
      ∃ member, member.name = name ∧ FirstDangling members member id := by
  induction members with
  | nil => simp [firstUndeclared, FirstDangling]
  | cons first rest ih =>
    rw [firstUndeclared]
    cases undeclared : first.undeclared with
    | nil =>
      have sound := Member.undeclared_eq_nil_iff.1 undeclared
      rw [ih]
      constructor
      · rintro ⟨member, named, before, behind, rfl, others, dangles⟩
        exact ⟨member, named, first :: before, behind, rfl,
          List.forall_mem_cons.2 ⟨sound, others⟩, dangles⟩
      · rintro ⟨member, named, before, behind, split, others, dangles⟩
        cases before with
        | nil =>
          obtain ⟨rfl, rfl⟩ := List.cons.inj split
          obtain ⟨position, here, -⟩ := dangles
          exact absurd here (sound position id)
        | cons other before =>
          obtain ⟨rfl, rfl⟩ := List.cons.inj split
          exact ⟨member, named, before, behind, rfl, (List.forall_mem_cons.1 others).2, dangles⟩
    | cons parameter more =>
      have dangles : first.DanglesFirst parameter := by
        rw [← Member.head?_undeclared_eq_some_iff, undeclared]
        rfl
      constructor
      · intro found
        obtain ⟨rfl, rfl⟩ := Prod.mk.inj (Option.some.inj found)
        exact ⟨first, rfl, [], rest, rfl, by simp, dangles⟩
      · rintro ⟨member, named, before, behind, split, others, danglesFirst⟩
        cases before with
        | nil =>
          obtain ⟨rfl, rfl⟩ := List.cons.inj split
          have same := Member.head?_undeclared_eq_some_iff.2 danglesFirst
          rw [undeclared] at same
          obtain rfl := Option.some.inj same
          rw [named]
        | cons other before =>
          obtain ⟨rfl, rfl⟩ := List.cons.inj split
          obtain ⟨position, here, -⟩ := dangles
          exact absurd here ((List.forall_mem_cons.1 others).1 position parameter)

theorem firstUndeclared_append (functions properties : List Member) :
    firstUndeclared (functions ++ properties) =
      (firstUndeclared functions).or (firstUndeclared properties) := by
  induction functions with
  | nil => rfl
  | cons first rest ih =>
    rw [List.cons_append, firstUndeclared, firstUndeclared]
    cases first.undeclared with
    | nil => exact ih
    | cons => rfl

theorem checkMembers_append (functions properties : List Member) :
    (checkMembers functions).bind (fun _ => checkMembers properties) =
      checkMembers (functions ++ properties) := by
  simp only [checkMembers, firstUndeclared_append]
  cases firstUndeclared functions <;> rfl

section

variable {metadata : Metadata}

theorem requireModule_of_unnamed (unnamed : metadata.moduleName = "") :
    metadata.requireModule = .error .missingModule := by
  rw [requireModule, unnamed]
  rfl

theorem requireModule_of_named (named : metadata.moduleName ≠ "") :
    metadata.requireModule = .ok () := by
  rw [requireModule, if_neg (by simpa using named)]

theorem not_later (supported : metadata.version.major ≤ 2) :
    ¬supportedVersion.major < metadata.version.major :=
  UInt32.not_lt.2 supported

theorem declared_of_class (supported : metadata.version.major ≤ 2)
    (isClass : metadata.kind = .classFile) :
    metadata.declared = metadata.declaredClass.map .ofClass := by
  rw [declared, if_neg (not_later supported), isClass]

theorem declared_of_package (supported : metadata.version.major ≤ 2)
    (isPackage : metadata.kind = .fileFacade ∨ metadata.kind = .multiFilePart) :
    metadata.declared = metadata.declaredFacade.map .ofPackage := by
  rw [declared, if_neg (not_later supported)]
  rcases isPackage with kind | kind <;> rw [kind]

theorem not_holdsMembers_iff :
    ¬metadata.HoldsMembers ↔ metadata.kind = .multiFileFacade ∨ metadata.kind = .synthetic := by
  cases kind : metadata.kind <;> simp [HoldsMembers, kind]

theorem declared_of_memberless (supported : metadata.version.major ≤ 2)
    (memberless : metadata.kind = .multiFileFacade ∨ metadata.kind = .synthetic) :
    metadata.declared = .ok (.nothing metadata.kind) := by
  rw [declared, if_neg (not_later supported)]
  rcases memberless with kind | kind <;> rw [kind]

theorem declared_eq_checkMembers (supported : metadata.version.major ≤ 2)
    (holds : metadata.HoldsMembers) (named : metadata.moduleName ≠ "") {declared : Declared String}
    (declares : metadata.Declares declared) :
    metadata.declared =
      (checkMembers (metadata.functions ++ metadata.properties)).map fun _ => declared := by
  rw [← checkMembers_append]
  cases declares with
  | ofClass isClass known =>
    rw [declared_of_class supported isClass, declaredClass, requireModule_of_named named, known]
    cases checkMembers metadata.functions with
    | error => rfl
    | ok => cases checkMembers metadata.properties <;> rfl
  | ofPackage isPackage =>
    rw [declared_of_package supported isPackage, declaredFacade, requireModule_of_named named]
    cases checkMembers metadata.functions with
    | error => rfl
    | ok => cases checkMembers metadata.properties <;> rfl
  | nothing memberless => exact absurd holds (not_holdsMembers_iff.2 memberless)

theorem exists_declares (known : metadata.kind = .classFile → metadata.classKind ≠ none) :
    ∃ declared, metadata.Declares declared := by
  cases kind : metadata.kind with
  | classFile =>
    obtain ⟨classKind, isKnown⟩ := Option.ne_none_iff_exists'.1 (known kind)
    exact ⟨_, .ofClass kind isKnown⟩
  | fileFacade => exact ⟨_, .ofPackage (.inl kind)⟩
  | multiFilePart => exact ⟨_, .ofPackage (.inr kind)⟩
  | multiFileFacade => exact ⟨_, .nothing (.inl kind)⟩
  | synthetic => exact ⟨_, .nothing (.inr kind)⟩

theorem declared_of_refused {error : MetadataError} (refused : metadata.Refused error) :
    metadata.declared = .error error := by
  cases refused with
  | laterVersion later =>
    have isLater : supportedVersion.major < metadata.version.major := later
    rw [declared, if_pos isLater]
  | noModule supported holds unnamed =>
    rcases holds with isClass | isPackage
    · rw [declared_of_class supported isClass, declaredClass, requireModule_of_unnamed unnamed]
      rfl
    · rw [declared_of_package supported isPackage, declaredFacade, requireModule_of_unnamed unnamed]
      rfl
  | noClassKind supported isClass named unknown =>
    rw [declared_of_class supported isClass, declaredClass, requireModule_of_named named, unknown]
    rfl
  | dangling supported holds named known first =>
    obtain ⟨declared, declares⟩ := exists_declares known
    rw [declared_eq_checkMembers supported holds named declares, checkMembers,
      firstUndeclared_eq_some_iff.2 ⟨_, rfl, first⟩]
    rfl

theorem supported_of_not_refused (faultless : ∀ error, ¬metadata.Refused error) :
    metadata.version.major ≤ 2 :=
  UInt32.not_lt.1 fun later => faultless _ (.laterVersion later)

theorem known_of_not_refused (faultless : ∀ error, ¬metadata.Refused error)
    (holds : metadata.HoldsMembers) :
    metadata.moduleName ≠ "" ∧ (metadata.kind = .classFile → metadata.classKind ≠ none) := by
  have supported := supported_of_not_refused faultless
  have named : metadata.moduleName ≠ "" := fun unnamed =>
    faultless _ (.noModule supported holds unnamed)
  exact ⟨named, fun isClass unknown => faultless _ (.noClassKind supported isClass named unknown)⟩

theorem firstUndeclared_of_not_refused (faultless : ∀ error, ¬metadata.Refused error)
    (holds : metadata.HoldsMembers) :
    firstUndeclared (metadata.functions ++ metadata.properties) = none := by
  have supported := supported_of_not_refused faultless
  obtain ⟨named, known⟩ := known_of_not_refused faultless holds
  rw [Option.eq_none_iff_forall_ne_some]
  rintro ⟨name, id⟩ found
  obtain ⟨member, -, first⟩ := firstUndeclared_eq_some_iff.1 found
  exact faultless _ (.dangling supported holds named known first)

theorem declared_of_not_refused (faultless : ∀ error, ¬metadata.Refused error) :
    ∃ declared, metadata.declared = .ok declared ∧ metadata.Declares declared := by
  have supported := supported_of_not_refused faultless
  by_cases holds : metadata.HoldsMembers
  · obtain ⟨named, known⟩ := known_of_not_refused faultless holds
    obtain ⟨declared, declares⟩ := exists_declares known
    refine ⟨declared, ?_, declares⟩
    rw [declared_eq_checkMembers supported holds named declares, checkMembers,
      firstUndeclared_of_not_refused faultless holds]
    rfl
  · have memberless := not_holdsMembers_iff.1 holds
    exact ⟨_, declared_of_memberless supported memberless, .nothing memberless⟩

theorem Declares.unique {one other : Declared String} (declares : metadata.Declares one)
    (otherDeclares : metadata.Declares other) : one = other := by
  cases declares <;> cases otherDeclares <;> grind

end

end Metadata

/-- Stored metadata is refused for its first fault, and otherwise declares what it stores. -/
theorem decode_iff {blob : Json} {metadata : Metadata}
    (read : Metadata.ofJson? blob = some metadata) :
    (∀ error, decode blob = .error error ↔ metadata.Refused error) ∧
    ∀ declared, decode blob = .ok declared ↔
      (∀ error, ¬metadata.Refused error) ∧ metadata.Declares declared := by
  have decodes : decode blob = metadata.declared := by rw [decode, read]
  rw [decodes]
  by_cases faulty : ∃ error, metadata.Refused error
  · obtain ⟨fault, refused⟩ := faulty
    rw [Metadata.declared_of_refused refused]
    refine ⟨fun error => ⟨?_, fun also => ?_⟩, fun declared => ⟨by simp, fun sound => ?_⟩⟩
    · intro same
      exact Except.error.inj same ▸ refused
    · rw [← Metadata.declared_of_refused refused, Metadata.declared_of_refused also]
    · exact absurd refused (sound.1 fault)
  · have faultless := not_exists.1 faulty
    obtain ⟨declared, accepted, declares⟩ := Metadata.declared_of_not_refused faultless
    rw [accepted]
    refine ⟨fun error => ⟨by simp, fun refused => ?_⟩,
      fun other => ⟨fun same => ?_, fun sound => ?_⟩⟩
    · exact absurd refused (faultless error)
    · exact ⟨faultless, Except.ok.inj same ▸ declares⟩
    · rw [declares.unique sound.2]

theorem decode_iff_nested :
    let parameter (id : Int) : Json :=
      .object [("classifier", .object [("type_parameter", .integer id)])]
    let list : Json := .object [("classifier", .object [("class", .string "kotlin/List")]),
      ("arguments", .array [.object [("type", parameter 7)]])]
    let receiver : Json := .object [("classifier", .object [("class", .string "kotlin/Triple")]),
      ("arguments", .array [.object [], .object [("type", list)], .object [("type", parameter 3)]])]
    let declared : Json := .array [.object [("id", .integer 3), ("name", .string "T")]]
    let blob : Json := .object [("version", .array [.integer 2, .integer 9, .integer 0]),
      ("kind", .string "class"), ("module", .string "core"), ("class_kind", .string "object"),
      ("functions", .array [.object [("name", .string "first"), ("receiver", parameter 3),
        ("type_parameters", declared)]]),
      ("properties", .array [.object [("name", .string "second"), ("receiver", receiver)]])]
    ∃ metadata, Metadata.ofJson? blob = some metadata ∧
      metadata.Refused (.unknownParameter "second" 7) := by
  -- The star is passed by, the function declares its parameter, and of the two that the property
  -- does not declare the one inside the second argument is written first.
  intro parameter list receiver declared blob
  have read : ∃ metadata, Metadata.ofJson? blob = some metadata :=
    Option.isSome_iff_exists.1 (by decide +kernel)
  obtain ⟨metadata, found⟩ := read
  have refused : decode blob = .error (.unknownParameter "second" 7) := rfl
  exact ⟨metadata, found, ((decode_iff found).1 _).1 refused⟩

end ApiPages
