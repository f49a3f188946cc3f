import ApiPages.Metadata.Decode
import ApiPages.Proofs.Json.Record

/-!
Metadata written and read back. The metadata, its members, their type parameters, the types of
their receivers and the arguments of these are records, and every one of them is written by name or
by position, whatever the others do. Main statement: metadata is read back from all its forms, so
nothing that is decoded is lost when it is written again.
-/

namespace ApiPages

open Json (IsRecord fits_some withDefault list?)

def TypeParameter.fields (parameter : TypeParameter) : List Json.Field :=
  [("id", some (Json.ofWord parameter.id)), ("name", some (.string parameter.name))]

def TypeDescriptor.fields (classifier : Classifier) (arguments : List Json) : List Json.Field :=
  [("classifier", some classifier.toJson), ("arguments", some (.array arguments))]

def TypeArgument.fields (variance : Variance) (type : Json) : List Json.Field :=
  [("variance", some (.string variance.name)), ("type", some type)]

mutual

def TypeDescriptor.WrittenAs : TypeDescriptor → Json → Prop
  | .of classifier arguments, value =>
    ∃ items, TypeArgument.AllWrittenAs arguments items ∧
      IsRecord (TypeDescriptor.fields classifier items) value

def TypeArgument.WrittenAs : TypeArgument → Json → Prop
  | .star variance, value => IsRecord (TypeArgument.fields variance .null) value
  | .projected variance type, value =>
    ∃ inner, type.WrittenAs inner ∧ IsRecord (TypeArgument.fields variance inner) value

def TypeArgument.AllWrittenAs : List TypeArgument → List Json → Prop
  | [], items => items = []
  | argument :: rest, items =>
    ∃ item others, argument.WrittenAs item ∧ TypeArgument.AllWrittenAs rest others ∧
      items = item :: others

end

theorem TypeArgument.ofJsonWith?_congr {type? other? : Json → Option TypeDescriptor} {value : Json}
    (same : ∀ inner, inner.depth < value.depth → type? inner = other? inner) :
    ofJsonWith? type? value = ofJsonWith? other? value := by
  rw [ofJsonWith?, ofJsonWith?]
  cases found : value.slots? fieldNames with
  | none => rfl
  | some slots =>
    obtain ⟨variance, type, rfl⟩ := List.length_eq_two.1 (Json.length_slots? found)
    have alike : Json.optional type? type = Json.optional other? type := by
      apply Json.optional_congr
      rintro inner rfl
      exact same inner (Json.depth_lt_of_mem_slots found (by simp))
    simp only [Option.bind_eq_bind, Option.bind_some, alike]

namespace TypeDescriptor

theorem ofJsonWithin?_of_flat {value : Json} (flat : value.depth = 0) (levels : Nat) :
    ofJsonWithin? levels value = none := by
  cases levels with
  | zero => rfl
  | succ levels =>
    rw [ofJsonWithin?, Json.slots?_eq_none_of_flat flat]
    rfl

theorem arguments_congr {type? other? : Json → Option TypeDescriptor} {value : Json}
    {classifier arguments : Option Json}
    (found : value.slots? fieldNames = some [classifier, arguments])
    (same : ∀ inner, inner.depth < value.depth → type? inner = other? inner) :
    withDefault [] (list? (TypeArgument.ofJsonWith? type?)) arguments =
      withDefault [] (list? (TypeArgument.ofJsonWith? other?)) arguments := by
  apply Json.withDefault_congr
  rintro items rfl
  have below : items.depth < value.depth := Json.depth_lt_of_mem_slots found (by simp)
  apply Json.list?_congr
  intro item inItems
  apply TypeArgument.ofJsonWith?_congr
  intro inner inItem
  exact same inner (by omega)

theorem ofJsonWithin?_eq_of_le (levels more : Nat) (value : Json) (enough : value.depth ≤ levels)
    (further : value.depth ≤ more) : ofJsonWithin? levels value = ofJsonWithin? more value := by
  induction levels generalizing more value with
  | zero =>
    have flat : value.depth = 0 := by omega
    rw [ofJsonWithin?_of_flat flat, ofJsonWithin?_of_flat flat]
  | succ levels ih =>
    cases more with
    | zero =>
      have flat : value.depth = 0 := by omega
      rw [ofJsonWithin?_of_flat flat, ofJsonWithin?_of_flat flat]
    | succ more =>
      rw [ofJsonWithin?, ofJsonWithin?]
      cases found : value.slots? fieldNames with
      | none => rfl
      | some slots =>
        obtain ⟨classifier, arguments, rfl⟩ := List.length_eq_two.1 (Json.length_slots? found)
        have alike := arguments_congr found fun inner inside =>
          ih more inner (by omega) (by omega)
        cases classifier with
        | none => rfl
        | some classifier => simp only [Option.bind_eq_bind, Option.bind_some, alike]

theorem ofJson?_of_slots {value classifier : Json} {arguments : Option Json}
    (found : value.slots? fieldNames = some [some classifier, arguments]) :
    ofJson? value = (Classifier.ofJson? classifier).bind fun classifier =>
      (withDefault [] (list? (TypeArgument.ofJsonWith? ofJson?)) arguments).map
        (.of classifier) := by
  have inside : classifier.depth < value.depth := Json.depth_lt_of_mem_slots found (by simp)
  obtain ⟨levels, deep⟩ : ∃ levels, value.depth = levels + 1 := ⟨value.depth - 1, by omega⟩
  have alike := arguments_congr found fun inner below =>
    ofJsonWithin?_eq_of_le levels inner.depth inner (by omega) (Nat.le_refl _)
  rw [ofJson?, deep, ofJsonWithin?, found]
  simp only [Option.bind_eq_bind, Option.bind_some, alike, Option.map_eq_bind]
  rfl

end TypeDescriptor

theorem Variance.ofJson?_name (variance : Variance) :
    ofJson? (.string variance.name) = some variance :=
  ofName?_name variance

theorem TypeParameter.ofJson?_of_slots {value id name : Json}
    (found : value.slots? fieldNames = some [some id, some name]) :
    ofJson? value = id.word?.bind fun id => name.text?.map (TypeParameter.mk id) := by
  rw [ofJson?, found]
  simp only [Option.bind_eq_bind, Option.bind_some, Option.map_eq_bind]
  rfl

theorem TypeParameter.ofJson?_of_isRecord {parameter : TypeParameter} {value : Json}
    (record : IsRecord parameter.fields value) : ofJson? value = some parameter := by
  obtain ⟨slots, found, fits⟩ := Json.slots?_of_isRecord record fieldNames rfl (by decide)
  match slots, fits with
  | [_, _], .cons id (.cons name .nil) =>
    obtain rfl := fits_some.1 id
    obtain rfl := fits_some.1 name
    rw [ofJson?_of_slots found, Json.word?_ofWord]
    rfl

theorem TypeDescriptor.WrittenAs.ne_null {type : TypeDescriptor} {value : Json}
    (written : type.WrittenAs value) : value ≠ .null := by
  rintro rfl
  cases type with
  | of classifier arguments =>
    obtain ⟨items, -, record⟩ := written
    cases record

mutual

theorem TypeDescriptor.ofJson?_writtenAs : ∀ (type : TypeDescriptor) {value : Json},
    type.WrittenAs value → TypeDescriptor.ofJson? value = some type
  | .of classifier arguments, value, written => by
    obtain ⟨items, inside, record⟩ := written
    obtain ⟨slots, found, fits⟩ := Json.slots?_of_isRecord record TypeDescriptor.fieldNames rfl
      (by decide)
    match slots, fits with
    | [_, _], .cons classifierFits (.cons argumentsFit .nil) =>
      obtain rfl := fits_some.1 classifierFits
      obtain rfl := fits_some.1 argumentsFit
      rw [TypeDescriptor.ofJson?_of_slots found, Classifier.ofJson?_toJson, withDefault,
        TypeArgument.ofJson?_allWrittenAs arguments inside]
      rfl

theorem TypeArgument.ofJson?_writtenAs : ∀ (argument : TypeArgument) {value : Json},
    argument.WrittenAs value →
      TypeArgument.ofJsonWith? TypeDescriptor.ofJson? value = some argument
  | .star variance, value, record => by
    obtain ⟨slots, found, fits⟩ := Json.slots?_of_isRecord record TypeArgument.fieldNames rfl
      (by decide)
    match slots, fits with
    | [_, _], .cons varianceFits (.cons typeFits .nil) =>
      obtain rfl := fits_some.1 varianceFits
      obtain rfl := fits_some.1 typeFits
      rw [TypeArgument.ofJsonWith?, found]
      simp [withDefault, Json.optional, Variance.ofJson?_name]
  | .projected variance type, value, written => by
    obtain ⟨inner, inside, record⟩ := written
    obtain ⟨slots, found, fits⟩ := Json.slots?_of_isRecord record TypeArgument.fieldNames rfl
      (by decide)
    match slots, fits with
    | [_, _], .cons varianceFits (.cons typeFits .nil) =>
      obtain rfl := fits_some.1 varianceFits
      obtain rfl := fits_some.1 typeFits
      rw [TypeArgument.ofJsonWith?, found]
      simp [withDefault, Json.optional_some _ inside.ne_null, Variance.ofJson?_name,
        TypeDescriptor.ofJson?_writtenAs type inside]

theorem TypeArgument.ofJson?_allWrittenAs : ∀ (arguments : List TypeArgument) {items : List Json},
    TypeArgument.AllWrittenAs arguments items →
      list? (TypeArgument.ofJsonWith? TypeDescriptor.ofJson?) (.array items) = some arguments
  | [], items, written => by
    obtain rfl := written
    rfl
  | argument :: rest, items, written => by
    obtain ⟨item, others, first, later, rfl⟩ := written
    have behind := TypeArgument.ofJson?_allWrittenAs rest later
    rw [list?] at behind ⊢
    rw [List.mapM_cons, TypeArgument.ofJson?_writtenAs argument first, behind]
    rfl

end

def Member.ReceiverWrittenAs : Option TypeDescriptor → Json → Prop
  | none, value => value = .null
  | some type, value => type.WrittenAs value

def Member.fields (name : String) (receiver : Json) (parameters : List Json) : List Json.Field :=
  [("name", some (.string name)), ("receiver", some receiver),
    ("type_parameters", some (.array parameters))]

def Member.WrittenAs (member : Member) (value : Json) : Prop :=
  ∃ receiver parameters, ReceiverWrittenAs member.receiver receiver ∧
    List.Forall₂ (fun parameter item => IsRecord parameter.fields item) member.parameters
      parameters ∧
    IsRecord (Member.fields member.name receiver parameters) value

theorem Member.optional_receiverWrittenAs {receiver : Option TypeDescriptor} {value : Json}
    (written : ReceiverWrittenAs receiver value) :
    Json.optional TypeDescriptor.ofJson? (some value) = some receiver := by
  cases receiver with
  | none =>
    obtain rfl := written
    rfl
  | some type =>
    have visible : value ≠ .null := TypeDescriptor.WrittenAs.ne_null written
    rw [Json.optional_some _ visible, TypeDescriptor.ofJson?_writtenAs type written]
    rfl

theorem Member.ofJson?_writtenAs {member : Member} {value : Json}
    (written : member.WrittenAs value) : ofJson? value = some member := by
  obtain ⟨receiver, parameters, receiverWritten, parametersWritten, record⟩ := written
  obtain ⟨slots, found, fits⟩ := Json.slots?_of_isRecord record fieldNames rfl (by decide)
  match slots, fits with
  | [_, _, _], .cons nameFits (.cons receiverFits (.cons parametersFit .nil)) =>
    obtain rfl := fits_some.1 nameFits
    obtain rfl := fits_some.1 receiverFits
    obtain rfl := fits_some.1 parametersFit
    have parametersRead := Json.list?_of_forall₂ (parametersWritten.imp fun _ _ =>
      TypeParameter.ofJson?_of_isRecord)
    simp only [ofJson?, found, Option.bind_eq_bind, Option.bind_some, Json.text?, withDefault,
      optional_receiverWrittenAs receiverWritten, parametersRead]

namespace Metadata

def fields (metadata : Metadata) (functions properties : List Json) : List Json.Field :=
  [("version", some metadata.version.toJson), ("kind", some (.string metadata.kind.name)),
    ("module", some (.string metadata.moduleName)),
    ("class_kind", metadata.classKind.map fun kind => .string kind.name),
    ("functions", some (.array functions)), ("properties", some (.array properties)),
    ("enum_entries", some (.array (metadata.enumEntries.map .string))),
    ("companion_object", metadata.companion.map .string)]

/-- Metadata in one of its forms. -/
def WrittenAs (metadata : Metadata) (value : Json) : Prop :=
  ∃ functions properties, List.Forall₂ Member.WrittenAs metadata.functions functions ∧
    List.Forall₂ Member.WrittenAs metadata.properties properties ∧
    IsRecord (metadata.fields functions properties) value

theorem ofJson?_of_slots {metadata : Metadata} {value version kind : Json}
    {moduleName classKind functions properties enumEntries companion : Option Json}
    (found : value.slots? fieldNames = some [some version, some kind, moduleName, classKind,
      functions, properties, enumEntries, companion])
    (versionRead : Version.ofJson? version = some metadata.version)
    (kindRead : MetadataKind.ofJson? kind = some metadata.kind)
    (moduleRead : withDefault "" Json.text? moduleName = some metadata.moduleName)
    (classKindRead : Json.optional ClassKind.ofJson? classKind = some metadata.classKind)
    (functionsRead : withDefault [] (list? Member.ofJson?) functions = some metadata.functions)
    (propertiesRead : withDefault [] (list? Member.ofJson?) properties = some metadata.properties)
    (entriesRead : withDefault [] (list? Json.text?) enumEntries = some metadata.enumEntries)
    (companionRead : Json.optional Json.text? companion = some metadata.companion) :
    ofJson? value = some metadata := by
  simp only [ofJson?, found, Option.bind_eq_bind, Option.bind_some, versionRead, kindRead,
    moduleRead, classKindRead, functionsRead, propertiesRead, entriesRead, companionRead]

theorem ofJson?_writtenAs {metadata : Metadata} {value : Json}
    (written : metadata.WrittenAs value) : ofJson? value = some metadata := by
  obtain ⟨functions, properties, functionsWritten, propertiesWritten, record⟩ := written
  obtain ⟨slots, found, fits⟩ := Json.slots?_of_isRecord record fieldNames rfl (by decide)
  match slots, fits with
  | [_, _, _, _, _, _, _, _], .cons versionFits (.cons kindFits (.cons moduleFits
      (.cons classKindFits (.cons functionsFit (.cons propertiesFit (.cons entriesFit
        (.cons companionFits .nil))))))) =>
    obtain rfl := fits_some.1 versionFits
    obtain rfl := fits_some.1 kindFits
    obtain rfl := fits_some.1 moduleFits
    obtain rfl := fits_some.1 functionsFit
    obtain rfl := fits_some.1 propertiesFit
    obtain rfl := fits_some.1 entriesFit
    have members {values : List Member} {items : List Json}
        (written : List.Forall₂ Member.WrittenAs values items) :
        list? Member.ofJson? (.array items) = some values :=
      Json.list?_of_forall₂ (written.imp fun _ _ => Member.ofJson?_writtenAs)
    have entriesRead : list? Json.text? (.array (metadata.enumEntries.map .string)) =
        some metadata.enumEntries :=
      Json.list?_of_forall₂ (List.forall₂_map_right_iff.2 (List.forall₂_same.2 fun _ _ => rfl))
    have classKindRead := Json.optional_of_fits ClassKind.ofJson? classKindFits
      (fun kind => ClassKind.ofName?_name kind) (by simp)
    have companionRead := Json.optional_of_fits Json.text? companionFits (fun _ => rfl)
      (by simp)
    exact ofJson?_of_slots found (Version.ofJson?_toJson _)
      (MetadataKind.ofName?_name metadata.kind) rfl classKindRead (members functionsWritten)
      (members propertiesWritten) entriesRead companionRead

end Metadata

mutual

theorem TypeDescriptor.writtenAs_toJson : ∀ type : TypeDescriptor, type.WrittenAs type.toJson
  | .of _ arguments => ⟨_, TypeArgument.allWrittenAs_toJson arguments, .named⟩

theorem TypeArgument.writtenAs_toJson : ∀ argument : TypeArgument,
    argument.WrittenAs argument.toJson
  | .star _ => .named
  | .projected _ type => ⟨_, type.writtenAs_toJson, .named⟩

theorem TypeArgument.allWrittenAs_toJson : ∀ arguments : List TypeArgument,
    TypeArgument.AllWrittenAs arguments (TypeArgument.toJsonOfList arguments)
  | [] => rfl
  | argument :: rest =>
    ⟨_, _, argument.writtenAs_toJson, TypeArgument.allWrittenAs_toJson rest, rfl⟩

end

theorem Member.writtenAs_toJson (member : Member) : member.WrittenAs member.toJson := by
  have receiver : ReceiverWrittenAs member.receiver
      ((member.receiver.map TypeDescriptor.toJson).getD .null) := by
    cases member.receiver with
    | none => rfl
    | some type => exact type.writtenAs_toJson
  have parameters : List.Forall₂ (fun parameter => IsRecord (TypeParameter.fields parameter))
      member.parameters (member.parameters.map TypeParameter.toJson) :=
    List.forall₂_map_right_iff.2 (List.forall₂_same.2 fun _ _ => .named)
  exact ⟨_, _, receiver, parameters, .named⟩

namespace Metadata

theorem toJson_eq (metadata : Metadata) :
    metadata.toJson = .object (Json.present (metadata.fields (metadata.functions.map Member.toJson)
      (metadata.properties.map Member.toJson))) := by
  rcases metadata with ⟨_, _, _, _ | _, _, _, _, _ | _⟩ <;> rfl

theorem writtenAs_toJson (metadata : Metadata) : metadata.WrittenAs metadata.toJson := by
  have members (members : List Member) :
      List.Forall₂ Member.WrittenAs members (members.map Member.toJson) :=
    List.forall₂_map_right_iff.2 (List.forall₂_same.2 fun member _ => member.writtenAs_toJson)
  exact ⟨_, _, members _, members _, metadata.toJson_eq ▸ .named⟩

/-- Metadata is read back from every form, its own included, so what is decoded does not depend on
the form and survives being written again. -/
theorem ofJson?_forms (metadata : Metadata) :
    metadata.WrittenAs metadata.toJson ∧
    (∀ value, metadata.WrittenAs value → ofJson? value = some metadata) ∧
    ∀ blob, ofJson? blob = some metadata →
      ofJson? metadata.toJson = some metadata ∧ decode blob = decode metadata.toJson := by
  have again := ofJson?_writtenAs metadata.writtenAs_toJson
  refine ⟨metadata.writtenAs_toJson, fun value => ofJson?_writtenAs, fun blob found => ⟨again, ?_⟩⟩
  rw [decode, decode, found, again]

theorem ofJson?_forms_positional :
    let inner : Json := .object [("classifier", .object [("type_parameter", .integer 0)]),
      ("arguments", .array [])]
    let receiver : Json := .array [.object [("class", .string "kotlin/collections/List")],
      .array [.array [.string "out", inner], .object [("variance", .string "in"), ("type", .null)]]]
    let member : Json := .array [.string "first", receiver,
      .array [.array [.integer 0, .string "T"]]]
    let blob : Json := .array [.array [.integer 2, .integer 1, .integer 0], .string "file_facade",
      .string "core", .null, .array [member], .array [], .array [.string "A"], .null]
    let metadata : Metadata := ⟨⟨2, 1, 0⟩, .fileFacade, "core", none,
      [⟨"first", some (.of (.ofClass "kotlin/collections/List")
        [.projected .covariant (.of (.ofParameter 0) []), .star .contravariant]), [⟨0, "T"⟩]⟩],
      [], ["A"], none⟩
    metadata.WrittenAs blob ∧ ofJson? blob = some metadata ∧
      decode blob = decode metadata.toJson := by
  -- The metadata, its member, the type of the receiver and the argument of this type are arrays;
  -- the type inside the argument is an object.
  intro inner receiver member blob metadata
  have receiverWritten : TypeDescriptor.WrittenAs (.of (.ofClass "kotlin/collections/List")
      [.projected .covariant (.of (.ofParameter 0) []), .star .contravariant]) receiver :=
    ⟨_, ⟨_, _, ⟨inner, ⟨[], rfl, .named⟩, .positional⟩, ⟨_, [], .named, rfl, rfl⟩, rfl⟩,
      .positional⟩
  have written : metadata.WrittenAs blob :=
    ⟨_, _, .cons ⟨_, _, receiverWritten, .cons .positional .nil, .positional⟩ .nil, .nil,
      .positional⟩
  obtain ⟨-, reads, rewritten⟩ := ofJson?_forms metadata
  have found := reads blob written
  exact ⟨written, found, (rewritten blob found).2⟩

end Metadata

end ApiPages
