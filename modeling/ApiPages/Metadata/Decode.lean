import ApiPages.Declaration.Declared
import ApiPages.Declaration.Format

/-!
Metadata as stored beside a compiled class: a record of a version, a kind and what is declared.
The class kind and the companion are left out when there is none.
-/

namespace ApiPages

open Json (withDefault optional list?)

structure Version where
  major : UInt32
  minor : UInt32
  patch : UInt32
deriving DecidableEq, Repr

namespace Version

def ofJson? : Json → Option Version
  | .array [major, minor, patch] => do
    some ⟨← major.word?, ← minor.word?, ← patch.word?⟩
  | _ => none

def toJson (version : Version) : Json :=
  .array [Json.ofWord version.major, Json.ofWord version.minor, Json.ofWord version.patch]

def text (version : Version) : String :=
  s!"[{version.major.toNat}, {version.minor.toNat}, {version.patch.toNat}]"

theorem ofJson?_toJson (version : Version) : ofJson? version.toJson = some version := by
  simp [toJson, ofJson?, Json.word?_ofWord]

end Version

def ClassKind.ofJson? (value : Json) : Option ClassKind := value.choice?.bind ClassKind.ofName?

def MetadataKind.ofJson? (value : Json) : Option MetadataKind :=
  value.choice?.bind MetadataKind.ofName?

structure Metadata where
  version : Version
  kind : MetadataKind
  moduleName : String
  classKind : Option ClassKind
  functions : List Member
  properties : List Member
  enumEntries : List String
  companion : Option String

namespace Metadata

def fieldNames : List String :=
  ["version", "kind", "module", "class_kind", "functions", "properties", "enum_entries",
    "companion_object"]

def ofJson? (value : Json) : Option Metadata := do
  match ← value.slots? fieldNames with
  | [some version, some kind, moduleName, classKind, functions, properties, enumEntries,
      companion] =>
    some {
      version := ← Version.ofJson? version
      kind := ← MetadataKind.ofJson? kind
      moduleName := ← withDefault "" Json.text? moduleName
      classKind := ← optional ClassKind.ofJson? classKind
      functions := ← withDefault [] (list? Member.ofJson?) functions
      properties := ← withDefault [] (list? Member.ofJson?) properties
      enumEntries := ← withDefault [] (list? Json.text?) enumEntries
      companion := ← optional Json.text? companion }
  | _ => none

def presentField (name : String) : Option String → List (String × Json)
  | none => []
  | some value => [(name, .string value)]

def toJson (metadata : Metadata) : Json :=
  .object (
    [("version", metadata.version.toJson), ("kind", .string metadata.kind.name),
      ("module", .string metadata.moduleName)] ++
    presentField "class_kind" (metadata.classKind.map ClassKind.name) ++
    [("functions", .array (metadata.functions.map Member.toJson)),
      ("properties", .array (metadata.properties.map Member.toJson)),
      ("enum_entries", .array (metadata.enumEntries.map .string))] ++
    presentField "companion_object" metadata.companion)

end Metadata

/-!
Decoding accepts nothing that a link could not be built from: a later major version, a missing
module or class kind, a receiver over a type parameter that is not declared. The checks are made in
this order and the first to fail is reported.
-/

inductive MetadataError where
  | malformed
  | unsupportedVersion (found : Version)
  | missingModule
  | missingClassKind
  | unknownParameter (member : String) (id : UInt32)
deriving DecidableEq, Repr

/-- The latest metadata version that is understood. Minor and patch versions may be later. -/
def supportedVersion : Version := ⟨2, 1, 0⟩

def MetadataError.message : MetadataError → String
  | .malformed => "malformed metadata"
  | .unsupportedVersion found =>
    "metadata version " ++ found.text ++ " is newer than the supported version " ++
      supportedVersion.text
  | .missingModule => "metadata does not declare a module name"
  | .missingClassKind => "class metadata does not declare a class kind"
  | .unknownParameter member id =>
    "member '" ++ member ++ "' references undeclared type parameter " ++ toString id.toNat

namespace Metadata

/-- The first member whose receiver refers to an undeclared type parameter, with the parameter. -/
def firstUndeclared : List Member → Option (String × UInt32)
  | [] => none
  | member :: rest =>
    match member.undeclared with
    | id :: _ => some (member.name, id)
    | [] => firstUndeclared rest

def checkMembers (members : List Member) : Except MetadataError Unit :=
  match firstUndeclared members with
  | some (member, id) => .error (.unknownParameter member id)
  | none => .ok ()

def requireModule (metadata : Metadata) : Except MetadataError Unit :=
  if metadata.moduleName.isEmpty then .error .missingModule else .ok ()

def declaredClass (metadata : Metadata) : Except MetadataError (ClassDeclaration String) := do
  metadata.requireModule
  match metadata.classKind with
  | none => .error .missingClassKind
  | some kind =>
    checkMembers metadata.functions
    checkMembers metadata.properties
    .ok {
      moduleName := metadata.moduleName
      kind := kind
      functions := metadata.functions
      properties := metadata.properties
      enumEntries := metadata.enumEntries
      companion := metadata.companion }

def declaredFacade (metadata : Metadata) : Except MetadataError Facade := do
  metadata.requireModule
  checkMembers metadata.functions
  checkMembers metadata.properties
  .ok {
    kind := metadata.kind
    moduleName := metadata.moduleName
    functions := metadata.functions
    properties := metadata.properties }

def declared (metadata : Metadata) : Except MetadataError (Declared String) :=
  if supportedVersion.major < metadata.version.major then
    .error (.unsupportedVersion metadata.version)
  else
    match metadata.kind with
    | .classFile => metadata.declaredClass.map .ofClass
    | .fileFacade | .multiFilePart => metadata.declaredFacade.map .ofPackage
    | .multiFileFacade | .synthetic => .ok (.nothing metadata.kind)

end Metadata

/-- What a stored value declares. -/
def decode (blob : Json) : Except MetadataError (Declared String) :=
  match Metadata.ofJson? blob with
  | some metadata => metadata.declared
  | none => .error .malformed

end ApiPages
