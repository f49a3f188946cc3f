import ApiPages.Declaration.Member

/-!
What compiled classes declare: a class, the members of a package, or nothing that has a page of
its own. Classes, metadata and members come in kinds; every kind has a name in records, and each
name belongs to one kind.
-/

namespace ApiPages

inductive ClassKind where
  | regular
  | interface
  | enumeration
  | enumEntry
  | annotationClass
  | object
  | companion
deriving DecidableEq, Repr

namespace ClassKind

def all : List ClassKind :=
  [.regular, .interface, .enumeration, .enumEntry, .annotationClass, .object, .companion]

def name : ClassKind → String
  | .regular => "class"
  | .interface => "interface"
  | .enumeration => "enum_class"
  | .enumEntry => "enum_entry"
  | .annotationClass => "annotation_class"
  | .object => "object"
  | .companion => "companion_object"

def ofName? (name : String) : Option ClassKind := all.find? fun kind => kind.name == name

theorem ofName?_name (kind : ClassKind) : ofName? kind.name = some kind := by
  cases kind <;> decide

end ClassKind

/-- What the metadata of a compiled class describes. The parts of a multi-file class carry its
declarations; its facade carries none. -/
inductive MetadataKind where
  | classFile
  | fileFacade
  | multiFileFacade
  | multiFilePart
  | synthetic
deriving DecidableEq, Repr

namespace MetadataKind

def all : List MetadataKind :=
  [.classFile, .fileFacade, .multiFileFacade, .multiFilePart, .synthetic]

def name : MetadataKind → String
  | .classFile => "class"
  | .fileFacade => "file_facade"
  | .multiFileFacade => "multi_file_class_facade"
  | .multiFilePart => "multi_file_class_part"
  | .synthetic => "synthetic_class"

def ofName? (name : String) : Option MetadataKind := all.find? fun kind => kind.name == name

def display : MetadataKind → String
  | .classFile => "class"
  | .fileFacade => "file facade"
  | .multiFileFacade => "multi-file class facade"
  | .multiFilePart => "multi-file class part"
  | .synthetic => "synthetic class"

theorem ofName?_name (kind : MetadataKind) : ofName? kind.name = some kind := by
  cases kind <;> decide

end MetadataKind

inductive MemberKind where
  | function
  | property
  | enumEntry
deriving DecidableEq, Repr

/-- The kinds of members that a query may resolve to. Enum entries are always among them. -/
structure KindSet where
  functions : Bool
  properties : Bool
deriving DecidableEq, Repr

namespace KindSet

def all : KindSet := ⟨true, true⟩

def empty : KindSet := ⟨false, false⟩

def function : KindSet := ⟨true, false⟩

def property : KindSet := ⟨false, true⟩

def union (a b : KindSet) : KindSet := ⟨a.functions || b.functions, a.properties || b.properties⟩

def admits (kinds : KindSet) : MemberKind → Bool
  | .function => kinds.functions
  | .property => kinds.properties
  | .enumEntry => true

/-- The set of one kind, by its name in letters of either case. -/
def ofName? (name : String) : Option KindSet :=
  let small := name.toList.map Char.toLower
  if small = "function".toList then some function
  else if small = "property".toList then some property
  else none

def names (kinds : KindSet) : List String :=
  (if kinds.functions then ["function"] else []) ++ (if kinds.properties then ["property"] else [])

end KindSet

/-!
A class may name a companion. How it does so is a parameter: by name when it is decoded, by a
link once it is indexed.
-/

structure ClassDeclaration (Ref : Type) where
  moduleName : String
  kind : ClassKind
  functions : List Member
  properties : List Member
  enumEntries : List String
  companion : Option Ref

/-- The functions and properties that a package declares in one file. -/
structure Facade where
  kind : MetadataKind
  moduleName : String
  functions : List Member
  properties : List Member

inductive Declared (Ref : Type) where
  | ofClass (declared : ClassDeclaration Ref)
  | ofPackage (declared : Facade)
  | nothing (kind : MetadataKind)

namespace ClassDeclaration

variable {Ref : Type}

def isAnnotation (declared : ClassDeclaration Ref) : Bool := declared.kind == .annotationClass

/-- The same class with its companion referred to in another way, or not at all. -/
def refer {Other : Type} (link? : Ref → Option Other) (declared : ClassDeclaration Ref) :
    ClassDeclaration Other :=
  { declared with companion := declared.companion.bind link? }

end ClassDeclaration

namespace Declared

variable {Ref : Type}

def class? : Declared Ref → Option (ClassDeclaration Ref)
  | .ofClass declared => some declared
  | _ => none

def facade? : Declared Ref → Option Facade
  | .ofPackage declared => some declared
  | _ => none

def refer {Other : Type} (link? : Ref → Option Other) : Declared Ref → Declared Other
  | .ofClass declared => .ofClass (declared.refer link?)
  | .ofPackage declared => .ofPackage declared
  | .nothing kind => .nothing kind

def isClass (declared : Declared Ref) : Bool := declared.class?.isSome

def isFacade (declared : Declared Ref) : Bool := declared.facade?.isSome

def isNothing : Declared Ref → Bool
  | .nothing _ => true
  | _ => false

def companion? (declared : Declared Ref) : Option Ref :=
  declared.class?.bind ClassDeclaration.companion

theorem isClass_refer {Other : Type} (link? : Ref → Option Other) (declared : Declared Ref) :
    (declared.refer link?).isClass = declared.isClass := by
  cases declared <;> rfl

theorem facade?_refer {Other : Type} (link? : Ref → Option Other) (declared : Declared Ref) :
    (declared.refer link?).facade? = declared.facade? := by
  cases declared <;> rfl

theorem companion?_refer {Other : Type} (link? : Ref → Option Other) (declared : Declared Ref) :
    (declared.refer link?).companion? = declared.companion?.bind link? := by
  cases declared <;> rfl

end Declared

end ApiPages
