import ApiPages.Json.Reader

/-!
Records of compiled classes. A binary name puts a slash behind every package segment and a dollar
sign between a class and the class it encloses; queries and pages use dots for both. A record file
holds the name of a class and, if the class has any, its metadata as an undecoded value.
-/

namespace ApiPages

structure BinaryName where
  text : String
deriving DecidableEq, Repr

namespace BinaryName

/-- The package and the class part, at the last slash. -/
def parts (name : BinaryName) : List Char × List Char :=
  (Text.splitLast? '/' name.text.toList).getD ([], name.text.toList)

/-- The dotted package, empty for the default package. -/
def package (name : BinaryName) : String := String.ofList (Text.swap '/' '.' name.parts.1)

/-- The class with the classes around it, outermost first. -/
def nestedName (name : BinaryName) : String := String.ofList (Text.swap '$' '.' name.parts.2)

def displayName (name : BinaryName) : String :=
  String.ofList (Text.swap '/' '.' name.text.toList)

def qualifiedName (name : BinaryName) : String :=
  if name.package.isEmpty then name.nestedName else name.package ++ "." ++ name.nestedName

def inner (name : BinaryName) (inner : String) : BinaryName := ⟨name.text ++ "$" ++ inner⟩

theorem length_lt_inner (name : BinaryName) (inner : String) :
    name.text.length < (name.inner inner).text.length := by
  simp only [BinaryName.inner, String.length_append]
  have : "$".length = 1 := by decide
  omega

example : (BinaryName.mk "a/b/Outer$Inner").qualifiedName = "a.b.Outer.Inner" := by decide

end BinaryName

/-- A class name as queries may write it: a dollar sign stands for a dot. -/
def dottedName (name : String) : String := String.ofList (Text.swap '$' '.' name.toList)

/-!
A record is an object whose own two keys occur at most once, or an array of one or both fields.
What stands under any other key has to be well formed and is skipped.
-/

structure Record where
  name : BinaryName
  metadata : Option Json

namespace Record

open Json (Piece Tree)

def package (record : Record) : String := record.name.package

/-- A stored value that is null counts as none. -/
def presentMetadata : Json → Option Json
  | .null => none
  | value => some value

structure Fields where
  name : Option String
  metadata : Option (Option Json)

/-- The nesting that is left inside the record itself. -/
def innerDepth : Nat := Json.maxDepth - 1

def nameOf? : Tree → Option String
  | .string pieces => Json.string? pieces
  | _ => none

def metadataOf? (tree : Tree) : Option (Option Json) :=
  (Json.ofTree? innerDepth tree).map presentMetadata

def readField (known : Fields) (key : String) (value : Tree) : Option Fields :=
  if key = "name" then
    match known.name with
    | none => (nameOf? value).map fun name => { known with name := some name }
    | some _ => none
  else if key = "metadata" then
    match known.metadata with
    | none => (metadataOf? value).map fun metadata => { known with metadata := some metadata }
    | some _ => none
  else some known

def readFields (known : Fields) : List (List Piece × Tree) → Option Fields
  | [] => some known
  | (key, value) :: rest => do
    let key ← Json.string? key
    readFields (← readField known key value) rest

def ofTree? : Tree → Option Record
  | .object fields => do
    let known ← readFields ⟨none, none⟩ fields
    some ⟨⟨← known.name⟩, known.metadata.getD none⟩
  | .array [name] => do some ⟨⟨← nameOf? name⟩, none⟩
  | .array [name, metadata] => do some ⟨⟨← nameOf? name⟩, ← metadataOf? metadata⟩
  | _ => none

def ofBytes? (bytes : List UInt8) : Option Record :=
  (Tree.ofSymbols? (Text.Utf8.symbols bytes)).bind ofTree?

def ofText? (text : String) : Option Record :=
  (Tree.ofSymbols? (Text.symbolsOf text.toList)).bind ofTree?

example : (ofText? "[\"a/B\"]").map Record.name = some ⟨"a/B"⟩ := by decide +kernel

example : (ofText? "\x7b\"name\":\"A\",\"name\":\"A\"\x7d").map Record.name = none := by
  decide +kernel

end Record

/-!
A filter names packages and accepts them with everything nested below them; a filter that names
none accepts all. Packages are compared by whole segments.
-/

structure PackageFilter where
  packages : List String
deriving DecidableEq, Repr

namespace PackageFilter

/-- The filter of some names, among which empty ones do not count. -/
def ofList (names : List String) : PackageFilter :=
  ⟨names.filter fun name => !name.isEmpty⟩

def all : PackageFilter := ⟨[]⟩

/-- Whether the inner text is the outer one or goes on with a dot behind it. -/
def within : List Char → List Char → Bool
  | [], [] => true
  | [], c :: _ => c == '.'
  | _ :: _, [] => false
  | a :: outer, b :: inner => a == b && within outer inner

def accepts (filter : PackageFilter) (package : String) : Bool :=
  filter.packages.isEmpty ||
    filter.packages.any fun outer => within outer.toList package.toList

def select (filter : PackageFilter) (records : List Record) : List Record :=
  records.filter fun record => filter.accepts record.package

@[simp] theorem accepts_all (package : String) : all.accepts package = true := rfl

@[simp] theorem select_all (records : List Record) : all.select records = records := by
  simp [select]

example : (ofList ["a.b"]).accepts "a.bc" = false := by decide

end PackageFilter

end ApiPages
