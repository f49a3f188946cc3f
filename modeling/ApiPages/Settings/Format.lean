import ApiPages.Files.Tree
import ApiPages.Link
import ApiPages.Record
import ApiPages.Toml.Value

/-!
Settings: where the compiled classes are, which packages count, and where their documentation is
published. Relative artifact roots are seen from the workspace, the directory that holds the
directory of the settings file.
-/

namespace ApiPages

structure Settings where
  version : UInt32
  workspace : Option Path
  debug : Bool
  docRoot : String
  artifactRoots : List String
  packages : List String
  threads : UInt64
  bind : String
deriving DecidableEq, Repr

namespace Settings

def default (processors : UInt64) : Settings where
  version := 1
  workspace := none
  debug := false
  docRoot := Site.defaultRoot
  artifactRoots := ["build/classes"]
  packages := []
  threads := processors
  bind := "127.0.0.1:16069"

def site (settings : Settings) : Site := .ofRoot settings.docRoot

def filter (settings : Settings) : PackageFilter := .ofList settings.packages

/-- The artifact roots as they are seen from anywhere. -/
def resolvedRoots (settings : Settings) : List Path :=
  match settings.workspace with
  | none => settings.artifactRoots.map Text.Utf8.encode
  | some workspace => settings.artifactRoots.map (Path.join workspace)

/-- The same settings in a workspace, unless they name one themselves. -/
def within (workspace : Option Path) (settings : Settings) : Settings :=
  { settings with workspace := settings.workspace <|> workspace }

/-!
As TOML, the artifact roots, package prefixes and threads make up the table `index`; the
documentation root and the address of the server have a table each. A table may be written as an
array of its leading fields, and fields that are left out have their defaults.
-/

/-- The fields of a table. A moment of time holds none that counts. -/
def fields? : Toml → Option (List (String × Toml))
  | .table fields => some fields
  | .moment _ => some []
  | _ => none

/-- The declared fields of a table or of an array, in the order of declaration. -/
def slots? (names : List String) : Toml → Option (List (Option Toml))
  | .array items =>
    some ((items.map some ++ List.replicate names.length none).take names.length)
  | value => (fields? value).map fun fields => names.map fun name => Named.find? name fields

def withDefault {α : Type} (fallback : α) (read : Toml → Option α) : Option Toml → Option α
  | none => some fallback
  | some value => read value

def text? : Toml → Option String
  | .string value => some value
  | _ => none

def texts? : Toml → Option (List String)
  | .array items => items.mapM text?
  | _ => none

def path? (value : Toml) : Option (Option Path) :=
  (text? value).map fun (text : String) => some (text : Path)

def switch? : Toml → Option Bool
  | .bool value => some value
  | _ => none

def word? : Toml → Option UInt32
  | .integer n => if 0 ≤ n ∧ n < UInt32.size then some (UInt32.ofNat n.toNat) else none
  | _ => none

def count? : Toml → Option UInt64
  | .integer n => if 0 ≤ n ∧ n < UInt64.size then some (UInt64.ofNat n.toNat) else none
  | _ => none

def plainFields (settings : Settings) : List (String × Toml) :=
  ("version", .integer settings.version.toNat) ::
    (settings.workspace.map fun workspace =>
      ("workspace_root", Toml.string workspace.display)).toList ++
    [("debug", .bool settings.debug)]

def sections (settings : Settings) : List Toml.Section :=
  [⟨"docs", [("root_url", .string settings.docRoot)]⟩,
    ⟨"index", [
      ("artifact_roots", .array (settings.artifactRoots.map .string)),
      ("package_prefixes", .array (settings.packages.map .string)),
      ("parallel_threads", .integer settings.threads.toNat)]⟩,
    ⟨"server", [("bind", .string settings.bind)]⟩]

def toFields (settings : Settings) : List (String × Toml) :=
  settings.plainFields ++ settings.sections.map fun part => (part.name, .table part.fields)

inductive PrintError where
  | workspace
  | threads
deriving DecidableEq, Repr

def PrintError.message : PrintError → String
  | .workspace => "path contains invalid UTF-8 characters"
  | .threads => "out-of-range value for u64 type"

/-- The text of settings. Neither a path that is no UTF-8 can be written nor a number that no TOML
integer can hold. -/
def print (settings : Settings) : Except PrintError String :=
  if settings.workspace.any fun path => (Text.Utf8.decode? path).isNone then .error .workspace
  else if settings.threads.toNat < Decimal.signedSize then
    .ok (Toml.printDocument settings.plainFields settings.sections)
  else .error .threads

/-- The value of a table with one field. -/
def onlyField? (fallback : String) (name : String) (table : Option Toml) : Option String :=
  match table with
  | none => some fallback
  | some table => do
    match ← slots? [name] table with
    | [value] => withDefault fallback text? value
    | _ => none

structure IndexFields where
  artifactRoots : List String
  packages : List String
  threads : UInt64

def indexFields? (defaults : Settings) (table : Option Toml) : Option IndexFields :=
  match table with
  | none => some ⟨defaults.artifactRoots, defaults.packages, defaults.threads⟩
  | some table => do
    match ← slots? ["artifact_roots", "package_prefixes", "parallel_threads"] table with
    | [artifactRoots, packages, threads] =>
      some {
        artifactRoots := ← withDefault defaults.artifactRoots texts? artifactRoots
        packages := ← withDefault defaults.packages texts? packages
        threads := ← withDefault defaults.threads count? threads }
    | _ => none

/-- The settings in some fields. Fields of other names do not matter. -/
def ofFields? (defaults : Settings) (fields : List (String × Toml)) : Option Settings := do
  let index ← indexFields? defaults (Named.find? "index" fields)
  some {
    version := ← withDefault defaults.version word? (Named.find? "version" fields)
    workspace := ← withDefault none path? (Named.find? "workspace_root" fields)
    debug := ← withDefault defaults.debug switch? (Named.find? "debug" fields)
    docRoot := ← onlyField? defaults.docRoot "root_url" (Named.find? "docs" fields)
    artifactRoots := index.artifactRoots
    packages := index.packages
    threads := index.threads
    bind := ← onlyField? defaults.bind "bind" (Named.find? "server" fields) }

/-!
A later layer is laid over an earlier one key by key: tables are merged, and any other value, arrays
included, replaces what was there.
-/

mutual

/-- A value with another one laid over it. -/
def overlay (below : Toml) : Toml → Toml
  | .table above =>
    match fields? below with
    | some known => .table (overlayFields known above)
    | none => .table above
  | .moment literal =>
    match fields? below with
    | some known => .table known
    | none => .moment literal
  | above => above

def overlayFields (known : List (String × Toml)) : List (String × Toml) → List (String × Toml)
  | [] => known
  | (key, value) :: rest =>
    let merged := match Named.find? key known with
      | some below => overlay below value
      | none => value
    overlayFields (Named.set key merged known) rest

end

/-- Layers from the lowest to the uppermost. -/
def merged (layers : List (List (String × Toml))) : List (String × Toml) :=
  layers.foldl overlayFields []

def ofLayers? (defaults : Settings) (layers : List (List (String × Toml))) : Option Settings :=
  ofFields? defaults (merged (defaults.toFields :: layers))

example :
    (ofLayers? (default 4) [[("docs", .table [("root_url", .string "a")])],
      [("docs", .table [("other", .bool true)])]]).map docRoot = some "a" := by
  decide +kernel

end Settings

end ApiPages
