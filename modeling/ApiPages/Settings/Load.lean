import ApiPages.Files.Lookup
import ApiPages.Settings.Environment
import ApiPages.Toml.Document

/-!
Settings loaded and saved. The layers are the defaults, the settings file if there is one, and the
environment. The file is named by its path, or it is the one in the nearest workspace: the nearest
directory, from the current one upwards, that holds a directory for settings.
-/

namespace ApiPages

/-- What a run sees of the machine: the files, the current directory, the environment variables in
the order of their names, and the number of processors. -/
structure Surroundings where
  files : FileTree
  here : Place
  environment : List (String × String)
  processors : UInt64

namespace Settings

def directoryName : FileName := ".doclink"

def fileName : FileName := "settings.toml"

def fileIn (workspace : Path) : Path := (workspace.push directoryName).push fileName

/-- A place and the directories around it, innermost first. -/
def outwards : Place → List Place
  | [] => [[]]
  | name :: rest => (outwards rest).map (name :: ·) ++ [[]]

/-- The first file that a relative path leads to from a place or a directory around it. An absolute
path leads to one file at most. -/
def fileContent? (files : FileTree) (here : Place) (path : Path) : Option (List UInt8) :=
  if path.isAbsolute then files.content? here path
  else (outwards here).findSome? fun place => files.content? place path

/-- The layer of a settings file, which is empty if there is no such file. -/
def fileLayer? (files : FileTree) (here : Place) (path : Path) :
    Option (List (String × Toml)) :=
  match fileContent? files here path with
  | none => some []
  | some bytes => do
    let text ← Text.Utf8.decode? bytes
    Toml.read? (String.ofList text)

def layered? (around : Surroundings) (path : Path) : Option Settings := do
  let file ← fileLayer? around.files around.here path
  ofLayers? (.default around.processors) [file, Environment.layer around.environment]

/-- The workspace that a settings file belongs to: the directory around its directory if that is
one for settings, and its directory otherwise. -/
def workspaceOf (path : Path) : Option Path :=
  match path.parent? with
  | none => none
  | some parent =>
    let parent := if parent.isEmpty then [Path.dot] else parent
    if Path.fileName? parent = some directoryName then Path.parent? parent else some parent

def nearestWorkspace? (files : FileTree) (here : Place) : Option Path :=
  ((outwards here).find? fun place => files.hasDirectory place directoryName).map FileTree.pathOf

def loadFrom? (around : Surroundings) (path : Path) : Option Settings :=
  (layered? around path).map (within (workspaceOf path))

def load? (around : Surroundings) : Option Settings :=
  let workspace := nearestWorkspace? around.files around.here
  let path := match workspace with
    | some workspace => fileIn workspace
    | none => Path.push directoryName fileName
  (layered? around path).map (within workspace)

inductive SaveError where
  | noParent
  | unwritable (error : PrintError)
  | files (error : FileError)
deriving DecidableEq, Repr

/-- The files with settings saved at a path. -/
def save (settings : Settings) (files : FileTree) (here : Place) (path : Path) :
    Except SaveError FileTree :=
  match path.parent? with
  | none => .error .noParent
  | some parent =>
    match files.makeDirectories here parent with
    | .error error => .error (.files error)
    | .ok made =>
      match settings.print with
      | .error error => .error (.unwritable error)
      | .ok text =>
        match made.writeFile here path (Text.Utf8.encode text) with
        | .error error => .error (.files error)
        | .ok saved => .ok saved

example : workspaceOf "settings.toml" = some [Path.dot] := by decide

/-!
A first settings file for a workspace has comments that explain its fields. An existing file is only
written over by force.
-/

/-- The lines of the file. They set every field but the number of threads to its default. -/
def templateLines (settings : Settings) : List String :=
  ["# doclink configuration file",
    "",
    "# Version of the configuration schema",
    "version = 1",
    "",
    "# Global debug mode",
    "debug = false",
    "",
    "[docs]",
    "# Root of the published documentation",
    "root_url = \"" ++ settings.docRoot ++ "\"",
    "",
    "[index]",
    "# Directories holding compiled class records (relative to the workspace root)",
    "artifact_roots = [\"build/classes\"]",
    "",
    "# Only index these packages and the packages nested below them",
    "# package_prefixes = [\"io.github.example.api\"]",
    "package_prefixes = []",
    "",
    "# Number of threads decoding metadata (defaults to CPU count)",
    "# parallel_threads = " ++ toString settings.threads.toNat,
    "",
    "[server]",
    "# Address of the HTTP link server",
    "bind = \"" ++ settings.bind ++ "\""]

def template (settings : Settings) : String :=
  String.join (settings.templateLines.map fun line => line ++ "\n")

inductive InitError where
  | alreadyThere
  | files (error : FileError)
deriving DecidableEq, Repr

def InitError.message : InitError → String
  | .alreadyThere => "Configuration file already exists. Use --force to overwrite"
  | .files error => error.message

def writeTemplate (around : Surroundings) (workspace : Path) : Except FileError FileTree := do
  let made ← around.files.makeDirectories around.here (workspace.push directoryName)
  let text := template (.default around.processors)
  made.writeFile around.here (fileIn workspace) (Text.Utf8.encode text)

def init (around : Surroundings) (workspace : Path) (force : Bool) :
    Except InitError FileTree :=
  if !force && (around.files.get? around.here (fileIn workspace)).isSome then
    .error .alreadyThere
  else
    match writeTemplate around workspace with
    | .ok written => .ok written
    | .error error => .error (.files error)

end Settings

end ApiPages
