import ApiPages.Command.Line
import ApiPages.Report
import ApiPages.Resolution.Resolve
import ApiPages.Settings.Load

/-!
Runs of the program. A run takes its arguments and its surroundings, and comes to an exit code, what
it prints, and the files as it leaves them. Only a first settings file is ever written.
-/

namespace ApiPages.Command

/-- What a run comes to. -/
structure Run where
  exit : Nat
  output : List String
  errors : List String
  files : FileTree

def versionLine : String := "doclink 0.3.1"

def misuseExit : Nat := 2

def helpLines : List String :=
  ["Resolve API identifiers to documentation links",
    "",
    "Usage: doclink [OPTIONS] <COMMAND>",
    "",
    "Commands:",
    "  init     Set up .doclink directory with default configuration",
    "  config   Display active settings from .doclink/settings.toml",
    "  index    Build the declaration index and print its statistics",
    "  resolve  Resolve a query to a documentation link",
    "  serve    Serve documentation links over HTTP"]

def suggestionLines (suggestions : List String) : List String :=
  suggestions.map fun suggestion => "  - " ++ suggestion

def errorLines (message : String) (suggestions : List String) : List String :=
  ("Error: " ++ message) :: suggestionLines suggestions

/-! Where a text is wanted, a path is shown. -/

instance : CoeOut Path String := ⟨Path.display⟩

instance : CoeOut (List Path) (List String) := ⟨List.map Path.display⟩

namespace Run

def printed (files : FileTree) (lines : List String) : Run := ⟨0, lines, [], files⟩

def failed (files : FileTree) (exit : ExitCode) (lines : List String) : Run :=
  ⟨exit.number, [], lines, files⟩

def responded (files : FileTree) (response : Response) : Run :=
  ⟨response.exitCode.number, [response.toJson.pretty], [], files⟩

/-- The same run with lines of errors in front. -/
def after (lines : List String) (run : Run) : Run := { run with errors := lines ++ run.errors }

end Run

def runInit (around : Surroundings) (force : Bool) : Run :=
  let workspace := FileTree.pathOf around.here
  match Settings.init around workspace force with
  | .ok written =>
    .printed written
      ["Created configuration file at: " ++ ↑(Settings.fileIn workspace),
        "Edit this file to customize your settings."]
  | .error error => .failed around.files .configError ["Error: " ++ error.message]

def configHeader : List String :=
  ["Current Configuration:", String.ofList (List.replicate 50 '=')]

def runConfig (around : Surroundings) (settings : Settings) : Run :=
  match settings.print with
  | .ok text => .printed around.files (configHeader ++ [text])
  | .error error =>
    ⟨0, configHeader, ["Error displaying config: " ++ error.message], around.files⟩

def buildIndex (around : Surroundings) (settings : Settings) : Except IndexError Index :=
  (Scan.accepted settings.filter around.files around.here settings.resolvedRoots).map
    Index.ofRecords

def documentation (around : Surroundings) (settings : Settings) :
    Except IndexError Documentation :=
  (buildIndex around settings).map fun index => ⟨index, settings.site⟩

def withoutIndex (around : Surroundings) (json : Bool) (error : IndexError) : Run :=
  let response := Response.ofIndexError error
  if json then .responded around.files response
  else .failed around.files response.exitCode (errorLines error.message error.suggestions)

def runIndex (around : Surroundings) (settings : Settings) (elapsed : String) (json : Bool) :
    Run :=
  match buildIndex around settings with
  | .error error => withoutIndex around json error
  | .ok index =>
    if json then .responded around.files (.success index.statistics.toJson)
    else .printed around.files (index.statistics.lines elapsed)

def reported (files : FileTree) (json : Bool) (outcome : Except ResolutionError Link) : Run :=
  let response := Response.ofResolution outcome
  if json then .responded files response
  else
    match outcome with
    | .ok link => .printed files [link.label, link.url]
    | .error error =>
      .failed files response.exitCode (errorLines error.message error.suggestions)

def runResolve (around : Surroundings) (settings : Settings) (query : String) (json : Bool) :
    Run :=
  match documentation around settings with
  | .error error => withoutIndex around json error
  | .ok documentation => reported around.files json (documentation.answer query)

def noServer : String :=
  "HTTP server support is not compiled in. Rebuild with: cargo build --features http-server"

/-- This program resolves links but opens no connections. -/
def runServe (around : Surroundings) (settings : Settings) : Run :=
  match buildIndex around settings with
  | .error error => withoutIndex around false error
  | .ok _ => .failed around.files .generalError ["Server error: " ++ noServer]

def runWith (around : Surroundings) (elapsed : String) (settings : Settings) : Job → Run
  | .config => runConfig around settings
  | .index _ json => runIndex around settings elapsed json
  | .resolve words json => runResolve around settings (Text.separated " " words) json
  | .serve _ => runServe around settings

def unusableSettings : String := "the settings cannot be read"

/-- Does a job under the settings at a path, or under those of the workspace. Settings of the
workspace that cannot be read give way to the defaults. -/
def runJob (around : Surroundings) (elapsed : String) (settingsPath : Option String)
    (job : Job) : Run :=
  match settingsPath with
  | some path =>
    match Settings.loadFrom? around path with
    | some settings => runWith around elapsed settings job
    | none =>
      .failed around.files .configError
        ["Configuration error loading from " ++ path ++ ": " ++ unusableSettings]
  | none =>
    match Settings.load? around with
    | some settings => runWith around elapsed settings job
    | none =>
      (runWith around elapsed (.default around.processors) job).after
        ["Configuration error: " ++ unusableSettings, "Using default configuration."]

/-- The run of some arguments. How long an index takes to build is given by the caller. A first
settings file is made whatever the present settings are. -/
def run (around : Surroundings) (elapsed : String) (arguments : List String) : Run :=
  match Line.ofArguments arguments with
  | .misuse => ⟨misuseExit, [], [], around.files⟩
  | .version => .printed around.files [versionLine]
  | .help => .printed around.files helpLines
  | .init force => runInit around force
  | .run settingsPath job => runJob around elapsed settingsPath job

def Run.text (lines : List String) : String := String.join (lines.map fun line => line ++ "\n")

theorem exit_reported (files : FileTree) (json : Bool) (outcome : Except ResolutionError Link) :
    (reported files json outcome).exit = (Response.ofResolution outcome).exitCode.number := by
  cases outcome <;> cases json <;> rfl

end ApiPages.Command
