import ApiPages.Index.Basic
import ApiPages.Index.Scan
import ApiPages.Resolution.Candidates

/-!
What a run reports: an exit code, lines for a reader, or a response for other tools. A code says
which of a few things went wrong; zero says that nothing did.
-/

namespace ApiPages

inductive ExitCode where
  | success
  | generalError
  | notFound
  | invalidQuery
  | indexFailure
  | configError
deriving DecidableEq, Repr

namespace ExitCode

def number : ExitCode → Nat
  | .success => 0
  | .generalError => 1
  | .notFound => 3
  | .invalidQuery => 4
  | .indexFailure => 5
  | .configError => 6

def isSuccess (code : ExitCode) : Bool := code == .success

def description : ExitCode → String
  | .success => "Success"
  | .generalError => "General error"
  | .notFound => "Link not found"
  | .invalidQuery => "Invalid query"
  | .indexFailure => "Index build failure"
  | .configError => "Configuration error"

def ofResolution (error : ResolutionError) : ExitCode :=
  if error.isUserError then .invalidQuery
  else if error.isNotFound then .notFound
  else .generalError

def ofIndex : IndexError → ExitCode
  | .artifactRoot _ _ => .indexFailure
  | .configuration _ => .configError

theorem ofResolution_eq (error : ResolutionError) :
    ofResolution error = if error.isUserError then .invalidQuery else .notFound := by
  cases error <;> rfl

end ExitCode

/-!
Statistics have a count a line. Duplicates and dropped companions are mentioned only when there
are any.
-/

namespace Statistics

def countLine (label : String) (count : Nat) : String := "  " ++ label ++ ": " ++ toString count

/-- A line that is left out when nothing was counted. -/
def presentLine (label : String) (count : Nat) : List String :=
  if 0 < count then [countLine label count] else []

/-- Milliseconds as seconds with two digits behind the point, a half upwards. -/
def seconds (milliseconds : Nat) : String :=
  let hundredths := (milliseconds + 5) / 10
  let digits := toString (hundredths % 100)
  toString (hundredths / 100) ++ "." ++ (if digits.length < 2 then "0" else "") ++ digits ++ "s"

def lines (statistics : Statistics) (elapsed : String) : List String :=
  ["Declaration index:",
    countLine "Class records scanned" statistics.scanned,
    countLine "Without metadata" statistics.withoutMetadata] ++
  presentLine "Duplicate class records" statistics.duplicates ++
  [countLine "Undecodable metadata" statistics.failed,
    countLine "Classes" statistics.classes,
    countLine "Package facades" statistics.facades,
    countLine "Other entries" statistics.others] ++
  presentLine "Dropped companion links" statistics.droppedCompanions ++
  ["  Time elapsed: " ++ elapsed]

end Statistics

/-!
A response is a success that carries data or a failure that carries suggestions, and candidates if
there are any. Both carry the exit code of the run.
-/

inductive Response where
  | success (data : Json)
  | failure (code message : String) (suggestions candidates : List String) (exit : ExitCode)

def Link.toJson (link : Link) : Json :=
  .object [("label", .string link.label), ("url", .string link.url)]

def Statistics.toJson (statistics : Statistics) : Json :=
  .object [
    ("classes_scanned", .integer statistics.scanned),
    ("classes_without_metadata", .integer statistics.withoutMetadata),
    ("duplicate_classes", .integer statistics.duplicates),
    ("classes_failed", .integer statistics.failed),
    ("class_declarations", .integer statistics.classes),
    ("package_facades", .integer statistics.facades),
    ("other_entries", .integer statistics.others),
    ("dropped_companions", .integer statistics.droppedCompanions)]

namespace Response

def ofResolutionError (error : ResolutionError) : Response :=
  .failure error.code error.message error.suggestions error.candidates (.ofResolution error)

def ofIndexError (error : IndexError) : Response :=
  .failure error.code error.message error.suggestions [] (.ofIndex error)

def ofResolution : Except ResolutionError Link → Response
  | .ok link => .success link.toJson
  | .error error => ofResolutionError error

def exitCode : Response → ExitCode
  | .success _ => .success
  | .failure _ _ _ _ exit => exit

def texts (items : List String) : Json := .array (items.map .string)

/-- The candidates as a field, which is left out when there are none. -/
def candidatesField (candidates : List String) : List (String × Json) :=
  if candidates.isEmpty then [] else [("candidates", texts candidates)]

def toJson : Response → Json
  | .success data =>
    .object [
      ("status", .string "success"),
      ("code", .string "OK"),
      ("message", .string "Operation completed successfully"),
      ("data", data),
      ("exit_code", .integer ExitCode.success.number)]
  | .failure code message suggestions candidates exit =>
    .object [
      ("status", .string "error"),
      ("code", .string code),
      ("message", .string message),
      ("error", .object (("suggestions", texts suggestions) :: candidatesField candidates)),
      ("exit_code", .integer exit.number)]

end Response

end ApiPages
