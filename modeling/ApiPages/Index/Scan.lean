import ApiPages.Files.Lookup
import ApiPages.Record

/-!
Scanning of artifact roots. A root is a directory, perhaps behind a link; its record files are those
with the extension `json` whose names do not start with a dot. The dot is looked for in names that
are UTF-8. A file that holds no record is skipped, and so is one whose path from the root on is too
long to be opened. Roots are scanned one after the other, and the first that cannot be scanned is
reported. It is the only reason why an index cannot be built at all.
-/

namespace ApiPages

inductive IndexError where
  /-- An artifact root that cannot be scanned. -/
  | artifactRoot (path : Path) (cause : String)
  | configuration (reason : String)
deriving DecidableEq, Repr

namespace IndexError

def message : IndexError → String
  | .artifactRoot path cause => "Failed to scan artifact root '" ++ path.display ++ "': " ++ cause
  | .configuration reason => "Invalid configuration: " ++ reason

def code : IndexError → String
  | .artifactRoot _ _ => "INDEX_BUILD_FAILURE"
  | .configuration _ => "CONFIG_ERROR"

def suggestions : IndexError → List String
  | .artifactRoot _ _ =>
    ["Check that the artifact roots in settings.toml exist and are readable",
      "Build the API classes before starting the resolver"]
  | .configuration _ => ["Run 'doclink config' to inspect the active settings"]

end IndexError

namespace Scan

def isHidden (name : FileName) : Bool :=
  (Text.Utf8.decode? name).any fun text => text.head? == some '.'

def isRecordName (name : FileName) : Bool :=
  !isHidden name && (Text.splitLast? Path.dot name).any fun (stem, extension) =>
    !stem.isEmpty && extension == ("json" : Path)

/-- The path of what stands at a place below a root, behind the root as it is given. -/
def pathBelow (root : Path) (place : Place) : Path := root.push (Text.join Path.slash place)

def record? (root : Path) (found : FileTree.FoundFile) : Option Record :=
  if found.path.getLast?.any isRecordName ∧
      (pathBelow root found.path).length ≤ FileTree.maxPathBytes then
    Record.ofBytes? found.content
  else none

def root (tree : FileTree) (here : Place) (path : Path) : Except IndexError (List Record) :=
  match tree.locate here path with
  | .error error => .error (.artifactRoot path error.message)
  | .ok place =>
    match tree.at? place with
    | some (.directory children) =>
      .ok ((FileTree.directory children).files.filterMap (record? path))
    | _ => .error (.artifactRoot path "artifact root is not a directory")

def roots (tree : FileTree) (here : Place) : List Path → Except IndexError (List Record)
  | [] => .ok []
  | path :: rest => do
    let first ← root tree here path
    let others ← roots tree here rest
    .ok (first ++ others)

/-- The records below some roots in packages that a filter accepts. -/
def accepted (filter : PackageFilter) (tree : FileTree) (here : Place) (paths : List Path) :
    Except IndexError (List Record) :=
  (roots tree here paths).map filter.select

example : isRecordName ".json" = false := by decide

end Scan

end ApiPages
