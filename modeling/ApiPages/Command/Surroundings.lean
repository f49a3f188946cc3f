import ApiPages.Command.Line
import ApiPages.Settings.Load

/-!
What a run has to know of the machine before it starts: which paths it may look for settings at,
which commands need record files, and the surroundings that come of what was found.
-/

namespace ApiPages

namespace Command

def Job.needsIndex : Job → Bool
  | .config => false
  | .index _ _ | .resolve _ _ | .serve _ => true

def Line.needsIndex : Line → Bool
  | .run _ job => job.needsIndex
  | _ => false

def Line.settingsPath? : Line → Option String
  | .run path _ => path
  | _ => none

/-- The paths that a line may find its settings at, with the directories for settings first. -/
def Line.settingsPaths (line : Line) (here : Place) : List Path :=
  let places := (Settings.outwards here).map FileTree.pathOf
  places.map (fun place => place.push Settings.directoryName) ++
    places.map Settings.fileIn ++
    line.settingsPath?.toList.flatMap fun path => places.map fun place => Path.join place path

end Command

namespace FileTree

/-- What stands at a path: a file with its bytes, or a directory. -/
inductive Found where
  | file (content : List UInt8)
  | directory

/-- The tree with something that was found, unless something else is in the way. -/
def add (tree : FileTree) (here : Place) (path : Path) (found : Found) : FileTree :=
  let added := match found with
    | .directory => tree.makeDirectories here path
    | .file content => do
      let made ← tree.makeDirectories here (path.parent?.getD [])
      made.writeFile here path content
  match added with
  | .ok added => added
  | .error _ => tree

end FileTree

namespace Surroundings

def assignment? (text : List Char) : Option (String × String) :=
  match text.dropWhile (· != '=') with
  | _ :: value => some (String.ofList (text.takeWhile (· != '=')), String.ofList value)
  | [] => none

/-- The variables of a block in which a zero character closes each of them. -/
def variablesOf (block : List Char) : List (String × String) :=
  Text.inNameOrder ((Text.split '\x00' block).filterMap assignment?)

/-- How many processors a mask of hexadecimal digits allows. -/
def processorsIn (mask : List Char) : Nat :=
  (mask.filterMap Text.hexValue?).foldl
    (fun count digit => count + digit % 2 + digit / 2 % 2 + digit / 4 % 2 + digit / 8) 0

def ofFound (here : Place) (found : List (Path × FileTree.Found))
    (environment : List (String × String)) (processors : UInt64) : Surroundings where
  files := found.foldl (fun tree (path, found) => tree.add here path found)
    (FileTree.empty.put here .empty)
  here := here
  environment := environment
  processors := processors

example : variablesOf "B=1=2\x00A=\x00C\x00".toList = [("A", ""), ("B", "1=2")] := by decide

example : processorsIn "\t0000000f,80000001".toList = 6 := by decide

end Surroundings

end ApiPages
