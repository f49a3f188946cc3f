import ApiPages.Files.Tree

/-!
Where a path leads, and how a tree changes through a path. Links on the way are followed, forty of
them at most; two dots lead to the directory around the place that was reached. Only the last name
of a path may be missing, which is then known with the directory it is missing from. A change gives
the new tree, or the reason why nothing was changed.
-/

namespace ApiPages

inductive FileError where
  | missing
  | occupied
  | notDirectory
  | isDirectory
  | nameTooLong
  | tooManyLinks
  /-- A path with a zero in it never reaches the operating system. -/
  | zeroInPath
deriving DecidableEq, Repr

def FileError.message : FileError → String
  | .missing => "No such file or directory (os error 2)"
  | .occupied => "File exists (os error 17)"
  | .notDirectory => "Not a directory (os error 20)"
  | .isDirectory => "Is a directory (os error 21)"
  | .nameTooLong => "File name too long (os error 36)"
  | .tooManyLinks => "Too many levels of symbolic links (os error 40)"
  | .zeroInPath => "file name contained an unexpected NUL byte"

namespace FileTree

inductive Lookup where
  | present (place : Place)
  | absent (directory : Place) (name : FileName)
deriving DecidableEq, Repr

def maxLinks : Nat := 40

def maxNameBytes : Nat := 255

def maxPathBytes : Nat := 4095

/-- The steps of a path. A slash at the end is a step that stays. -/
def steps (path : Path) : List FileName :=
  let written := (Text.split Path.slash path).filter fun segment => !segment.isEmpty
  if path.getLast? = some Path.slash then written ++ [[Path.dot]] else written

def start (here : Place) (path : Path) : Place := if path.isAbsolute then [] else here

def parentPlace (place : Place) : Place := place.dropLast

/-- Takes the steps from a place, given how to go on where a link is met. -/
def stepThrough (tree : FileTree)
    (follow : Place → Path → List FileName → Except FileError Lookup) :
    Place → List FileName → Except FileError Lookup
  | place, [] => .ok (.present place)
  | place, step :: rest =>
    match tree.at? place with
    | some (.directory children) =>
      if step = [Path.dot] then stepThrough tree follow place rest
      else if Path.isUp step then stepThrough tree follow (parentPlace place) rest
      else if maxNameBytes < step.length then .error .nameTooLong
      else
        match Named.find? step children with
        | some (.link target) => follow place target rest
        | some _ => stepThrough tree follow (place ++ [step]) rest
        | none => if rest.isEmpty then .ok (.absent place step) else .error .missing
    | some _ => .error .notDirectory
    | none => .error .missing

/-- Takes the steps from a place through as many links as are left. -/
def stepsFrom (tree : FileTree) : Nat → Place → List FileName → Except FileError Lookup
  | 0 => stepThrough tree fun _ _ _ => .error .tooManyLinks
  | left + 1 => stepThrough tree fun place target rest =>
    stepsFrom tree left (start place target) (steps target ++ rest)

def checkPath (path : Path) : Except FileError Unit :=
  if path.isEmpty then .error .missing
  else if 0 ∈ path then .error .zeroInPath
  else if maxPathBytes < path.length then .error .nameTooLong
  else .ok ()

def lookup (tree : FileTree) (here : Place) (path : Path) : Except FileError Lookup := do
  checkPath path
  tree.stepsFrom maxLinks (start here path) (steps path)

def locate (tree : FileTree) (here : Place) (path : Path) : Except FileError Place := do
  match ← tree.lookup here path with
  | .present place => .ok place
  | .absent _ _ => .error .missing

def get? (tree : FileTree) (here : Place) (path : Path) : Option FileTree :=
  match tree.locate here path with
  | .ok place => tree.at? place
  | .error _ => none

def hasDirectory (tree : FileTree) (here : Place) (path : Path) : Bool :=
  (tree.get? here path).any isDirectory

def content? (tree : FileTree) (here : Place) (path : Path) : Option (List UInt8) :=
  match tree.get? here path with
  | some (.file content) => some content
  | _ => none

/-! Changes. -/

/-- The steps to the directory of a path, and the last step. -/
def lastStep? (path : Path) : Option (List FileName × FileName) :=
  let written := (Text.split Path.slash path).filter fun segment => !segment.isEmpty
  written.getLast?.map fun last => (written.dropLast, last)

/-- Puts something new under the last name of a path. What stands there, even a link, is in the
way. -/
def addNew (tree : FileTree) (here : Place) (path : Path) (value : FileTree) :
    Except FileError FileTree := do
  checkPath path
  match lastStep? path with
  | none => .error .occupied
  | some (front, last) =>
    match ← tree.stepsFrom maxLinks (start here path) (front ++ [[Path.dot]]) with
    | .absent _ _ => .error .missing
    | .present around =>
      if Path.isIdle last ∨ Path.isUp last then .error .occupied
      else if maxNameBytes < last.length then .error .nameTooLong
      else
        let place := around ++ [last]
        if (tree.at? place).isSome then .error .occupied else .ok (tree.put place value)

def makeDirectory (tree : FileTree) (here : Place) (path : Path) : Except FileError FileTree :=
  tree.addNew here path empty

def makeLink (tree : FileTree) (here : Place) (path target : Path) : Except FileError FileTree :=
  tree.addNew here path (.link target)

/-- Makes a directory, and first the one around it where that is missing. -/
def makeDirectoriesWithin (tree : FileTree) (here : Place) :
    Nat → Path → Except FileError FileTree
  | 0, _ => .error .missing
  | bound + 1, path =>
    if path.isEmpty then .ok tree
    else
      match tree.makeDirectory here path with
      | .ok made => .ok made
      | .error .missing =>
        match path.parent? with
        | none => .error .missing
        | some parent => do
          let made ← tree.makeDirectoriesWithin here bound parent
          match made.makeDirectory here path with
          | .ok made => .ok made
          | .error error => if made.hasDirectory here path then .ok made else .error error
      | .error error => if tree.hasDirectory here path then .ok tree else .error error

/-- Makes a directory with all those around it. Every parent is shorter, so the length of the path
bounds their number. -/
def makeDirectories (tree : FileTree) (here : Place) (path : Path) : Except FileError FileTree :=
  tree.makeDirectoriesWithin here (path.length + 1) path

/-- Writes a file, through links, over what it held before. -/
def writeFile (tree : FileTree) (here : Place) (path : Path) (content : List UInt8) :
    Except FileError FileTree := do
  match ← tree.lookup here path with
  | .absent around name => .ok (tree.put (around ++ [name]) (.file content))
  | .present place =>
    if (tree.at? place).any isDirectory then .error .isDirectory
    else .ok (tree.put place (.file content))

example :
    ((empty.makeDirectories [] "/a/b").bind fun made =>
      (made.writeFile ["a"] "b/c" [104]).map fun written => written.content? [] "/a/b/../b/c") =
      .ok (some [104]) := rfl

example : ((empty.makeLink [] "/a" "a").bind fun made => made.locate [] "/a") =
    .error .tooManyLinks := rfl

end FileTree

end ApiPages
