import ApiPages.Text.NameOrder
import ApiPages.Text.Segments
import ApiPages.Text.Utf8

/-!
Paths and file trees. A path is the bytes that the system keeps, and so is a name. Most are UTF-8,
and a text stands for the path that it encodes, but any bytes without a zero are a path. A path is
cut at its slashes. Empty segments and single dots are idle: they say nothing about where a path
leads. Two dots are a segment like any other, because what they lead to depends on links.
-/

namespace ApiPages

abbrev FileName := List UInt8

abbrev Path := List UInt8

namespace Path

instance : Coe String Path := ⟨Text.Utf8.encode⟩

/-- A path as it is shown. What is no UTF-8 in it is replaced. -/
def display (path : Path) : String := String.ofList (Text.Utf8.decodeLenient path)

def slash : UInt8 := 0x2F

def dot : UInt8 := 0x2E

def isAbsolute (path : Path) : Bool := path.head? == some slash

def isIdle (segment : FileName) : Bool := segment.isEmpty || segment == [dot]

def isUp (segment : FileName) : Bool := segment == [dot, dot]

def segments (path : Path) : List FileName :=
  (Text.split slash path).filter fun segment => !isIdle segment

/-- The second path as it is seen from the first. -/
def push (base path : Path) : Path :=
  if isAbsolute path then path
  else if base.isEmpty ∨ base.getLast? = some slash then base ++ path
  else base ++ slash :: path

/-- The path that a text names, as it is seen from another one. -/
def join (base : Path) (text : String) : Path := push base text

/-- The first segment of a path and those that go on from it, without the last one that counts and
the idle ones around it. -/
def parentOf (head : FileName) (tail : List FileName) : Option Path :=
  match tail.reverse.dropWhile isIdle with
  | _ :: before =>
    match (before.dropWhile isIdle).reverse with
    | [] => some (if head.isEmpty then [slash] else head)
    | kept => some (Text.join slash (head :: kept))
  | [] => if head.isEmpty then none else some []

/-- The path without its last segment, as it is written. Neither the root nor an empty path has a
parent; that of a single segment is empty. -/
def parent? (path : Path) : Option Path :=
  match Text.split slash path with
  | [] => none
  | head :: tail => parentOf head tail

/-- The name at the end of a path, if it ends in a name. -/
def fileName? (path : Path) : Option FileName :=
  match (segments path).getLast? with
  | some last => if isUp last then none else some last
  | none => none

theorem push_absolute (base : Path) {path : Path} (absolute : isAbsolute path = true) :
    push base path = path := by
  simp [push, absolute]

example : parent? "a//b/./c/" = some "a//b" := by decide

example : fileName? "a/.." = none := by decide

end Path

/-!
A tree holds files with their bytes, links with the path they hold, and directories with children of
distinct names. A place is the list of names that leads to it from the root, through directories
only. The files of a tree are listed in the order of their places: places are compared name by name,
and names by their bytes, so files and directories of one directory take turns. Links are passed by.
-/

inductive FileTree where
  | file (content : List UInt8)
  | link (target : Path)
  | directory (children : List (FileName × FileTree))

abbrev Place := List FileName

namespace FileTree

open Named (find? set)

def empty : FileTree := .directory []

def isDirectory : FileTree → Bool
  | .directory _ => true
  | _ => false

def child? (name : FileName) : FileTree → Option FileTree
  | .directory children => find? name children
  | _ => none

def at? : FileTree → Place → Option FileTree
  | tree, [] => some tree
  | tree, name :: rest => (tree.child? name).bind fun child => child.at? rest

/-- The tree with something else at a place. Directories on the way there are made. -/
def put : FileTree → Place → FileTree → FileTree
  | _, [], value => value
  | .directory children, name :: rest, value =>
    .directory (set name (put ((find? name children).getD empty) rest value) children)
  | _, name :: rest, value => .directory [(name, put empty rest value)]

theorem at?_put (tree : FileTree) (place : Place) (value : FileTree) :
    (tree.put place value).at? place = some value := by
  induction place generalizing tree with
  | nil => simp [put, at?]
  | cons name rest ih =>
    cases tree <;> simp [put, at?, child?, find?, Named.find?_set_self, ih]

def pathOf (place : Place) : Path :=
  if place.isEmpty then [Path.slash] else place.flatMap fun name => Path.slash :: name

structure FoundFile where
  path : Place
  content : List UInt8
deriving DecidableEq, Repr

def FoundFile.below (name : FileName) (found : FoundFile) : FoundFile :=
  { found with path := name :: found.path }

mutual

def files : FileTree → List FoundFile
  | .file content => [⟨[], content⟩]
  | .link _ => []
  | .directory children =>
    (Text.inNameOrder (filesOfChildren children)).flatMap fun (name, found) =>
      found.map (FoundFile.below name)

def filesOfChildren : List (FileName × FileTree) → List (FileName × List FoundFile)
  | [] => []
  | (name, tree) :: rest => (name, tree.files) :: filesOfChildren rest

end

example :
    ((directory [("b", directory [("z", file [1])]), ("c", link "b"), ("a", file [2]),
      ("b.c", file [])]).files.map FoundFile.path) =
        ([["a"], ["b", "z"], ["b.c"]] : List Place) := by
  decide

end FileTree

end ApiPages
