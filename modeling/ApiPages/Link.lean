import ApiPages.Declaration.Declared

/-!
Addresses of documentation pages. Below the root of a site come the module, the package as a path,
the nested class path and the member. Packages are written as they are; modules, classes and members
in doc case, in small letters with a hyphen in front of every capital but a leading one. Only the
letters of ASCII have a case here. Empty segments of a package or a class path are skipped.
-/

namespace ApiPages.DocCase

def continued : List Char → List Char
  | [] => []
  | c :: rest =>
    if c.isUpper then '-' :: c.toLower :: continued rest else c :: continued rest

def segment : List Char → List Char
  | [] => []
  | c :: rest => c.toLower :: continued rest

theorem continued_eq_self {text : List Char} (small : ∀ c ∈ text, ¬c.isUpper) :
    continued text = text := by
  induction text with
  | nil => rfl
  | cons c rest ih =>
    rw [continued, if_neg (small c List.mem_cons_self),
      ih fun d member => small d (List.mem_cons_of_mem _ member)]

end DocCase

def docCase (text : String) : String := String.ofList (DocCase.segment text.toList)

example : docCase "URLFor" = "u-r-l-for" := by decide

structure Link where
  label : String
  url : String
deriving DecidableEq, Repr

def Link.display (link : Link) : String := "[" ++ link.label ++ "](" ++ link.url ++ ")"

/-- A documentation site, by the address of its root without trailing slashes. -/
structure Site where
  root : String
deriving DecidableEq, Repr

namespace Site

def dropTrailingSlashes (text : List Char) : List Char :=
  (text.reverse.dropWhile (· == '/')).reverse

def ofRoot (root : String) : Site := ⟨String.ofList (dropTrailingSlashes root.toList)⟩

def defaultRoot : String := "https://docs.example"

def default : Site := ofRoot defaultRoot

def dottedSegments (path : String) : List (List Char) :=
  (Text.split '.' path.toList).filter fun segment => !segment.isEmpty

def baseSegments (moduleName package nestedPath : String) : List (List Char) :=
  DocCase.segment moduleName.toList :: dottedSegments package ++
    (dottedSegments nestedPath).map DocCase.segment

def path (segments : List (List Char)) : List Char := segments.flatMap fun segment => '/' :: segment

/-- The address of a package, or of a class if the nested path names one. -/
def base (site : Site) (moduleName package nestedPath : String) : String :=
  site.root ++ String.ofList (path (baseSegments moduleName package nestedPath))

def pageName (text : String) : String := docCase text ++ ".html"

def indexPage (base : String) : String := base ++ "/index.html"

/-- The page of a member. An enum entry has a directory of its own. -/
def memberPage (base member : String) : MemberKind → String
  | .function | .property => base ++ "/" ++ pageName member
  | .enumEntry => indexPage (base ++ "/" ++ docCase member)

example :
    (ofRoot "https://docs.example//").base "my-Module" "io.bot" "Outer.InnerClass" =
      "https://docs.example/my--module/io/bot/outer/inner-class" := by
  decide

end Site

end ApiPages
