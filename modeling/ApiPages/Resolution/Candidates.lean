import ApiPages.Link

/-!
Why a query has no single page. The first three causes are faults of the query itself; the other
two depend on what is documented and count as "not found" for callers.
-/

namespace ApiPages

inductive ResolutionError where
  | emptyIdentifier
  | unknownKind (name : String)
  | malformedMember (identifier : String)
  | notFound (reason : String)
  | ambiguous (identifier : String) (candidates : List String)
deriving DecidableEq, Repr

namespace ResolutionError

def message : ResolutionError → String
  | .emptyIdentifier => "Query does not contain an identifier"
  | .unknownKind name =>
    "Unknown declaration type '" ++ name ++ "', expected 'function' or 'property'"
  | .malformedMember identifier =>
    "'" ++ identifier ++ "' must contain exactly one '#' separating the class and member names"
  | .notFound reason => reason
  | .ambiguous identifier candidates =>
    "Found multiple candidates for '" ++ identifier ++ "':\n" ++ Text.separated "\n" candidates

def isNotFound : ResolutionError → Bool
  | .notFound _ | .ambiguous _ _ => true
  | _ => false

def isUserError : ResolutionError → Bool
  | .emptyIdentifier | .unknownKind _ | .malformedMember _ => true
  | _ => false

def code : ResolutionError → String
  | .emptyIdentifier => "EMPTY_IDENTIFIER"
  | .unknownKind _ => "INVALID_FILTER_KIND"
  | .malformedMember _ => "MALFORMED_MEMBER_IDENTIFIER"
  | .notFound _ => "NOT_FOUND"
  | .ambiguous _ _ => "AMBIGUOUS_IDENTIFIER"

def suggestions : ResolutionError → List String
  | .emptyIdentifier => ["Start the query with a class, member or function name"]
  | .unknownKind _ => ["Use 'type=function', 'type=property' or 'type=function|property'"]
  | .malformedMember _ => ["Write member queries as 'ClassName#memberName'"]
  | .notFound _ =>
    ["Check the spelling and capitalization of the identifier",
      "Nested classes are written 'Outer.Inner'"]
  | .ambiguous _ _ =>
    ["Add a 'type=function' or 'type=property' filter",
      "Qualify the class with its enclosing class"]

def candidates : ResolutionError → List String
  | .ambiguous _ candidates => candidates
  | _ => []

theorem isUserError_eq_not_isNotFound (error : ResolutionError) :
    error.isUserError = !error.isNotFound := by
  cases error <;> rfl

end ResolutionError

/-!
Candidates for a query, in the order of discovery. Two candidates are the same if their kinds and
addresses are; the first is kept, with its label. A function and a property of one name share a
page and stay two candidates.
-/

structure Candidate where
  kind : MemberKind
  link : Link
deriving DecidableEq, Repr

/-- What makes two candidates the same. -/
def Candidate.key (candidate : Candidate) : MemberKind × String :=
  (candidate.kind, candidate.link.url)

structure Candidates where
  found : List Candidate
deriving DecidableEq, Repr

namespace Candidates

def empty : Candidates := ⟨[]⟩

def push (candidates : Candidates) (candidate : Candidate) : Candidates :=
  if candidates.found.any fun known => known.key == candidate.key then candidates
  else ⟨candidates.found ++ [candidate]⟩

def extend (candidates : Candidates) (offered : List Candidate) : Candidates :=
  offered.foldl push candidates

def ofList (offered : List Candidate) : Candidates := empty.extend offered

def size (candidates : Candidates) : Nat := candidates.found.length

/-- The only candidate. None and several are different failures. -/
def single (candidates : Candidates) (identifier notFound : String) :
    Except ResolutionError Link :=
  match candidates.found with
  | [] => .error (.notFound notFound)
  | [only] => .ok only.link
  | several => .error (.ambiguous identifier (several.map fun candidate => candidate.link.url))

theorem extend_append (candidates : Candidates) (a b : List Candidate) :
    candidates.extend (a ++ b) = (candidates.extend a).extend b := by
  simp [extend, List.foldl_append]

end Candidates

end ApiPages
