import ApiPages.Resolution.Candidates
import ApiPages.Text.Word

/-!
Queries. A query is an identifier, ended by the first white space, and flags behind it. A flag is
a run of word characters, an equals sign and a value of word characters and bars. Flags are taken
from left to right, each as early and as long as possible; whatever lies between them is ignored.
-/

namespace ApiPages.Query

structure Flag where
  key : List Char
  value : List Char
deriving DecidableEq, Repr

def isValueChar (c : Char) : Bool := Text.isWord c || c == '|'

/-- Takes the flags from a text. `word` holds the word characters directly in front of the text,
last one first, and `open?` the key and the value so far of a flag that is being read. -/
def scan (word : List Char) : Option (List Char × List Char) → List Char → List Flag
  | some (key, value), [] => if value.isEmpty then [] else [⟨key, value.reverse⟩]
  | none, [] => []
  | some (key, value), c :: rest =>
    if isValueChar c then scan [] (some (key, c :: value)) rest
    else if value.isEmpty then scan [] none rest
    else ⟨key, value.reverse⟩ :: scan [] none rest
  | none, c :: rest =>
    if Text.isWord c then scan (c :: word) none rest
    else if c = '=' ∧ word ≠ [] then scan [] (some (word.reverse, [])) rest
    else scan [] none rest

def flags (text : List Char) : List Flag := scan [] none text

def lastValue? (key : List Char) (flags : List Flag) : Option (List Char) :=
  (flags.reverse.find? fun flag => flag.key == key).map Flag.value

example : flags "a=type=function".toList = [⟨['a'], "type".toList⟩] := by decide +kernel

example : flags "type= x, b=c|d".toList = [⟨['b'], ['c', '|', 'd']⟩] := by decide +kernel

end ApiPages.Query

/-!
The last `type` flag says which kinds of members are asked for, with a bar between two kinds;
without one all kinds are.
-/

namespace ApiPages

structure Request where
  identifier : String
  kinds : KindSet
deriving DecidableEq, Repr

namespace Query

/-- The text up to the first white space, and the text behind that one character. -/
def cut (query : List Char) : List Char × List Char :=
  (query.takeWhile fun c => !Text.isBlank c, (query.dropWhile fun c => !Text.isBlank c).tail)

theorem cut_of_no_blank {text : List Char} (unbroken : ¬text.any Text.isBlank) :
    cut text = (text, []) := by
  rw [cut]
  induction text with
  | nil => rfl
  | cons c rest ih =>
    simp only [List.any_cons, Bool.or_eq_true, not_or] at unbroken
    obtain ⟨kept, gone⟩ := Prod.mk.inj (ih unbroken.2)
    rw [List.takeWhile_cons_of_pos (by simpa using unbroken.1),
      List.dropWhile_cons_of_pos (by simpa using unbroken.1), kept, gone]

/-- The union of some kinds by their names. The first name that is none is reported. -/
def kindsOfNames (known : KindSet) : List (List Char) → Except ResolutionError KindSet
  | [] => .ok known
  | name :: rest =>
    match KindSet.ofName? (String.ofList name) with
    | some kinds => kindsOfNames (known.union kinds) rest
    | none => .error (.unknownKind (String.ofList name))

def typeKey : List Char := ['t', 'y', 'p', 'e']

def kindsOfFlags (found : List Flag) : Except ResolutionError KindSet :=
  match lastValue? typeKey found with
  | none => .ok .all
  | some value => kindsOfNames .empty (Text.split '|' value)

theorem isUserError_of_kindsOfNames {known : KindSet} {names : List (List Char)}
    {error : ResolutionError} (failed : kindsOfNames known names = .error error) :
    error.isUserError := by
  induction names generalizing known with
  | nil => cases failed
  | cons name rest ih =>
    unfold kindsOfNames at failed
    split at failed
    · exact ih failed
    · obtain rfl := Except.error.inj failed
      rfl

theorem isUserError_of_kindsOfFlags {found : List Flag} {error : ResolutionError}
    (failed : kindsOfFlags found = .error error) : error.isUserError := by
  unfold kindsOfFlags at failed
  split at failed
  · cases failed
  · exact isUserError_of_kindsOfNames failed

end Query

namespace Request

def parse (query : String) : Except ResolutionError Request :=
  let (identifier, behind) := Query.cut query.toList
  if identifier.isEmpty then .error .emptyIdentifier
  else (Query.kindsOfFlags (Query.flags behind)).map fun kinds =>
    ⟨String.ofList identifier, kinds⟩

theorem parse_of_no_blank {name : String} (unbroken : ¬name.toList.any Text.isBlank) :
    parse name = if name = "" then .error .emptyIdentifier else .ok ⟨name, .all⟩ := by
  rw [parse, Query.cut_of_no_blank unbroken]
  by_cases empty : name = ""
  · rw [if_pos empty, empty]
    rfl
  · have letters : name.toList.isEmpty = false := by
      rw [List.isEmpty_eq_false_iff]
      exact fun none => empty (String.toList_eq_nil_iff.1 none)
    dsimp only
    rw [if_neg empty, letters, String.ofList_toList]
    rfl

def kindsText (kinds : KindSet) : String :=
  match kinds.functions, kinds.properties with
  | true, true => "FUNCTION | PROPERTY"
  | true, false => "FUNCTION"
  | false, true => "PROPERTY"
  | false, false => "0x0"

def display (request : Request) : String :=
  "ParsedRequest(identifier='" ++ request.identifier ++ "', declaration_types=DeclarationTypes(" ++
    kindsText request.kinds ++ "))"

theorem identifier_of_parse {query : String} {request : Request}
    (parsed : parse query = .ok request) :
    request.identifier = String.ofList (Query.cut query.toList).1 := by
  unfold parse at parsed
  dsimp only at parsed
  split at parsed
  · cases parsed
  · cases kinds : Query.kindsOfFlags (Query.flags (Query.cut query.toList).2) with
    | error error =>
      rw [kinds] at parsed
      cases parsed
    | ok found =>
      rw [kinds] at parsed
      exact congrArg Request.identifier (Except.ok.inj parsed).symm

theorem isUserError_of_parse {query : String} {error : ResolutionError}
    (failed : parse query = .error error) : error.isUserError := by
  unfold parse at failed
  dsimp only at failed
  split at failed
  · obtain rfl := Except.error.inj failed
    rfl
  · cases kinds : Query.kindsOfFlags (Query.flags (Query.cut query.toList).2) with
    | error cause =>
      rw [kinds] at failed
      obtain rfl := Except.error.inj failed
      exact Query.isUserError_of_kindsOfFlags kinds
    | ok found =>
      rw [kinds] at failed
      cases failed

example : parse "Foo#bar a=b type=Function|property" = .ok ⟨"Foo#bar", .all⟩ := rfl

example : parse "x type=|function" = .error (.unknownKind "") := rfl

end Request

end ApiPages
