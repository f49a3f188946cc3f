import ApiPages.Text.Utf8

/-!
Addresses in requests. An address is a path with perhaps a query, and may have a scheme and an
authority in front of them; or it is an authority alone, which has no path. What follows a hash
sign is dropped. An authority has no characters beyond ASCII; a path and a query may have any that
are no controls.
-/

namespace ApiPages.Http

structure Uri where
  path : List Char
  query : Option (List Char)
deriving DecidableEq, Repr

namespace Uri

def maxBytes : Nat := 65534

def maxSchemeLength : Nat := 64

def isSchemeChar (c : Char) : Bool :=
  c.isAlphanum || c == '+' || c == '-' || c == '.' || c == '~'

def isAuthorityChar (c : Char) : Bool :=
  c.isAlphanum || "!$&'()*+,-.;=_~".toList.contains c

def endsAuthority (c : Char) : Bool := c == '/' || c == '?' || c == '#'

def isPathChar (c : Char) : Bool :=
  c == '!' || ('$' ≤ c && c ≤ ';') || c == '=' || ('@' ≤ c && c ≤ '_') || ('a' ≤ c && c ≤ '~') ||
    c == '"' || '\x7f' ≤ c

def isQueryChar (c : Char) : Bool :=
  c == '!' || ('$' ≤ c && c ≤ ';') || c == '=' || '?' ≤ c

/-- What is known of an authority while it is read. Colons and percent signs in front of an at sign
or inside brackets do not count. -/
structure AuthorityState where
  colons : Nat
  opened : Bool
  closed : Bool
  percent : Bool
  endsInAt : Bool

namespace AuthorityState

def start : AuthorityState := ⟨0, false, false, false, false⟩

def maxColons : Nat := 8

def step (state : AuthorityState) (c : Char) : Option AuthorityState :=
  let state := { state with endsInAt := c == '@' }
  if c = ':' then
    if maxColons ≤ state.colons then none else some { state with colons := state.colons + 1 }
  else if c = '[' then
    if state.percent ∨ state.opened then none else some { state with opened := true }
  else if c = ']' then
    if !state.opened ∨ state.closed then none
    else some { state with closed := true, colons := 0, percent := false }
  else if c = '@' then some { state with colons := 0, percent := false }
  else if c = '%' then some { state with percent := true }
  else if isAuthorityChar c then some state
  else none

/-- At most one colon is left, in front of a port. -/
def isComplete (state : AuthorityState) : Bool :=
  state.opened == state.closed && state.colons ≤ 1 && !state.percent && !state.endsInAt

end AuthorityState

/-- The text behind an authority, which may be empty. -/
def behindAuthority? (text : List Char) : Option (List Char) := do
  let authority := text.takeWhile fun c => !endsAuthority c
  let state ← authority.foldlM AuthorityState.step .start
  if state.isComplete then some (text.drop authority.length) else none

inductive Scheme where
  | absent
  | tooLong
  | before (rest : List Char)

def schemeLength (text : List Char) : Nat := (text.takeWhile isSchemeChar).length

def scheme (text : List Char) : Scheme :=
  match text.drop (schemeLength text) with
  | ':' :: '/' :: '/' :: rest =>
    if maxSchemeLength < schemeLength text then .tooLong else .before rest
  | _ => .absent

def query? (text : List Char) : Option (List Char) :=
  let query := text.takeWhile (· != '#')
  if query.all isQueryChar then some query else none

/-- A path and a query. A path that is empty is the root. -/
def pathAndQuery? (text : List Char) : Option Uri :=
  let path := text.takeWhile fun c => c != '?' && c != '#'
  let named := if path.isEmpty then ['/'] else path
  if path.all isPathChar then
    match text.drop path.length with
    | '?' :: rest => (query? rest).map fun query => ⟨named, some query⟩
    | _ => some ⟨named, none⟩
  else none

def full? (text : List Char) : Option Uri :=
  match scheme text with
  | .tooLong => none
  | .absent => do
    match ← behindAuthority? text with
    | [] => some ⟨[], none⟩
    | _ => none
  | .before rest => do
    let behind ← behindAuthority? rest
    if behind.length = rest.length then none else pathAndQuery? behind

def ofText? (address : String) : Option Uri :=
  let text := address.toList
  if maxBytes < (Text.Utf8.encode address).length then none
  else
    match text with
    | [] => none
    | ['*'] => some ⟨['*'], none⟩
    | '/' :: _ => pathAndQuery? text
    | _ => full? text

example : ofText? "http://user:x@h:80/link?a#b" = some ⟨"/link".toList, some ['a']⟩ := by
  decide

example : ofText? "http://h:1:2/" = none := by decide

end Uri

end ApiPages.Http
