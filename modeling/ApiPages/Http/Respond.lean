import ApiPages.Http.Uri
import ApiPages.Report
import ApiPages.Resolution.Resolve

/-!
Answers to requests. There are two pages: `/link`, which resolves the field `identifier`, and
`/health`. Both are for reading, with or without a body. Fields stand between ampersands in the
query of an address, and the first equals sign of a field ends its name. A plus sign is a blank and
a percent sign in front of two hexadecimal digits is a byte; a percent sign in front of anything
else stands for itself. Bytes that are no UTF-8 are replaced.
-/

namespace ApiPages.Http.Form

/-- The bytes that a text stands for, the first `taken` characters of which belong to an earlier
byte. -/
def bytesFrom : Nat → List Char → List UInt8
  | _, [] => []
  | taken + 1, _ :: rest => bytesFrom taken rest
  | 0, c :: rest =>
    if c = '+' then 0x20 :: bytesFrom 0 rest
    else
      match c, rest.take 2 with
      | '%', [high, low] =>
        match Text.hexValue? high, Text.hexValue? low with
        | some h, some l => UInt8.ofNat (h * 16 + l) :: bytesFrom 2 rest
        | _, _ => 0x25 :: bytesFrom 0 rest
      | _, _ => String.utf8EncodeChar c ++ bytesFrom 0 rest

def decode (text : List Char) : List Char := Text.Utf8.decodeLenient (bytesFrom 0 text)

def field (text : List Char) : List Char × List Char :=
  (decode (text.takeWhile (· != '=')), decode (text.dropWhile (· != '=')).tail)

def fields (query : List Char) : List (List Char × List Char) :=
  ((Text.split '&' query).filter fun text => !text.isEmpty).map field

def values (name : List Char) (query : List Char) : List (List Char) :=
  ((fields query).filter fun item => item.1 == name).map Prod.snd

example : decode "a+%C3%A9%2".toList = "a é%2".toList := by decide

example : fields "a=b=c&&d".toList = [(['a'], ['b', '=', 'c']), (['d'], [])] := by decide

end ApiPages.Http.Form

namespace ApiPages.Http

structure Answer where
  status : Nat
  contentType : Option String
  body : String
deriving DecidableEq, Repr

namespace Answer

def text (status : Nat) (body : String) : Answer := ⟨status, some "text/plain; charset=utf-8", body⟩

def json (value : Json) : Answer := ⟨200, some "application/json", value.compact⟩

def bare (status : Nat) : Answer := ⟨status, none, ""⟩

def withoutBody (answer : Answer) : Answer := { answer with body := "" }

end Answer

def isMethodChar (c : Char) : Bool :=
  c.isAlphanum || "!#$%&'*+-.^_\x60|~".toList.contains c

def isMethod (method : String) : Bool := !method.isEmpty && method.toList.all isMethodChar

/-- The only value of the field that names an identifier. -/
def identifier (query : List Char) : Except String String :=
  match Form.values "identifier".toList query with
  | [] => .error "missing field \x60identifier\x60"
  | [value] => .ok (String.ofList value)
  | _ => .error "duplicate field \x60identifier\x60"

def ofResolution : Except ResolutionError Link → Answer
  | .ok link => .json link.toJson
  | .error error =>
    if error.isNotFound then .text 404 "Link not found" else .text 400 error.message

theorem status_ofResolution_error (error : ResolutionError) :
    (ofResolution (.error error)).status = if error.isNotFound then 404 else 400 := by
  cases error <;> rfl

def linkPage (documentation : Documentation) (query : List Char) : Answer :=
  match identifier query with
  | .ok identifier => ofResolution (documentation.answer identifier)
  | .error cause => .text 400 ("Failed to deserialize query string: " ++ cause)

def page? (documentation : Documentation) (uri : Uri) : Option Answer :=
  if uri.path = "/link".toList then some (linkPage documentation (uri.query.getD []))
  else if uri.path = "/health".toList then some (.text 200 "OK")
  else none

def answer (documentation : Documentation) (method : String) (uri : Uri) : Answer :=
  match page? documentation uri with
  | none => .bare 404
  | some page =>
    if method = "GET" then page
    else if method = "HEAD" then page.withoutBody
    else .bare 405

def respond? (documentation : Documentation) (method address : String) : Option Answer :=
  if isMethod method then (Uri.ofText? address).map (answer documentation method) else none

end ApiPages.Http
