import ApiPages.Settings.Format
import ApiPages.Toml.Unquote

/-!
Settings in environment variables. A variable belongs to the settings if its name starts with
`DOCLINK_` in letters of either case; two bars in the rest of the name lead into a table. A value is
a boolean, a number, a quoted string, an array in brackets or a table in braces; whatever is none of
these is a string as it stands.
-/

namespace ApiPages.Settings.Environment

open ApiPages.Toml (Reading Step)

/-! Names. -/

def marker : List Char := "doclink_".toList

/-- The letters that are written small as a letter of ASCII are the capitals of ASCII and the sign
of the kelvin. Other letters make up no name of a setting in either case. -/
def small (c : Char) : Char := if c = '\u212a' then 'k' else c.toLower

def dotted : List Char → List Char
  | '_' :: '_' :: rest => '.' :: dotted rest
  | c :: rest => c :: dotted rest
  | [] => []

/-- The setting that a variable of some name is for. -/
def setting? (name : String) : Option (List String) :=
  let name := Text.trim name.toList
  if (name.take marker.length).map Char.toLower = marker then
    let key := Text.trim (dotted ((name.drop marker.length).map small))
    let parts := Text.split '.' key
    if parts.all (fun part => !part.isEmpty) then some (parts.map String.ofList) else none
  else none

/-! Values. -/

def isSpace (c : Char) : Bool :=
  c == ' ' || c == '\t' || c == '\n' || c == '\x0c' || c == '\r'

def skipSpace (text : List Char) : List Char := text.dropWhile isSpace

def isSeparator (c : Char) : Bool :=
  c == ',' || c == '\x7b' || c == '\x7d' || c == '[' || c == ']'

def stringStep : Reading → Char → List Char → Step
  | .plain, c, rest =>
    if c = '"' then .close [] rest
    else if c = '\\' then .go [] .escape
    else .go [c] .plain
  | reading, c, rest => Toml.step .basic reading c rest

def string? (text : List Char) : Option (List Char × List Char) :=
  Toml.readWith stringStep .plain text

def unsigned : List Char → List Char
  | '-' :: rest => rest
  | '+' :: rest => rest
  | text => text

def isExponent : List Char → Bool
  | [] => true
  | c :: rest =>
    (c == 'e' || c == 'E') && unsigned rest != [] && (unsigned rest).all Char.isDigit

def isDecimal (word : List Char) : Bool :=
  let text := unsigned word
  let whole := text.takeWhile Char.isDigit
  match text.dropWhile Char.isDigit with
  | '.' :: rest =>
    (whole != [] || rest.head?.any Char.isDigit) && isExponent (rest.dropWhile Char.isDigit)
  | _ => false

def integer? (word : List Char) : Option Int :=
  let digits := unsigned word
  if digits ≠ [] ∧ digits.all Char.isDigit then
    let value : Int := Decimal.value digits
    if word.head? = some '-' then
      if value ≤ Decimal.signedSize then some (-value) else none
    else if value < UInt64.size then some value
    else none
  else none

def word (text : List Char) : Toml :=
  if isDecimal text then .decimal (String.ofList text)
  else
    match integer? text with
    | some value => .integer value
    | none => .string (String.ofList text)

def isKeyChar (c : Char) : Bool := c.isAlphanum || c == '_' || c == '-'

def key? (text : List Char) : Option (List Char × List Char) :=
  match skipSpace text with
  | '"' :: rest => string? rest
  | text =>
    let key := text.takeWhile isKeyChar
    if key = [] then none else some (key, text.dropWhile isKeyChar)

mutual

/-- A value and the text behind it and behind the white space after it. The first argument bounds
the parts that are read. -/
def value? : Nat → List Char → Option (Toml × List Char)
  | 0, _ => none
  | bound + 1, text => do
    let (value, rest) ← bare? bound (skipSpace text)
    some (value, skipSpace rest)

def bare? : Nat → List Char → Option (Toml × List Char)
  | 0, _ => none
  | bound + 1, text =>
    match text with
    | 't' :: 'r' :: 'u' :: 'e' :: rest => some (.bool true, rest)
    | 'f' :: 'a' :: 'l' :: 's' :: 'e' :: rest => some (.bool false, rest)
    | '\x7b' :: rest => (fields? bound [] rest).map fun (fields, rest) => (.table fields, rest)
    | '\x5b' :: rest => (items? bound rest).map fun (items, rest) => (.array items, rest)
    | '"' :: rest =>
      (string? rest).map fun (value, rest) => (.string (String.ofList value), rest)
    | '\'' :: c :: '\'' :: rest => some (.string (String.ofList [c]), rest)
    | '\'' :: _ => none
    | _ =>
      some (word (Text.trim (text.takeWhile fun c => !isSeparator c)),
        text.dropWhile fun c => !isSeparator c)

/-- The items of an array. White space in front of the bracket makes an item of its own. -/
def items? : Nat → List Char → Option (List Toml × List Char)
  | 0, _ => none
  | bound + 1, text =>
    match text with
    | '\x5d' :: rest => some ([], rest)
    | _ => do
      let (item, text) ← value? bound text
      match text with
      | ',' :: rest => (items? bound rest).map fun (items, rest) => (item :: items, rest)
      | '\x5d' :: rest => some ([item], rest)
      | _ => none

/-- The fields of a table, some of which are known. A later field replaces an earlier one. -/
def fields? : Nat → List (String × Toml) → List Char →
    Option (List (String × Toml) × List Char)
  | 0, _, _ => none
  | bound + 1, known, text =>
    match text with
    | '\x7d' :: rest => some (known, rest)
    | _ => do
      let (key, text) ← key? text
      match skipSpace text with
      | '=' :: rest => do
        let (value, text) ← value? bound rest
        let known := Named.set (String.ofList key) value known
        match text with
        | ',' :: rest => fields? bound known rest
        | '\x7d' :: rest => some (known, rest)
        | _ => none
      | _ => none

end

/-- The value of a variable. Every part that is read takes a character or hands on to at most two
parts that do. -/
def value (text : String) : Toml :=
  let trimmed := Text.trim text.toList
  match value? (3 * trimmed.length + 3) trimmed with
  | some (value, []) => value
  | _ => .string (String.ofList trimmed)

/-! The layer. -/

def nested (value : Toml) : List String → Toml
  | [] => value
  | part :: rest => .table [(part, nested value rest)]

def layerOf (name text : String) : List (String × Toml) :=
  match setting? name with
  | some (part :: rest) => [(part, nested (value text) rest)]
  | _ => []

/-- The layer of some variables, later ones over earlier ones. -/
def layer (environment : List (String × String)) : List (String × Toml) :=
  merged (environment.map fun (name, text) => layerOf name text)

example : setting? "Doclink_INDEX__Package_Prefixes" = some ["index", "package_prefixes"] := by
  decide

-- What is no value of its own is a text.
example : text? (value "[a") = some "[a" := by decide +kernel

end ApiPages.Settings.Environment
