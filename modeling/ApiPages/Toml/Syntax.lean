import ApiPages.Toml.Number
import ApiPages.Toml.Unquote

/-!
The grammar of TOML texts. A text is a list of statements, a statement a line: a pair of a key and a
term, the header of a table, or the header of an item in an array of tables. What the keys of a text
make up together is not decided here. Keys have at most 79 parts and terms are nested at most 79
deep.
-/

namespace ApiPages.Toml

abbrev Key := List String

inductive Term where
  | leaf (value : Toml)
  | array (items : List Term)
  /-- A table between braces, by its pairs. -/
  | table (pairs : List (Key × Term))

inductive Statement where
  | pair (key : Key) (term : Term)
  | header (key : Key)
  | item (key : Key)

def skipBlanks (text : List Char) : List Char := text.dropWhile isBlank

def skipLines (inComment : Bool) : List Char → List Char
  | [] => []
  | '\n' :: rest => skipLines false rest
  | '\r' :: '\n' :: rest => skipLines false rest
  | c :: rest =>
    if inComment then if isPlain c then skipLines true rest else c :: rest
    else if isBlank c then skipLines false rest
    else if c = '#' then skipLines true rest
    else c :: rest

/-- The text behind the end of a line, in front of which blanks and a comment may stand. -/
def lineEnd? (text : List Char) : Option (List Char) :=
  let text := skipBlanks text
  let text := if text.head? = some '#' then text.dropWhile isPlain else text
  match text with
  | [] => some []
  | '\n' :: rest => some rest
  | '\r' :: '\n' :: rest => some rest
  | _ => none

def isBare (c : Char) : Bool := c.isAlphanum || c == '_' || c == '-'

def keyPart? (text : List Char) : Option (List Char × List Char) :=
  match text with
  | '"' :: _ => unquoteLine? text
  | '\'' :: _ => unquoteLine? text
  | _ =>
    let bare := text.takeWhile isBare
    if bare = [] then none else some (bare, text.dropWhile isBare)

/-- A key of at most so many parts with dots between them. -/
def keyWithin? : Nat → List Char → Option (Key × List Char)
  | 0, _ => none
  | parts + 1, text => do
    let (part, text) ← keyPart? (skipBlanks text)
    match skipBlanks text with
    | '.' :: rest => do
      let (more, rest) ← keyWithin? parts rest
      some (String.ofList part :: more, rest)
    | rest => some ([String.ofList part], rest)

def maxParts : Nat := 79

def key? (text : List Char) : Option (Key × List Char) := keyWithin? maxParts text

def scalar (text : List Char) : Option (Toml × List Char) :=
  match text with
  | 't' :: 'r' :: 'u' :: 'e' :: rest => some (.bool true, rest)
  | 'f' :: 'a' :: 'l' :: 's' :: 'e' :: rest => some (.bool false, rest)
  | _ =>
    if text.head? = some '"' ∨ text.head? = some '\'' then
      (unquote? text).map fun (value, rest) => (.string (String.ofList value), rest)
    else if startsDate text ∨ startsTime text then
      (moment? text).map fun rest => (.moment (consumed text rest), rest)
    else number? text

def maxLevels : Nat := 79

mutual

/-- A term and the text behind it. The first argument bounds the parts that are read; a part takes a
character or hands on to one that does. The second one is how deep terms may still be nested. -/
def term? : Nat → Nat → List Char → Option (Term × List Char)
  | 0, _, _ => none
  | bound + 1, levels, text =>
    match text with
    | '\x5b' :: rest =>
      match levels with
      | 0 => none
      | below + 1 => (items? bound below rest).map fun (items, behind) => (.array items, behind)
    | '\x7b' :: rest =>
      match levels with
      | 0 => none
      | below + 1 =>
        match skipBlanks rest with
        | '\x7d' :: behind => some (.table [], behind)
        | first => (pairs? bound below first).map fun (pairs, behind) => (.table pairs, behind)
    | _ => (scalar text).map fun (value, behind) => (.leaf value, behind)

/-- The items of an array up to its bracket. A comma may stand behind the last one. -/
def items? : Nat → Nat → List Char → Option (List Term × List Char)
  | 0, _, _ => none
  | bound + 1, levels, text =>
    match skipLines false text with
    | '\x5d' :: behind => some ([], behind)
    | first => do
      let (item, text) ← term? bound levels first
      match skipLines false text with
      | ',' :: rest => do
        let (items, behind) ← items? bound levels rest
        some (item :: items, behind)
      | '\x5d' :: behind => some ([item], behind)
      | _ => none

def pairs? : Nat → Nat → List Char → Option (List (Key × Term) × List Char)
  | 0, _, _ => none
  | bound + 1, levels, text => do
    let (key, text) ← key? text
    match text with
    | '=' :: rest => do
      let (term, text) ← term? bound levels (skipBlanks rest)
      match skipBlanks text with
      | ',' :: rest => do
        let (pairs, behind) ← pairs? bound levels rest
        some ((key, term) :: pairs, behind)
      | '\x7d' :: behind => some ([(key, term)], behind)
      | _ => none
    | _ => none

end

/-- A term at the start of a text. Every part but the term itself takes a character, so twice the
length of the text is bound enough. -/
def termAt? (text : List Char) : Option (Term × List Char) :=
  term? (2 * text.length + 2) maxLevels text

def statement? (text : List Char) : Option (Statement × List Char) :=
  match text with
  | '\x5b' :: '\x5b' :: rest => do
    match ← key? rest with
    | (key, '\x5d' :: '\x5d' :: behind) => some (.item key, ← lineEnd? behind)
    | _ => none
  | '\x5b' :: rest => do
    match ← key? rest with
    | (key, '\x5d' :: behind) => some (.header key, ← lineEnd? behind)
    | _ => none
  | _ => do
    match ← key? text with
    | (key, '=' :: rest) => do
      let (term, behind) ← termAt? (skipBlanks rest)
      some (.pair key term, ← lineEnd? behind)
    | _ => none

/-- Whether nothing but white space and a comment stands in the line. -/
def isIdleLine (text : List Char) : Bool :=
  match text with
  | [] => true
  | c :: _ => c == '#' || c == '\n' || c == '\r'

/-- The statements of a text of at most so many lines. -/
def statementsWithin? : Nat → List Char → Option (List Statement)
  | 0, _ => none
  | lines + 1, text =>
    match skipBlanks text with
    | [] => some []
    | first =>
      if isIdleLine first then (lineEnd? first).bind (statementsWithin? lines)
      else do
        let (statement, rest) ← statement? first
        some (statement :: (← statementsWithin? lines rest))

/-- The statements of a text, in front of which a byte order mark may stand. -/
def statements? (text : List Char) : Option (List Statement) :=
  let text := if text.head? = some '\ufeff' then text.tail else text
  statementsWithin? (text.length + 1) text

end ApiPages.Toml
