import ApiPages.Json.Value
import ApiPages.Text.Utf8

/-!
JSON texts. A text is read into a tree that still holds its strings and numbers as written; what
they mean, and how deep the tree may be, is decided by whoever uses a part of it. So a part that
nobody uses has to be well formed and nothing more.
-/

namespace ApiPages.Json

open ApiPages.Text (Symbol)

inductive Piece where
  | plain (symbol : Symbol)
  /-- A backslash and the character that it stands for. -/
  | escaped (value : Char)
  /-- A 16-bit unit, written with four hexadecimal digits. -/
  | unit (value : Nat)
deriving DecidableEq, Repr

inductive Tree where
  | null
  | bool (value : Bool)
  | number (literal : List Char)
  | string (pieces : List Piece)
  | array (items : List Tree)
  | object (fields : List (List Piece × Tree))

def hexUnit? (a b c d : Char) : Option Nat := do
  let high := (← Text.hexValue? a) * 16 + (← Text.hexValue? b)
  let low := (← Text.hexValue? c) * 16 + (← Text.hexValue? d)
  some (high * 256 + low)

def escape? : Char → Option Char
  | '"' => some '"'
  | '\\' => some '\\'
  | '/' => some '/'
  | 'b' => some '\x08'
  | 'f' => some '\x0c'
  | 'n' => some '\n'
  | 'r' => some '\r'
  | 't' => some '\t'
  | _ => none

/-- The pieces up to the closing quote, and the text behind it. Control characters have to be
escaped. -/
def pieces? : List Symbol → Option (List Piece × List Symbol)
  | [] => none
  | .char '"' :: rest => some ([], rest)
  | .char '\\' :: .char 'u' :: .char a :: .char b :: .char c :: .char d :: rest => do
    let unit ← hexUnit? a b c d
    let (pieces, behind) ← pieces? rest
    some (.unit unit :: pieces, behind)
  | .char '\\' :: .char c :: rest => do
    let value ← escape? c
    let (pieces, behind) ← pieces? rest
    some (.escaped value :: pieces, behind)
  | .char '\\' :: _ => none
  | .char c :: rest =>
    if c < ' ' then none
    else (pieces? rest).map fun (pieces, behind) => (.plain (.char c) :: pieces, behind)
  | .stray :: rest => (pieces? rest).map fun (pieces, behind) => (.plain .stray :: pieces, behind)

def isSpace (c : Char) : Bool := c == ' ' || c == '\n' || c == '\t' || c == '\r'

def skipSpace : List Symbol → List Symbol
  | .char c :: rest => if isSpace c then skipSpace rest else .char c :: rest
  | text => text

def digits : List Symbol → List Char × List Symbol
  | .char c :: rest =>
    if c.isDigit then
      let (more, behind) := digits rest
      (c :: more, behind)
    else ([], .char c :: rest)
  | text => ([], text)

def digits? (text : List Symbol) : Option (List Char × List Symbol) :=
  match digits text with
  | ([], _) => none
  | found => some found

def sign? : List Symbol → List Char × List Symbol
  | .char '-' :: rest => (['-'], rest)
  | .char '+' :: rest => (['+'], rest)
  | text => ([], text)

def whole? : List Symbol → Option (List Char × List Symbol)
  | .char '0' :: rest => some (['0'], rest)
  | text => digits? text

def fraction? : List Symbol → Option (List Char × List Symbol)
  | .char '.' :: rest => (digits? rest).map fun (ds, behind) => ('.' :: ds, behind)
  | text => some ([], text)

def exponent? : List Symbol → Option (List Char × List Symbol)
  | .char c :: rest =>
    if c = 'e' ∨ c = 'E' then
      let (sign, rest) := sign? rest
      (digits? rest).map fun (ds, behind) => ('e' :: sign ++ ds, behind)
    else some ([], .char c :: rest)
  | text => some ([], text)

/-- A number behind its minus sign, if it has one: digits without a needless zero in front, a
fraction, an exponent. -/
def unsigned? (text : List Symbol) : Option (List Char × List Symbol) := do
  let (whole, text) ← whole? text
  let (fraction, text) ← fraction? text
  let (exponent, text) ← exponent? text
  some (whole ++ fraction ++ exponent, text)

def number? : List Symbol → Option (List Char × List Symbol)
  | .char '-' :: rest => (unsigned? rest).map fun (literal, behind) => ('-' :: literal, behind)
  | text => unsigned? text

def literal? : List Symbol → Option (Tree × List Symbol)
  | .char 'n' :: .char 'u' :: .char 'l' :: .char 'l' :: rest => some (.null, rest)
  | .char 't' :: .char 'r' :: .char 'u' :: .char 'e' :: rest => some (.bool true, rest)
  | .char 'f' :: .char 'a' :: .char 'l' :: .char 's' :: .char 'e' :: rest =>
    some (.bool false, rest)
  | text => (number? text).map fun (literal, behind) => (.number literal, behind)

mutual

/-- A value and the text behind it. The first argument bounds the parts that are read: a part takes
a symbol or hands on to one that does, so twice the number of symbols is bound enough. -/
def tree? : Nat → List Symbol → Option (Tree × List Symbol)
  | 0, _ => none
  | bound + 1, text =>
    match skipSpace text with
    | .char '\x22' :: rest => (pieces? rest).map fun (pieces, behind) => (.string pieces, behind)
    | .char '\x5b' :: rest =>
      match skipSpace rest with
      | .char '\x5d' :: behind => some (.array [], behind)
      | first => (items? bound first).map fun (items, behind) => (.array items, behind)
    | .char '\x7b' :: rest =>
      match skipSpace rest with
      | .char '\x7d' :: behind => some (.object [], behind)
      | first => (fields? bound first).map fun (fields, behind) => (.object fields, behind)
    | start => literal? start

def items? : Nat → List Symbol → Option (List Tree × List Symbol)
  | 0, _ => none
  | bound + 1, text => do
    let (item, text) ← tree? bound text
    match skipSpace text with
    | .char ',' :: rest => do
      let (items, behind) ← items? bound rest
      some (item :: items, behind)
    | .char '\x5d' :: behind => some ([item], behind)
    | _ => none

def fields? : Nat → List Symbol → Option (List (List Piece × Tree) × List Symbol)
  | 0, _ => none
  | bound + 1, text => do
    match skipSpace text with
    | .char '\x22' :: rest => do
      let (key, text) ← pieces? rest
      match skipSpace text with
      | .char ':' :: rest => do
        let (value, text) ← tree? bound rest
        match skipSpace text with
        | .char ',' :: rest => do
          let (fields, behind) ← fields? bound rest
          some ((key, value) :: fields, behind)
        | .char '\x7d' :: behind => some ([(key, value)], behind)
        | _ => none
      | _ => none
    | _ => none

end

def Tree.ofSymbols? (text : List Symbol) : Option Tree :=
  match tree? (2 * text.length + 2) text with
  | some (tree, behind) => if skipSpace behind = [] then some tree else none
  | none => none

/-!
Values. Strings have to be made of characters, so neither a stray byte nor half of a surrogate
pair may occur in one; arrays and objects may be nested 127 deep; and a number has to lie in the
range of double precision.
-/

open ApiPages.Text (Symbol)

/-- The characters of a string. A code outside the first plane is written as a surrogate pair. -/
def chars? : List Piece → Option (List Char)
  | [] => some []
  | .plain (.char c) :: rest => (chars? rest).map (c :: ·)
  | .plain .stray :: _ => none
  | .escaped c :: rest => (chars? rest).map (c :: ·)
  | .unit high :: .unit low :: rest =>
    if 0xD800 ≤ high ∧ high < 0xDC00 then
      if 0xDC00 ≤ low ∧ low < 0xE000 then
        (chars? rest).map (Char.ofNat (0x10000 + (high - 0xD800) * 0x400 + (low - 0xDC00)) :: ·)
      else none
    else if 0xDC00 ≤ high ∧ high < 0xE000 then none
    else (chars? (.unit low :: rest)).map (Char.ofNat high :: ·)
  | .unit code :: rest =>
    if 0xD800 ≤ code ∧ code < 0xE000 then none else (chars? rest).map (Char.ofNat code :: ·)

def string? (pieces : List Piece) : Option String := (chars? pieces).map String.ofList

/-- The exponent behind an `e`, zero if there is none. -/
def exponentValue : List Char → Int
  | 'e' :: '-' :: digits => -Decimal.value digits
  | 'e' :: '+' :: digits => Decimal.value digits
  | 'e' :: digits => Decimal.value digits
  | _ => 0

/-- A number from its spelling. A negative zero is no integer. -/
def number (literal : List Char) : Option Json :=
  let (negative, magnitude) := match literal with
    | '-' :: rest => (true, rest)
    | rest => (false, rest)
  let whole := magnitude.takeWhile Char.isDigit
  let value := Decimal.value whole
  if whole.length = magnitude.length ∧ ¬negative ∧ value < UInt64.size then some (.integer value)
  else if whole.length = magnitude.length ∧ negative ∧ 0 < value ∧ value ≤ Decimal.signedSize then
    some (.integer (-value))
  else
    let fraction := match magnitude.drop whole.length with
      | '.' :: rest => rest.takeWhile Char.isDigit
      | _ => []
    let exponent := exponentValue (magnitude.dropWhile (· != 'e'))
    if Decimal.inRange (whole ++ fraction) (exponent - fraction.length) then
      some (.decimal (String.ofList literal))
    else none

mutual

/-- The value of a tree whose arrays and objects are nested at most `levels` deep. -/
def ofTree? (levels : Nat) : Tree → Option Json
  | .null => some .null
  | .bool value => some (.bool value)
  | .number literal => number literal
  | .string pieces => (string? pieces).map .string
  | .array items =>
    match levels with
    | 0 => none
    | below + 1 => (ofItems? below items).map .array
  | .object fields =>
    match levels with
    | 0 => none
    | below + 1 => (ofFields? below fields).map fun fields => .object (distinctFields fields)

def ofItems? (levels : Nat) : List Tree → Option (List Json)
  | [] => some []
  | item :: rest => do some ((← ofTree? levels item) :: (← ofItems? levels rest))

def ofFields? (levels : Nat) : List (List Piece × Tree) → Option (List (String × Json))
  | [] => some []
  | (key, value) :: rest => do
    let key ← string? key
    let value ← ofTree? levels value
    some ((key, value) :: (← ofFields? levels rest))

end

def maxDepth : Nat := 127

def ofSymbols? (text : List Symbol) : Option Json := do
  ofTree? maxDepth (← Tree.ofSymbols? text)

def read? (text : String) : Option Json := ofSymbols? (Text.symbolsOf text.toList)

-- Half of a surrogate pair is no text, and minus zero is no word.
example : (read? "\"\\ud83d\"").isNone := by decide +kernel

example : (read? "-0").bind word? = none := by decide +kernel

end ApiPages.Json
