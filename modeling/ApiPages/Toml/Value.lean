import ApiPages.Text.Character
import ApiPages.Text.Segments

/-!
TOML values and how they are written. Numbers with a fraction or an exponent and moments of time
keep their spelling, because no setting is one of them.
-/

namespace ApiPages

inductive Toml where
  | string (value : String)
  | integer (value : Int)
  | decimal (literal : String)
  | bool (value : Bool)
  | moment (literal : String)
  | array (items : List Toml)
  | table (fields : List (String × Toml))
deriving BEq, Repr, Inhabited

/-!
A basic string has escapes and a literal one has none; both come on one line or as a block of lines
between tripled quotes. A string is written in the first way that needs no escape, and as a basic
one if all do.
-/

namespace Toml

inductive Quotation where
  | basic
  | literal
  | basicBlock
  | literalBlock
deriving DecidableEq, Repr

/-- How many times in a row a character occurs at most, `run` times already in front of the text. -/
def longestRun (mark : Char) : Nat → List Char → Nat
  | run, [] => run
  | run, c :: rest =>
    if c = mark then longestRun mark (run + 1) rest else max run (longestRun mark 0 rest)

/-- Control characters that no string holds as they are. -/
def needsCode (c : Char) : Bool := (c < ' ' && c != '\t' && c != '\n') || c == '\x7f'

namespace Quotation

def mark : Quotation → Char
  | .basic | .basicBlock => '"'
  | .literal | .literalBlock => '\''

def isBlock : Quotation → Bool
  | .basic | .literal => false
  | .basicBlock | .literalBlock => true

def hasEscapes : Quotation → Bool
  | .basic | .basicBlock => true
  | .literal | .literalBlock => false

def fence (quotation : Quotation) : List Char :=
  List.replicate (if quotation.isBlock then 3 else 1) quotation.mark

def choose (text : List Char) : Quotation :=
  let coded := text.any needsCode
  let broken := text.contains '\n'
  let slashed := text.contains '\\'
  let doubles := longestRun '"' 0 text
  let singles := longestRun '\'' 0 text
  if !coded && !slashed && !broken && doubles = 0 then .basic
  else if !coded && !broken && singles = 0 then .literal
  else if !coded && !slashed && doubles ≤ 2 then .basicBlock
  else if !coded && singles ≤ 2 then .literalBlock
  else if broken then .basicBlock
  else .basic

end Quotation

/-- A character other than a quote inside a basic string. -/
def coded (isBlock : Bool) (c : Char) : List Char :=
  if c = '\x08' then ['\\', 'b']
  else if c = '\t' then ['\\', 't']
  else if c = '\n' then if isBlock then ['\n'] else ['\\', 'n']
  else if c = '\x0c' then ['\\', 'f']
  else if c = '\r' then ['\\', 'r']
  else if c = '\\' then ['\\', '\\']
  else if c < ' ' ∨ c = '\x7f' then
    ['\\', 'u', '0', '0', Text.hexCapital (c.toNat / 16), Text.hexCapital (c.toNat % 16)]
  else [c]

/-- The inside of a basic string. A block may hold two quotes in a row, of which `run` stand
directly in front. -/
def codedText (isBlock : Bool) : Nat → List Char → List Char
  | _, [] => []
  | run, c :: rest =>
    if c = '"' then
      if run < (if isBlock then 2 else 0) then '"' :: codedText isBlock (run + 1) rest
      else '\\' :: '"' :: codedText isBlock 0 rest
    else coded isBlock c ++ codedText isBlock 0 rest

/-- A string in a given quotation. A block that spans lines starts on a line of its own. -/
def quotedAs (quotation : Quotation) (text : List Char) : List Char :=
  let inside := if quotation.hasEscapes then codedText quotation.isBlock 0 text else text
  let opening := if quotation.isBlock ∧ text.contains '\n' then ['\n'] else []
  quotation.fence ++ opening ++ inside ++ quotation.fence

def quoted (text : String) : String :=
  String.ofList (quotedAs (.choose text.toList) text.toList)

example : quoted "a\\b" = "'a\\b'" := by decide

example : quoted "a\n\"\"\"'''b" = "\"\"\"\na\n\"\"\\\"'''b\"\"\"" := by decide

/-!
In a document the plain fields come first; every table follows under its header, behind an empty
line. An array of several items has an item a line.
-/

/-- A key without quotes if it can do without them. -/
def keyText (key : String) : String :=
  if !key.isEmpty && key.toList.all (fun c => c.isAlphanum || c == '_' || c == '-') then key
  else quoted key

def arrayText : List String → String
  | [] => "[]"
  | [only] => "[" ++ only ++ "]"
  | items => "[\n" ++ String.join (items.map fun item => "    " ++ item ++ ",\n") ++ "]"

mutual

def print : Toml → String
  | .string value => quoted value
  | .integer value => toString value
  | .decimal literal => literal
  | .bool value => if value then "true" else "false"
  | .moment literal => literal
  | .array items => arrayText (printItems items)
  | .table fields =>
    if fields.isEmpty then "\x7b\x7d"
    else "\x7b " ++ Text.separated ", " (printFields fields) ++ " \x7d"

def printItems : List Toml → List String
  | [] => []
  | item :: rest => item.print :: printItems rest

def printFields : List (String × Toml) → List String
  | [] => []
  | (key, value) :: rest => (keyText key ++ " = " ++ value.print) :: printFields rest

end

structure Section where
  name : String
  fields : List (String × Toml)

def fieldLines (fields : List (String × Toml)) : String :=
  String.join ((printFields fields).map fun line => line ++ "\n")

def Section.print (part : Section) : String :=
  "\n[" ++ keyText part.name ++ "]\n" ++ fieldLines part.fields

def printDocument (fields : List (String × Toml)) (sections : List Section) : String :=
  fieldLines fields ++ String.join (sections.map Section.print)

example :
    printDocument [("a", .integer (-1))] [⟨"b", [("c", .array [.bool true, .string "d"])]⟩] =
      "a = -1\n\n[b]\nc = [\n    true,\n    \"d\",\n]\n" := by
  decide +kernel

end Toml

end ApiPages
