import ApiPages.Toml.Value

/-!
Quoted strings read. The reader looks at one character after the other and remembers whether it is
inside an escape. A backslash at the end of a line of a block takes the line break and all white
space behind it away; a line break right behind the opening of a block does not count.
-/

namespace ApiPages.Toml

inductive Reading where
  | plain
  /-- Behind a backslash. -/
  | escape
  /-- In a character code of which some digits are still to come. -/
  | code (left value : Nat)
  /-- Behind a backslash and white space, with a line break still to come. -/
  | gap
  /-- In the white space behind a line break that is taken away. -/
  | brokenGap
deriving DecidableEq, Repr

inductive Step where
  | go (emitted : List Char) (next : Reading)
  /-- The end of the string, with what still belongs to it and what is behind it. -/
  | close (emitted behind : List Char)
  | fail

def isBlank (c : Char) : Bool := c == ' ' || c == '\t'

def isPlain (c : Char) : Bool := c == '\t' || (' ' ≤ c && c != '\x7f')

/-- Whether a carriage return is the first half of a line break. -/
def opensBreak (c : Char) (rest : List Char) : Bool := c == '\r' && rest.head? == some '\n'

def scalar? (code : Nat) : Option Char :=
  if h : code.isValidChar then some (Char.ofNatAux code h) else none

def escape? : Char → Option Char
  | 'b' => some '\x08'
  | 't' => some '\t'
  | 'n' => some '\n'
  | 'f' => some '\x0c'
  | 'r' => some '\r'
  | '"' => some '"'
  | '\\' => some '\\'
  | _ => none

/-- A quote in a block. Three quotes close it, and up to two more of the same run belong to it. -/
def blockMark (mark : Char) (rest : List Char) : Step :=
  let more := (rest.takeWhile (· == mark)).length
  if more < 2 then .go [mark] .plain
  else .close (List.replicate (min (more - 2) 2) mark) (rest.drop (min more 4))

def plainStep (quotation : Quotation) (c : Char) (rest : List Char) : Step :=
  if c = quotation.mark then
    if quotation.isBlock then blockMark c rest else .close [] rest
  else if quotation.hasEscapes ∧ c = '\\' then .go [] .escape
  else if quotation.isBlock ∧ c = '\n' then .go ['\n'] .plain
  else if quotation.isBlock ∧ opensBreak c rest then .go [] .plain
  else if isPlain c then .go [c] .plain
  else .fail

def gapStep (c : Char) (rest : List Char) : Step :=
  if isBlank c ∨ opensBreak c rest then .go [] .gap
  else if c = '\n' then .go [] .brokenGap
  else .fail

def escapeStep (quotation : Quotation) (c : Char) (rest : List Char) : Step :=
  if c = 'u' then .go [] (.code 4 0)
  else if c = 'U' then .go [] (.code 8 0)
  else
    match escape? c with
    | some value => .go [value] .plain
    | none => if quotation.isBlock then gapStep c rest else .fail

def codeStep (left value : Nat) (c : Char) : Step :=
  match Text.hexValue? c with
  | none => .fail
  | some digit =>
    if 1 < left then .go [] (.code (left - 1) (value * 16 + digit))
    else
      match scalar? (value * 16 + digit) with
      | some character => .go [character] .plain
      | none => .fail

def step (quotation : Quotation) : Reading → Char → List Char → Step
  | .plain, c, rest => plainStep quotation c rest
  | .escape, c, rest => escapeStep quotation c rest
  | .code left value, c, _ => codeStep left value c
  | .gap, c, rest => gapStep c rest
  | .brokenGap, c, rest =>
    if isBlank c ∨ c = '\n' ∨ opensBreak c rest then .go [] .brokenGap
    else plainStep quotation c rest

def readWith (step : Reading → Char → List Char → Step) :
    Reading → List Char → Option (List Char × List Char)
  | _, [] => none
  | reading, c :: rest =>
    match step reading c rest with
    | .fail => none
    | .close emitted behind => some (emitted, behind)
    | .go emitted next =>
      (readWith step next rest).map fun (text, behind) => (emitted ++ text, behind)

def unquoteFrom (quotation : Quotation) (text : List Char) : Option (List Char × List Char) :=
  readWith (step quotation) .plain text

def dropBreak : List Char → List Char
  | '\n' :: rest => rest
  | '\r' :: '\n' :: rest => rest
  | text => text

def unquoteLine? : List Char → Option (List Char × List Char)
  | '"' :: rest => unquoteFrom .basic rest
  | '\'' :: rest => unquoteFrom .literal rest
  | _ => none

def unquote? : List Char → Option (List Char × List Char)
  | '"' :: '"' :: '"' :: rest => unquoteFrom .basicBlock (dropBreak rest)
  | '\'' :: '\'' :: '\'' :: rest => unquoteFrom .literalBlock (dropBreak rest)
  | text => unquoteLine? text

example :
    unquote? "\"\"\"\na \\ \n  b\"\"\"\"\"".toList = some ("a b\"\"".toList, []) := by
  decide

example : unquote? "\"\\ud800\"".toList = none := by decide

end ApiPages.Toml
