/-!
Bytes read as UTF-8. A byte sequence is cut into symbols: each is a character, or a stray stretch
of bytes that begins no character. A strict reading wants characters only; a lenient one writes
the replacement character for each stray stretch.
-/

namespace ApiPages.Text

inductive Symbol where
  | char (value : Char)
  | stray
deriving DecidableEq, Repr

namespace Utf8

def isTail (byte : UInt8) : Bool := 0x80 ≤ byte && byte ≤ 0xBF

/-- The second bytes that may follow a first one. Overlong forms, surrogates and codes above the
last plane are cut off here. -/
def secondRange (first : UInt8) : UInt8 × UInt8 :=
  if first = 0xE0 then (0xA0, 0xBF)
  else if first = 0xED then (0x80, 0x9F)
  else if first = 0xF0 then (0x90, 0xBF)
  else if first = 0xF4 then (0x80, 0x8F)
  else (0x80, 0xBF)

def isSecond (first byte : UInt8) : Bool :=
  (secondRange first).1 ≤ byte && byte ≤ (secondRange first).2

def code (head : Nat) (tail : List UInt8) : Char :=
  Char.ofNat (tail.foldl (fun n byte => n * 64 + (byte.toNat - 0x80)) head)

/-- The symbol that starts with `first`, and how many bytes it takes from those behind. -/
def symbol (first : UInt8) (behind : List UInt8) : Symbol × Nat :=
  if first < 0x80 then (.char (code first.toNat []), 0)
  else if first < 0xC2 then (.stray, 0)
  else if first < 0xE0 then
    match behind with
    | b :: _ =>
      if isSecond first b then (.char (code (first.toNat - 0xC0) [b]), 1) else (.stray, 0)
    | _ => (.stray, 0)
  else if first < 0xF0 then
    match behind with
    | b :: c :: _ =>
      if isSecond first b then
        if isTail c then (.char (code (first.toNat - 0xE0) [b, c]), 2) else (.stray, 1)
      else (.stray, 0)
    | [b] => (.stray, if isSecond first b then 1 else 0)
    | _ => (.stray, 0)
  else if first < 0xF5 then
    match behind with
    | b :: c :: d :: _ =>
      if isSecond first b then
        if isTail c then
          if isTail d then (.char (code (first.toNat - 0xF0) [b, c, d]), 3) else (.stray, 2)
        else (.stray, 1)
      else (.stray, 0)
    | [b, c] => (.stray, if isSecond first b then if isTail c then 2 else 1 else 0)
    | [b] => (.stray, if isSecond first b then 1 else 0)
    | _ => (.stray, 0)
  else (.stray, 0)

/-- The symbols of some bytes, the first `taken` of which belong to an earlier symbol. -/
def symbolsFrom : Nat → List UInt8 → List Symbol
  | _, [] => []
  | taken + 1, _ :: rest => symbolsFrom taken rest
  | 0, first :: rest =>
    let (found, taken) := symbol first rest
    found :: symbolsFrom taken rest

def symbols (bytes : List UInt8) : List Symbol := symbolsFrom 0 bytes

def encode (text : String) : List UInt8 := text.toList.flatMap String.utf8EncodeChar

end Utf8

def symbolsOf (text : List Char) : List Symbol := text.map .char

def chars? : List Symbol → Option (List Char)
  | [] => some []
  | .char c :: rest => (chars? rest).map (c :: ·)
  | .stray :: _ => none

def charsLenient : List Symbol → List Char
  | [] => []
  | .char c :: rest => c :: charsLenient rest
  | .stray :: rest => '\ufffd' :: charsLenient rest

theorem chars?_symbolsOf (text : List Char) : chars? (symbolsOf text) = some text := by
  induction text with
  | nil => rfl
  | cons c rest ih =>
    rw [symbolsOf, List.map_cons, chars?, ← symbolsOf, ih]
    rfl

theorem charsLenient_symbolsOf (text : List Char) : charsLenient (symbolsOf text) = text := by
  induction text with
  | nil => rfl
  | cons c rest ih =>
    rw [symbolsOf, List.map_cons, charsLenient, ← symbolsOf, ih]

namespace Utf8

def decode? (bytes : List UInt8) : Option (List Char) := chars? (symbols bytes)

def decodeLenient (bytes : List UInt8) : List Char := charsLenient (symbols bytes)

-- Surrogates are no characters.
example : decode? [0xED, 0xA0, 0x80] = none := by decide

example : decodeLenient [0xE2, 0x82, 0x41] = ['\ufffd', 'A'] := by decide

end Utf8

end ApiPages.Text
