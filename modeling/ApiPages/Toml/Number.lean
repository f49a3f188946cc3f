import ApiPages.Toml.Value

/-!
Numbers and moments of time. Integers are decimal, hexadecimal, octal or binary and lie in 64 bits;
a fraction or an exponent makes a number a decimal. An underscore may stand between two digits.
-/

namespace ApiPages.Toml

/-- Further digits behind a first one, without their underscores. -/
def moreDigits? (isDigit : Char → Bool) : List Char → Option (List Char × List Char)
  | [] => some ([], [])
  | ['_'] => none
  | '_' :: c :: rest =>
    if isDigit c then
      (moreDigits? isDigit rest).map fun (digits, behind) => (c :: digits, behind)
    else none
  | c :: rest =>
    if isDigit c then
      (moreDigits? isDigit rest).map fun (digits, behind) => (c :: digits, behind)
    else some ([], c :: rest)

/-- One digit at least, any of which may be zero. -/
def digitGroup? (isDigit : Char → Bool) : List Char → Option (List Char × List Char)
  | c :: rest =>
    if isDigit c then
      (moreDigits? isDigit rest).map fun (digits, behind) => (c :: digits, behind)
    else none
  | [] => none

/-- Decimal digits without a needless zero in front. -/
def whole? : List Char → Option (List Char × List Char)
  | '0' :: rest => some (['0'], rest)
  | text => digitGroup? Char.isDigit text

def sign : List Char → Bool × List Char
  | '-' :: rest => (true, rest)
  | '+' :: rest => (false, rest)
  | text => (false, text)

def isDigitOf (base : Nat) (c : Char) : Bool := (Text.hexValue? c).any (· < base)

def valueIn (base : Nat) (digits : List Char) : Nat :=
  digits.foldl (fun value c => value * base + (Text.hexValue? c).getD 0) 0

def integer? (value : Int) : Option Toml :=
  if -(Decimal.signedSize : Int) ≤ value ∧ value < Decimal.signedSize then some (.integer value)
  else none

def radix? (base : Nat) (text : List Char) : Option (Toml × List Char) := do
  let (digits, rest) ← digitGroup? (isDigitOf base) text
  some (← integer? (valueIn base digits), rest)

/-- What was read of a text, given what is behind it. -/
def consumed (text behind : List Char) : String :=
  String.ofList (text.take (text.length - behind.length))

/-- The digits and the sign of an exponent. -/
def exponent? : List Char → Option ((Bool × List Char) × List Char)
  | c :: rest =>
    if c = 'e' ∨ c = 'E' then do
      let (negative, rest) := sign rest
      let (digits, behind) ← digitGroup? Char.isDigit rest
      some ((negative, digits), behind)
    else some ((false, []), c :: rest)
  | [] => some ((false, []), [])

def fraction? : List Char → Option (List Char × List Char)
  | '.' :: rest => digitGroup? Char.isDigit rest
  | text => some ([], text)

def special? : List Char → Option (List Char)
  | 'i' :: 'n' :: 'f' :: rest => some rest
  | 'n' :: 'a' :: 'n' :: rest => some rest
  | _ => none

/-- A decimal numeral behind its sign. A decimal that is too large is refused, unless it is
negative. -/
def numeral? (text : List Char) (negative : Bool) (body : List Char) :
    Option (Toml × List Char) := do
  let (whole, rest) ← whole? body
  let (fraction, rest) ← fraction? rest
  let ((small, exponent), rest) ← exponent? rest
  if fraction = [] ∧ exponent = [] then
    let value : Int := Decimal.value whole
    some (← integer? (if negative then -value else value), rest)
  else
    let power : Int := Decimal.value exponent
    let scale := (if small then -power else power) - fraction.length
    if negative ∨ Decimal.inRange (whole ++ fraction) scale then
      some (.decimal (consumed text rest), rest)
    else none

def number? (text : List Char) : Option (Toml × List Char) :=
  match text with
  | '0' :: 'x' :: rest => radix? 16 rest
  | '0' :: 'o' :: rest => radix? 8 rest
  | '0' :: 'b' :: rest => radix? 2 rest
  | _ =>
    let (negative, body) := sign text
    match special? body with
    | some rest => some (.decimal (consumed text rest), rest)
    | none => numeral? text negative body

example : (number? "1_000 ".toList).map Prod.snd = some [' '] := by decide

example : (number? "1_".toList).map Prod.snd = none := by decide

/-!
A moment is a date, a time of day, or both with perhaps an offset. It is checked for being in the
calendar. Each reader gives the text behind the moment.
-/

def digitsOf? (count : Nat) (text : List Char) : Option (Nat × List Char) :=
  let digits := text.take count
  if digits.length = count ∧ digits.all Char.isDigit then
    some (Decimal.value digits, text.drop count)
  else none

def pair? (least greatest : Nat) (text : List Char) : Option (Nat × List Char) := do
  let (value, rest) ← digitsOf? 2 text
  if least ≤ value ∧ value ≤ greatest then some (value, rest) else none

def char? (c : Char) : List Char → Option (List Char)
  | d :: rest => if d = c then some rest else none
  | [] => none

def isLeap (year : Nat) : Bool := year % 4 = 0 && (year % 100 != 0 || year % 400 = 0)

def daysIn (year month : Nat) : Nat :=
  if month = 2 then if isLeap year then 29 else 28
  else if month = 4 ∨ month = 6 ∨ month = 9 ∨ month = 11 then 30
  else 31

def startsDate (text : List Char) : Bool :=
  (digitsOf? 4 text).any fun (_, rest) => rest.head? == some '-'

def date? (text : List Char) : Option (List Char) := do
  let (year, text) ← digitsOf? 4 text
  let (month, text) ← pair? 1 12 (← char? '-' text)
  let (_, text) ← pair? 1 (daysIn year month) (← char? '-' text)
  some text

def startsTime (text : List Char) : Bool :=
  (pair? 0 23 text).any fun (_, rest) => rest.head? == some ':'

/-- The digits behind the point of a second, if there are any. -/
def afterSecond (text : List Char) : List Char :=
  match text with
  | '.' :: rest =>
    if rest.head?.any Char.isDigit then rest.dropWhile Char.isDigit else text
  | _ => text

def hourMinute? (text : List Char) : Option (List Char) := do
  let (_, text) ← pair? 0 23 text
  let (_, text) ← pair? 0 59 (← char? ':' text)
  some text

def time? (text : List Char) : Option (List Char) := do
  let text ← hourMinute? text
  let (_, text) ← pair? 0 60 (← char? ':' text)
  some (afterSecond text)

/-- The text behind an offset, or the same text if none stands there. -/
def afterOffset (text : List Char) : List Char :=
  match text with
  | c :: rest =>
    if c = 'Z' ∨ c = 'z' then rest
    else if c = '+' ∨ c = '-' then (hourMinute? rest).getD text
    else text
  | [] => []

def isDateTimeMark (c : Char) : Bool := c == 'T' || c == 't' || c == ' '

/-- The text behind the time that follows a date, or the same text if none does. -/
def afterDate (text : List Char) : List Char :=
  match text with
  | c :: rest =>
    if isDateTimeMark c then
      match time? rest with
      | some behind => afterOffset behind
      | none => text
    else text
  | [] => []

def moment? (text : List Char) : Option (List Char) :=
  if startsDate text then (date? text).map afterDate else time? text

example : moment? "1979-05-27T00:32:00.999-07:00,".toList = some [','] := by decide

example : moment? "2023-02-29".toList = none := by decide

end ApiPages.Toml
