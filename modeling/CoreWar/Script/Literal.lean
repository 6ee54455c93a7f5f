import CoreWar.Script.DecimalForm
import CoreWar.Script.Token

/-!
# Literals

How numbers and strings are written in an expression. Each reader takes the characters from the
start of the literal on and returns the token and the number of characters that belong to it.
-/

namespace CoreWar

namespace Script

namespace Literal

/-- The value of a digit in the bases up to sixteen. -/
def digitValue (c : Char) : Nat :=
  if c.isDigit then c.toNat - '0'.toNat else c.toLower.toNat - 'a'.toNat + 10

/-- Whether a character is a digit in the given base. -/
def isDigitIn (base : Nat) (c : Char) : Bool :=
  (c.isDigit || ('a' ≤ c.toLower && c.toLower ≤ 'f')) && digitValue c < base

def valueIn (base : Nat) (digits : List Char) : Nat :=
  digits.foldl (fun n c => base * n + digitValue c) 0

/-! ### Numbers -/

/-- An integer in a base that has been named by two characters, from its digits on. The number has
to be below the bound, if there is one. -/
def inBase (base : Nat) (bound : Option Nat) (cs : List Char) : Option (Token × Nat) :=
  let digits := cs.takeWhile (isDigitIn base)
  let value := valueIn base digits
  if digits.isEmpty || bound.any (· ≤ value) then none
  else some (.int value, 2 + digits.length)

/-- A sign, as whether it is a minus, and its length. -/
def sign : List Char → Bool × Nat
  | '+' :: _ => (false, 1)
  | '-' :: _ => (true, 1)
  | _ => (false, 0)

/-- Whether the characters go on with the mark of an exponent. -/
def startsExponent : List Char → Bool
  | c :: _ => c == 'e' || c == 'E'
  | [] => false

/-- The size of an exponent, of which only five digits count, from the first one on that is not
zero. -/
def exponentSize (digits : List Char) : Nat :=
  valueIn 10 ((digits.dropWhile (· == '0')).take 5)

/-- The value and the length of an exponent, which may be missing but has to have digits. -/
def exponent (cs : List Char) : Option (Int × Nat) :=
  if startsExponent cs then
    let (minus, signLength) := sign (cs.drop 1)
    let digits := (cs.drop (1 + signLength)).takeWhile Char.isDigit
    let value : Int := exponentSize digits
    if digits.isEmpty then none
    else some (if minus then -value else value, 1 + signLength + digits.length)
  else some (0, 0)

/-- The digits of a fraction and the length of the fraction, which may be missing. -/
def fraction : List Char → List Char × Nat
  | '.' :: cs => (cs.takeWhile Char.isDigit, 1 + (cs.takeWhile Char.isDigit).length)
  | _ => ([], 0)

/-- A decimal number with a fraction or an exponent, after the digits in front of them. -/
def floating (whole cs : List Char) : Option (Token × Nat) := do
  let (digits, fractionLength) := fraction cs
  let (power, exponentLength) ← exponent (cs.drop fractionLength)
  let form := DecimalForm.ofParts (whole.map digitValue) (digits.map digitValue) power
  let x ← form.toFloat?
  some (.float x, whole.length + fractionLength + exponentLength)

/-- A decimal number. Leading zeros are allowed in front of a fraction or an exponent, and if all
digits are zero. -/
def decimal (cs : List Char) : Option (Token × Nat) :=
  let whole := cs.takeWhile Char.isDigit
  let rest := cs.dropWhile Char.isDigit
  if rest.head? = some '.' || startsExponent rest then floating whole rest
  else if whole.head? = some '0' && whole.any (· != '0') then none
  else some (.int (valueIn 10 whole), whole.length)

/-- What an octal or binary number has to be below: two to the power of 63. -/
def wordBound : Nat := 0x8000000000000000

def number : List Char → Option (Token × Nat)
  | '0' :: c :: rest =>
    if c = 'x' ∨ c = 'X' then inBase 16 none rest
    else if c = 'o' ∨ c = 'O' then inBase 8 (some wordBound) rest
    else if c = 'b' ∨ c = 'B' then inBase 2 (some wordBound) rest
    else decimal ('0' :: c :: rest)
  | cs => decimal cs

/-! ### Strings -/

/-- The character that a backslash and a letter or sign stand for. -/
def simpleEscape? : Char → Option Char
  | 'a' => some '\x07'
  | 'b' => some '\x08'
  | 'f' => some '\x0c'
  | 'n' => some '\n'
  | 'r' => some '\r'
  | 't' => some '\t'
  | 'v' => some '\x0b'
  | '\\' => some '\\'
  | '\x27' => some '\x27'
  | '"' => some '"'
  | _ => none

/-- The character with the number that exactly `count` hexadecimal digits give, if it is below the
bound. -/
def hexEscape (count bound : Nat) (cs : List Char) : Option Char :=
  let digits := cs.take count
  let value := valueIn 16 digits
  if digits.length = count ∧ digits.all (isDigitIn 16) ∧ value < bound ∧ value.isValidChar then
    some (Char.ofNat value)
  else none

/-- The ASCII character with the number that up to three octal digits give, and their count. -/
def octalEscape (cs : List Char) : Option (Char × Nat) :=
  let digits := (cs.take 3).takeWhile (isDigitIn 8)
  let value := valueIn 8 digits
  if value < 128 then some (Char.ofNat value, digits.length) else none

/-- What a backslash in front of the given characters stands for, and how many of them belong to
it. A backslash at the end of a line stands for nothing. -/
def escape : List Char → Option (Option Char × Nat)
  | [] => none
  | c :: rest =>
    match simpleEscape? c with
    | some d => some (d, 1)
    | none =>
      if c = '\n' ∨ c = '\r' then some (none, 1)
      else if isDigitIn 8 c then (octalEscape (c :: rest)).map fun (d, n) => (some d, n)
      else if c = 'x' then (hexEscape 2 128 rest).map fun d => (some d, 3)
      else if c = 'u' then (hexEscape 4 0x110000 rest).map fun d => (some d, 5)
      else if c = 'U' then (hexEscape 8 0x110000 rest).map fun d => (some d, 9)
      else none

/-- How a string is written: what closes it, and whether backslashes stand for themselves. -/
structure Quotation where
  closing : List Char
  raw : Bool

namespace Quotation

/-- Whether the string may hold the ends of lines, as one between three quotes does. -/
def isLong (q : Quotation) : Bool :=
  1 < q.closing.length

/-- What a backslash in front of the given characters stands for, and how many of them belong to
it. -/
def escape (q : Quotation) (rest : List Char) : Option (List Char × Nat) :=
  if q.raw then rest.head?.map fun c => (['\\', if c = '\r' then '\n' else c], 1)
  else (Literal.escape rest).map fun (c, n) => (c.toList, n)

/-- The rest of a string up to what closes it. The characters already found are given in reverse,
together with the number of characters already read and of those to be passed over. -/
def body (q : Quotation) (found : List Char) (count : Nat) : Nat → List Char → Option (Token × Nat)
  | _, [] => none
  | skip + 1, _ :: rest => body q found (count + 1) skip rest
  | 0, c :: rest =>
    if q.closing.isPrefixOf (c :: rest) then
      some (.string (found.reverse.flatMap String.utf8EncodeChar), count + q.closing.length)
    else if c = '\\' then
      match q.escape rest with
      | some (cs, n) => body q (cs.reverse ++ found) (count + 1) n rest
      | none => none
    else if c = '\n' ∨ c = '\r' then
      if q.isLong then body q ('\n' :: found) (count + 1) 0 rest else none
    else body q (c :: found) (count + 1) 0 rest

end Quotation

/-- The quotation that starts with the given characters: one quote or three equal ones. -/
def quotation? (raw : Bool) : List Char → Option Quotation
  | c :: rest =>
    if c = '"' ∨ c = '\x27' then
      some ⟨if [c, c].isPrefixOf rest then [c, c, c] else [c], raw⟩
    else none
  | [] => none

/-- A string from its opening quotes on, where `r` in front of them keeps the backslashes; `none` if
no string starts here, and a string that cannot be read is `some none`. -/
def string? (cs : List Char) : Option (Option (Token × Nat)) :=
  let start : List Char := cs.takeWhile (· == 'r')
  if 1 < start.length then none
  else
    (quotation? (!start.isEmpty) (cs.drop start.length)).map fun q =>
      let opening := start.length + q.closing.length
      q.body [] opening 0 (cs.drop opening)

end Literal

end Script

end CoreWar
