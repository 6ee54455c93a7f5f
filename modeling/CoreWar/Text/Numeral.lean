import CoreWar.Text.Basic
import CoreWar.Word

/-!
# Integer numerals

Equates and command line options give integers in the bases two, eight, ten and sixteen. A `0b`,
`0o` or `0x` chooses the base, a further leading zero stands for base eight, and underscores may
separate the digits from each other and from what chose the base. Strings in expressions give
integers in any base up to thirty-six, without underscores.
-/

namespace CoreWar

namespace Numeral

/-- Why a text is not the numeral of a machine word. -/
inductive Fault where
  /-- It is no numeral. -/
  | malformed
  /-- Its number does not fit the word. -/
  | outOfRange
  deriving DecidableEq, Repr

/-- The value of a digit in the bases up to thirty-six. -/
def digitValue? (b : UInt8) : Option Nat :=
  if Text.isDigit b then some (b.toNat - '0'.toNat)
  else if Text.isLetter b then some ((Text.upperByte b).toNat - 'A'.toNat + 10)
  else none

/-- The base of an unsigned numeral and the digits after what chose it. -/
def base : Text → Nat × Text
  | b :: c :: d :: rest =>
    if b = '0'.toUInt8 then
      if Text.upperByte c = 'B'.toUInt8 then (2, d :: rest)
      else if Text.upperByte c = 'O'.toUInt8 then (8, d :: rest)
      else if Text.upperByte c = 'X'.toUInt8 then (16, d :: rest)
      else (8, c :: d :: rest)
    else (10, b :: c :: d :: rest)
  | b :: rest => if b = '0'.toUInt8 then (8, rest) else (10, b :: rest)
  | [] => (10, [])

/-- One more digit of a number that fits an unsigned word; an underscore is passed over. -/
def addDigit (base n : Nat) (b : UInt8) : Except Fault Nat :=
  if b = '_'.toUInt8 then .ok n
  else
    match digitValue? b with
    | none => .error .malformed
    | some d =>
      if base ≤ d then .error .malformed
      else if UInt64.size ≤ base * n + d then .error .outOfRange
      else .ok (base * n + d)

/-- Every underscore stands after a digit and before one; `after` says that the text so far ends in
a digit. -/
def separated (after : Bool) : Text → Bool
  | [] => true
  | [b] => b != '_'.toUInt8
  | b :: c :: rest =>
    if b = '_'.toUInt8 then after && c != '_'.toUInt8 && separated false (c :: rest)
    else separated true (c :: rest)

/-- The number that an unsigned numeral of a word stands for. The digits are read in order, so the
first one that is none, or that makes the number too large, decides the fault. -/
def unsigned (t : Text) : Except Fault Nat :=
  if t = [] then .error .malformed
  else do
    let n ← (base t).2.foldlM (addDigit (base t).1) 0
    -- a base counts as a digit in front of an underscore
    if separated ((base t).1 != 10) (base t).2 then .ok n else .error .malformed

/-- A leading sign, as whether it is a minus, and the text after it. -/
def sign : Text → Bool × Text
  | b :: rest =>
    if b = '-'.toUInt8 then (true, rest)
    else if b = '+'.toUInt8 then (false, rest)
    else (false, b :: rest)
  | [] => (false, [])

/-! ### Any base -/

/-- The number that digits in a base up to thirty-six stand for. -/
def inBase? (base : Nat) (digits : Text) : Option Nat :=
  let addTo (n : Nat) (b : UInt8) : Option Nat := do
    let d ← digitValue? b
    if d < base then some (base * n + d) else none
  if digits.isEmpty then none else digits.foldlM addTo 0

/-- The base that the first two of at least three characters name. -/
def namedBase? : Text → Option Nat
  | b :: c :: _ :: _ =>
    if b ≠ '0'.toUInt8 then none
    else if Text.upperByte c = 'B'.toUInt8 then some 2
    else if Text.upperByte c = 'O'.toUInt8 then some 8
    else if Text.upperByte c = 'X'.toUInt8 then some 16
    else none
  | _ => none

/-- The integer that a numeral with an optional sign stands for in a base, which the numeral may
name as well. The base zero stands for the one that the numeral names, or for ten; then a leading
zero is followed by nothing but zeros. -/
def integer? (base : Nat) (t : Text) : Option Int := do
  let (minus, digits) := sign t
  let n ←
    match namedBase? digits with
    | some named =>
      if base = 0 ∨ base = named then inBase? named (digits.drop 2) else inBase? base digits
    | none =>
      if base ≠ 0 then inBase? base digits
      else if digits.head? = some '0'.toUInt8 && digits.any (· != '0'.toUInt8) then none
      else inBase? 10 digits
  return if minus then -n else n

/-! ### Machine words -/

/-- The signed machine word that a numeral with an optional sign stands for. -/
def signed (t : Text) : Except Fault Int64 := do
  let n ← unsigned (sign t).2
  let i : Int := if (sign t).1 then -n else n
  match word? i with
  | some w => .ok w
  | none => .error .outOfRange

end Numeral

end CoreWar
