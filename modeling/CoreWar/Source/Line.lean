import CoreWar.Cell.Basic
import CoreWar.Text.Numeral

/-!
# The parts of a line

A line starts with a mnemonic and goes on with one or two operands, up to a comment. An operand is
an optional sigil and a decimal number with an optional sign; white space may stand between the
parts.
-/

namespace CoreWar

namespace Line

/-- The line up to its comment, which a semicolon starts. -/
def withoutComment (line : Text) : Text :=
  line.takeWhile (· != ';'.toUInt8)

/-- The word that a line starts with, and the rest of the line. -/
def word? (line : Text) : Option (Text × Text) :=
  let line := line.skipBlanks
  let word := line.takeWhile Text.isLetter
  if word.isEmpty then none else some (word, line.dropWhile Text.isLetter)

/-! ### Operands -/

/-- An operand as it is written. -/
structure Written where
  addressing : Addressing
  /-- The number, however large. -/
  value : Int
  deriving DecidableEq, Repr

/-- The sigil that a text starts with, and the rest of the text. -/
def sigil (t : Text) : Addressing × Text :=
  match t with
  | b :: rest =>
    match Addressing.ofSigil? [b] with
    | some a => (a, rest)
    | none => (.relative, t)
  | [] => (.relative, t)

/-- The number that a text starts with, and the rest of the text. -/
def number? (t : Text) : Option (Int × Text) :=
  let (minus, t) := Numeral.sign t
  let digits := t.takeWhile Text.isDigit
  if digits.isEmpty then none
  else
    let n : Int := Text.toNat digits
    some (if minus then -n else n, t.dropWhile Text.isDigit)

/-- The operand that a text starts with, and the rest of the text. -/
def operand? (t : Text) : Option (Written × Text) :=
  let (addressing, rest) := sigil t.skipBlanks
  (number? rest.skipBlanks).map fun (value, rest) => (⟨addressing, value⟩, rest)

def operands? (t : Text) : Option (Written × Option Written) := do
  let (a, rest) ← operand? t
  match rest.skipBlanks with
  | [] => some (a, none)
  | c :: rest =>
    if c = ','.toUInt8 then
      let (b, rest) ← operand? rest
      if rest.skipBlanks.isEmpty then some (a, some b) else none
    else none

end Line

end CoreWar
