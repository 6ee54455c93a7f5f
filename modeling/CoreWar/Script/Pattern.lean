import CoreWar.Script.Display
import CoreWar.Script.Number

/-!
# Patterns

A string is a pattern for other values: a percent sign and a letter stand for the next value, in the
form that the letter chooses, and two percent signs for one. All values have to be used.
-/

namespace CoreWar

namespace Script

variable [Characters]

namespace Pattern

/-! ### Conversions -/

/-- The forms of an integer: its base, and whether its digits are capitals. -/
def integerForm? (letter : UInt8) : Option (Nat × Bool) :=
  if letter = 'd'.toUInt8 ∨ letter = 'i'.toUInt8 then some (10, false)
  else if letter = 'o'.toUInt8 then some (8, false)
  else if letter = 'x'.toUInt8 then some (16, false)
  else if letter = 'X'.toUInt8 then some (16, true)
  else none

def integerText (form : Nat × Bool) (i : Int) : Text :=
  let digits := Text.signed i fun n => (Nat.toDigits form.1 n).map Char.toUInt8
  if form.2 then digits.map Text.upperByte else digits

/-- The styles of a floating-point number. The letter `F` is known but has no style. -/
def floatStyle? (letter : UInt8) : Option (Option Floating.Style) :=
  if letter = 'e'.toUInt8 then some (some (.scientific 'e'))
  else if letter = 'E'.toUInt8 then some (some (.scientific 'E'))
  else if letter = 'f'.toUInt8 then some (some .positional)
  else if letter = 'F'.toUInt8 then some none
  else if letter = 'g'.toUInt8 then some (some (.plain 'e'))
  else if letter = 'G'.toUInt8 then some (some (.plain 'E'))
  else none

/-- A floating-point number in a style. A finite number without a style shows its letter. -/
def floatText (letter : UInt8) (style? : Option Floating.Style) (x : Float) : Text :=
  match style? with
  | some style => Floating.render style x
  | none => if x.isFinite then conversion letter else Floating.render (.plain 'e') x

/-- The character of a value: a code point, or the only character of a string. What is no character
shows as the replacement character. -/
def characterText : Value → Except EvalFault Text
  | .int i =>
    if 0 ≤ i ∧ i ≤ 0x10FFFF then
      let c := if i.toNat.isValidChar then Char.ofNat i.toNat else '\ufffd'
      .ok (String.utf8EncodeChar c)
    else .error (.pattern (.notCodePoint i))
  | .string t =>
    match Glyph.decode t with
    | [g] => .ok (String.utf8EncodeChar g.toChar)
    | _ => .error (.pattern .notSingleCharacter)
  | v => .error (.pattern (.notCharacter v.typeName))

def convert (letter : UInt8) (v : Value) : Except EvalFault Text :=
  if letter = 's'.toUInt8 then .ok v.plain
  else if letter = 'r'.toUInt8 then .ok v.display
  else if letter = 'c'.toUInt8 then characterText v
  else
    match integerForm? letter, floatStyle? letter with
    | some form, _ =>
      match v.toInt with
      | .ok i => .ok (integerText form i)
      | .error f => .error (.within (conversion letter ++ " format requires integer") f)
    | none, some style? =>
      match v.float? with
      | some x => .ok (floatText letter style? x)
      | none => .error (.pattern (.notFloat letter v.typeName))
    | none, none => .error (.pattern (.unknownConversion letter))

/-! ### Filling in -/

/-- The rest of a pattern with the values that are left filled in, after a text that is given in
reverse. -/
def fillOnto (found : Text) : Text → List Value → Except EvalFault Text
  | [], [] => .ok found.reverse
  | [], _ :: _ => .error (.pattern .tooManyValues)
  | b :: rest, values =>
    if b ≠ '%'.toUInt8 then fillOnto (b :: found) rest values
    else
      match rest, values with
      | [], [] => .error (.pattern .tooFewValues)
      | [], _ :: _ => .error (.pattern .incomplete)
      | letter :: rest, values =>
        if letter = '%'.toUInt8 then fillOnto (letter :: found) rest values
        else if letter = '('.toUInt8 then
          .error (.pattern (if rest.contains ')'.toUInt8 then .notMapping else .incompleteName))
        else
          match values with
          | [] => .error (.pattern .tooFewValues)
          | v :: values => do
            let t ← convert letter v
            fillOnto (t.reverse ++ found) rest values

/-- A pattern with the elements of a tuple, or with any other value, filled in. -/
def fill (pattern : Text) : Value → Except EvalFault Text
  | .tuple vs => fillOnto [] pattern vs
  | v => fillOnto [] pattern [v]

end Pattern

end Script

end CoreWar
