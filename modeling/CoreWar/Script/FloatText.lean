import CoreWar.Script.Digits

/-!
# Floating-point numbers as text

Three styles are in use. The plain one has the fewest digits that read back, in scientific notation
if the number is below `0.0001` or has more than six digits in front of its point, and always shows
a point or an exponent. The other two have six decimal places.
-/

namespace CoreWar

namespace Floating

namespace Digits

/-- The digit at an index, where zeros go on at both ends. -/
def digitAt (d : Digits) (i : Int) : UInt8 :=
  if i < 0 then '0'.toUInt8 else d.digits.getD i.toNat '0'.toUInt8

/-- The digits from an index on, after a point, if there are any to be shown. -/
def fraction (d : Digits) (start : Int) (places : Nat) : Text :=
  if places = 0 then []
  else '.'.toUInt8 :: (List.range places).map fun (i : Nat) => d.digitAt (start + i)

/-- An exponent, which has a sign and at least two digits. -/
def exponentText (e : Int) : Text :=
  let digits := Text.ofNat e.natAbs
  (if e < 0 then '-' else '+').toUInt8 ::
    (if digits.length < 2 then '0'.toUInt8 :: digits else digits)

/-- Scientific notation: one digit, decimal places and an exponent after a mark. -/
def scientific (mark : Char) (places : Nat) (d : Digits) : Text :=
  let exponent := if d.digits.isEmpty then 0 else d.point - 1
  d.digitAt 0 :: d.fraction 1 places ++ mark.toUInt8 :: exponentText exponent

/-- Positional notation: the digits in front of the point, at least one, and decimal places. -/
def positional (places : Nat) (d : Digits) : Text :=
  let whole : Text :=
    if 0 < d.point then (List.range d.point.toNat).map fun (i : Nat) => d.digitAt i else "0"
  whole ++ d.fraction d.point places

/-- All digits, in the shorter notation. -/
def plain (mark : Char) (d : Digits) : Text :=
  let exponent := d.point - 1
  if exponent < -4 ∨ 6 ≤ exponent then d.scientific mark (d.digits.length - 1)
  else if d.digits.length ≤ d.point then d.positional 0 ++ ".0"
  else d.positional (d.digits.length - d.point).toNat

end Digits

/-- How a floating-point number is written; the mark starts an exponent. -/
inductive Style where
  | plain (mark : Char)
  | scientific (mark : Char)
  | positional

/-- The number of decimal places of the styles that fix it. -/
def fixedPlaces : Nat := 6

/-- The text of `m * 2 ^ e`. -/
def Style.magnitude (style : Style) (m : Nat) (e : Int) : Text :=
  let exact := Ratio.ofParts m e
  match style with
  | plain mark => (if m = 0 then Digits.zero else shortest m e).plain mark
  | scientific mark =>
    let digits := if m = 0 then .zero else exact.rounded (fixedPlaces + 1 - exact.magnitude)
    digits.scientific mark fixedPlaces
  | positional => (exact.rounded fixedPlaces).positional fixedPlaces

/-- Whether a number has a minus sign, as the negative zero does. -/
def isNegative (x : Float) : Bool :=
  powerOfTwo 63 ≤ x.toBits.toNat

def render (style : Style) (x : Float) : Text :=
  match parts? x with
  | some (m, e) =>
    let size := style.magnitude m.natAbs e
    if isNegative x then '-'.toUInt8 :: size else size
  | none => if x.isNaN then "nan" else if x < 0 then "-inf" else "+inf"

end Floating

end CoreWar
