import CoreWar.Script.Floating

/-!
# Decimal forms

The floating-point number that a decimal number with a fraction or an exponent stands for. It is the
number nearest to what is written, as far as the first digits tell: nineteen of them are looked at
first, and up to eight hundred if those do not decide. In the second case the point stands behind
the last digit kept if it is written farther to the right.
-/

namespace CoreWar

namespace Script

/-- A decimal number as it is written, from its first digit on that is not zero. -/
structure DecimalForm where
  digits : List Nat
  /-- How many of the digits stand in front of the point; the number is negative if zeros stand
  between the point and the first digit. -/
  point : Int
  exponent : Int

namespace DecimalForm

/-- The number with the given digits in front of the point and after it. -/
def ofParts (whole fraction : List Nat) (exponent : Int) : DecimalForm :=
  let digits := (whole ++ fraction).dropWhile (· == 0)
  ⟨digits, digits.length - fraction.length, exponent⟩

def integer (digits : List Nat) : Nat :=
  digits.foldl (fun n d => 10 * n + d) 0

/-- How many digits are looked at first. -/
def shortLength : Nat := 19

/-- How many digits are looked at if the first ones do not decide. -/
def longLength : Nat := 800

/-- The number nearest to `n` units of the last of the first digits, if that is not too large. -/
def nearest? (x : DecimalForm) (n : Nat) : Option Float :=
  Floating.ofDecimal? n (x.point + x.exponent - (x.digits.take shortLength).length)

/-- The number nearest to what many digits say, if that is not too large. If there are even more
digits, the number is a little larger than those that are kept. -/
def long? (x : DecimalForm) : Option Float :=
  let kept := x.digits.take longLength
  let isLarger := (x.digits.drop longLength).any (· != 0)
  let units := 10 * integer kept + if isLarger then 1 else 0
  Floating.ofDecimal? units (min x.point longLength + x.exponent - kept.length - 1)

/-- The floating-point number that the form stands for, if that is not too large. The first digits
decide if no others follow but zeros, or if one more unit would not make a difference. -/
def toFloat? (x : DecimalForm) : Option Float :=
  let first := integer (x.digits.take shortLength)
  let isWhole := (x.digits.drop shortLength).all (· == 0)
  if isWhole || x.nearest? first == x.nearest? (first + 1) then x.nearest? first else x.long?

end DecimalForm

end Script

end CoreWar
