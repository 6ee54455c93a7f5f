import CoreWar.Text.Basic

/-!
# Decimal numbers

How numbers are written: plain decimal digits where a reader or a program looks for exact digits,
and digits in groups of three where a message is addressed to a person.
-/

namespace CoreWar

namespace Text

/-- The decimal digits of a natural number, the most significant first. -/
def ofNat (n : Nat) : Text :=
  (Nat.toDigits 10 n).map Char.toUInt8

/-- A minus sign in front of the given digits if the number is negative. -/
def signed (i : Int) (digits : Nat → Text) : Text :=
  if i < 0 then '-'.toUInt8 :: digits i.natAbs else digits i.natAbs

/-- The decimal digits of an integer, after a minus sign if it is negative. -/
def ofInt (i : Int) : Text :=
  signed i ofNat

/-- The text after as many spaces as make it at least `width` bytes long. -/
def padLeft (width : Nat) (t : Text) : Text :=
  List.replicate (width - t.length) ' '.toUInt8 ++ t

/-- A comma after every third digit that another one follows, the least significant digit first. -/
def groupThrees : Text → Text
  | a :: b :: c :: d :: rest => a :: b :: c :: ','.toUInt8 :: groupThrees (d :: rest)
  | digits => digits

/-- The decimal digits of an integer with a comma between groups of three. -/
def grouped (i : Int) : Text :=
  signed i fun n => (groupThrees (ofNat n).reverse).reverse

def digitValue (b : UInt8) : Nat :=
  b.toNat - '0'.toNat

/-- The number that a sequence of decimal digits stands for. -/
def toNat (digits : Text) : Nat :=
  digits.foldl (fun n b => 10 * n + digitValue b) 0

end Text

end CoreWar
