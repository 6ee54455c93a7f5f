import CoreWar.Script.Floating
import CoreWar.Text.Decimal

/-!
# Decimal digits of floating-point numbers

A floating-point number is written with decimal digits by rounding it to a grid of decimal
fractions. Either the grid is given, or it is the coarsest one with a point that reads back as the
number.

* `Ratio.rounded` is the point of a given grid that is nearest to a number.
* `shortest` has the fewest digits that read back.
-/

namespace CoreWar

namespace Floating

def powerOfTen (k : Nat) : Nat := Nat.pow 10 k

/-- The decimal number `0.d₁d₂d₃… * 10 ^ point`, where the last digit is not zero. Zero has no
digits. -/
structure Digits where
  digits : Text
  point : Int

namespace Digits

def zero : Digits := ⟨[], 0⟩

/-- The digits of `count` steps on the grid with the given number of decimal places. -/
def ofCount (count : Nat) (places : Int) : Digits :=
  if count = 0 then zero
  else
    let all := Text.ofNat count
    ⟨(all.reverse.dropWhile (· == '0'.toUInt8)).reverse, all.length - places⟩

end Digits

structure Ratio where
  num : Nat
  den : Nat

namespace Ratio

/-- The fraction `m * 2 ^ e`. -/
def ofParts (m : Nat) (e : Int) : Ratio :=
  ⟨m * powerOfTwo e.toNat, powerOfTwo (-e).toNat⟩

/-- The fraction times `10 ^ k`. -/
def scale (r : Ratio) (k : Int) : Ratio :=
  ⟨r.num * powerOfTen k.toNat, r.den * powerOfTen (-k).toNat⟩

/-- The least `k` for which the fraction is below `10 ^ k`. The lengths of the numerator and of the
denominator leave only two possibilities. -/
def magnitude (r : Ratio) : Int :=
  let k : Int := (Text.ofNat r.num).length - (Text.ofNat r.den).length
  let unit := r.scale (-k)
  if unit.den ≤ unit.num then k + 1 else k

/-- The digits of the fraction rounded to a number of decimal places. -/
def rounded (r : Ratio) (places : Int) : Digits :=
  let grid := r.scale places
  .ofCount (roundDiv grid.num grid.den) places

end Ratio

/-! ### The fewest digits -/

/-- The numbers that read back as `m * 2 ^ e`: those between it and the middles of the gaps on both
sides, and the middles themselves if `m` is even. The gap below a power of two is half as wide as
the one above, except below the least number with all bits. -/
def readsBack (m : Nat) (e : Int) (places : Int) (count : Nat) : Bool :=
  let narrow : Bool := m == powerOfTwo 52 && decide (-1074 < e)
  let low := (Ratio.ofParts (if narrow then 4 * m - 1 else 4 * m - 2) (e - 2)).scale places
  let high := (Ratio.ofParts (4 * m + 2) (e - 2)).scale places
  let size := count * low.den
  if m % 2 = 0 then low.num ≤ size && size ≤ high.num else low.num < size && size < high.num

/-- The nearest point of a grid that reads back as `m * 2 ^ e`. If there is one at all, then one of
the two neighbours of the number does. -/
def nearestReadingBack? (m : Nat) (e : Int) (places : Int) : Option Nat :=
  let grid := (Ratio.ofParts m e).scale places
  let below := grid.num / grid.den
  let nearest := roundDiv grid.num grid.den
  let other := if nearest = below then below + 1 else below
  [nearest, other].find? (readsBack m e places)

/-- The fewest digits that read back as `m * 2 ^ e`; seventeen are always enough. -/
def shortest (m : Nat) (e : Int) : Digits :=
  let exact := Ratio.ofParts m e
  let atLength (n : Nat) : Option Digits :=
    let places : Int := n - exact.magnitude
    (nearestReadingBack? m e places).map fun count => .ofCount count places
  ((List.range 17).findSome? fun i => atLength (i + 1)).getD (exact.rounded 17)

end Floating

end CoreWar
