/-!
# Floating-point numbers

Floating-point numbers beside integers: each finite one is a whole number times a power of two, and
so it can be compared with an integer, truncated and divided with remainder exactly.
-/

namespace CoreWar

namespace Floating

def powerOfTwo (k : Nat) : Nat := 1 <<< k

/-- The whole number `m` and the exponent `e` of a finite number `m * 2 ^ e`. -/
def parts? (x : Float) : Option (Int × Int) :=
  let bits := x.toBits.toNat
  let exponent : Nat := bits / powerOfTwo 52 % powerOfTwo 11
  let fraction : Nat := bits % powerOfTwo 52
  let sign : Int := if bits / powerOfTwo 63 = 0 then 1 else -1
  if exponent = powerOfTwo 11 - 1 then none
  else if exponent = 0 then some (sign * fraction, -1074)
  else some (sign * (powerOfTwo 52 + fraction), exponent - 1075)

/-- The integer nearest to `n / d`, and of two equally near ones the even one. -/
def roundDiv (n d : Nat) : Nat :=
  let quotient := n / d
  let double := 2 * (n % d)
  if d < double ∨ (double = d ∧ quotient % 2 = 1) then quotient + 1 else quotient

/-- The number nearest to an integer; one that is too large gives an infinite number. -/
def ofInt (i : Int) : Float :=
  let excess := i.natAbs.log2 + 1 - 53
  let size := (Float.ofNat (roundDiv i.natAbs (powerOfTwo excess))).scaleB excess
  if i < 0 then -size else size

/-- The number nearest to `digits * 10 ^ exponent`, if that is not too large. -/
def ofDecimal? (digits : Nat) (exponent : Int) : Option Float :=
  let magnitude : Int := (Nat.toDigits 10 digits).length + exponent
  if digits = 0 ∨ magnitude < -400 then some 0
  else if 400 < magnitude then none
  else
    let x := Float.ofScientific digits (exponent < 0) exponent.natAbs
    if x.isInf then none else some x

/-- The integer part of a finite number, towards zero. -/
def truncate? (x : Float) : Option Int :=
  (parts? x).map fun (m, e) =>
    if 0 ≤ e then m * powerOfTwo e.toNat else m.tdiv (powerOfTwo (-e).toNat)

/-- The order of two numbers; one that is no number comes last. -/
def compare (x y : Float) : Ordering :=
  if x < y then .lt
  else if y < x then .gt
  else if x == y then .eq
  else if x == x then .lt
  else if y == y then .gt
  else .eq

def compareInt (i : Int) (y : Float) : Ordering :=
  match parts? y with
  | some (m, e) =>
    if 0 ≤ e then Ord.compare i (m * powerOfTwo e.toNat)
    else Ord.compare (i * powerOfTwo (-e).toNat) m
  | none => if y < 0 then .gt else .lt

/-- The remainder of a division, with the sign of the dividend, even if it is zero. An infinite
divisor leaves the dividend. -/
def remainder (x y : Float) : Float :=
  match parts? x, parts? y with
  | some (m, e), some (n, d) =>
    let low := min e d
    let r := (m * powerOfTwo (e - low).toNat).tmod (n * powerOfTwo (d - low).toNat)
    let size := (Float.ofNat r.natAbs).scaleB low
    if x < 0 then -size else if x == 0 then x else size
  | some _, none => if y.isNaN then y else x
  | none, _ => 0 / 0

/-- The remainder of a floored division, with the sign of the divisor. -/
def modulo (x y : Float) : Float :=
  let r := remainder x y
  if (decide (x < 0) != decide (y < 0)) && r != 0 then r + y else r

end Floating

end CoreWar
