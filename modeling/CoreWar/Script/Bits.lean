/-!
# Bits of integers

Integers as endless rows of bits in two's complement: those of a negative number `-(n + 1)` are the
bits of `n`, inverted.
-/

namespace CoreWar

namespace Bits

def and : Int → Int → Int
  | .ofNat m, .ofNat n => .ofNat (m &&& n)
  | .ofNat m, .negSucc n => .ofNat (m - (m &&& n))
  | .negSucc m, .ofNat n => .ofNat (n - (m &&& n))
  | .negSucc m, .negSucc n => .negSucc (m ||| n)

/-- The bits that are set in one of the numbers or in both. -/
def or : Int → Int → Int
  | .ofNat m, .ofNat n => .ofNat (m ||| n)
  | .ofNat m, .negSucc n => .negSucc (n - (m &&& n))
  | .negSucc m, .ofNat n => .negSucc (m - (m &&& n))
  | .negSucc m, .negSucc n => .negSucc (m &&& n)

/-- The bits that are set in exactly one of the numbers. -/
def xor : Int → Int → Int
  | .ofNat m, .ofNat n => .ofNat (m ^^^ n)
  | .ofNat m, .negSucc n => .negSucc (m ^^^ n)
  | .negSucc m, .ofNat n => .negSucc (m ^^^ n)
  | .negSucc m, .negSucc n => .ofNat (m ^^^ n)

def not (i : Int) : Int := -i - 1

/-- The bits moved up by `n` places. -/
def shiftLeft (i : Int) (n : Nat) : Int := i * (1 <<< n : Nat)

/-- The bits moved down by `n` places. -/
def shiftRight (i : Int) (n : Nat) : Int := i >>> n

end Bits

end CoreWar
