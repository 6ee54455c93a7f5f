/-!
# Random draws

A permuted congruential generator with 128 bits of state gives words of 64 bits, and a draw below a
bound is made from such words without favouring any number.
-/

namespace CoreWar

structure Pcg where
  state : BitVec 128
  deriving DecidableEq

namespace Pcg

/-- The generator that starts from a seed of two words, the more significant one first. -/
def ofSeed (high low : UInt64) : Pcg :=
  ⟨high.toBitVec ++ low.toBitVec⟩

def multiplier : BitVec 128 :=
  2549297995355413924#64 ++ 4865540595714422341#64

def increment : BitVec 128 :=
  6364136223846793005#64 ++ 1442695040888963407#64

def advance (g : Pcg) : Pcg :=
  ⟨g.state * multiplier + increment⟩

/-- The word that a state gives: the high half is mixed by shifts and products, at last by one with
the low half made odd. -/
def output (g : Pcg) : UInt64 :=
  let high : UInt64 := ⟨g.state.extractLsb' 64 64⟩
  let low : UInt64 := ⟨g.state.extractLsb' 0 64⟩
  let high := high ^^^ (high >>> 32)
  let high := high * 0xda942042e4dd58b5
  let high := high ^^^ (high >>> 48)
  high * (low ||| 1)

def next (g : Pcg) : UInt64 × Pcg :=
  (g.advance.output, g.advance)

/-- Draws a word `w` until the low half of `w * n` is at least the remainder of the number of words
by `n`, so that every high half is as likely as any other, and gives the high half. After as many
words as the generator has states the same words would come again. -/
def drawBelow (n : Nat) : Nat → Pcg → Nat × Pcg
  | 0, g => (0, g)
  | fuel + 1, g =>
    let product := g.next.1.toNat * n
    if product % UInt64.size < UInt64.size % n then drawBelow n fuel g.next.2
    else (product / UInt64.size, g.next.2)

def isPowerOfTwo (n : Nat) : Bool :=
  n &&& (n - 1) == 0

/-- A number below `n` and the generator after the draw. A power of two takes the low bits of one
word. -/
def below (n : Nat) (g : Pcg) : Nat × Pcg :=
  if isPowerOfTwo n then (g.next.1.toNat % n, g.next.2)
  else drawBelow n (UInt64.size * UInt64.size) g

end Pcg

end CoreWar
