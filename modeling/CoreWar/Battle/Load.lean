import CoreWar.Battle.Basic
import CoreWar.Text.Message

/-!
# Loading

Two warriors are placed on an unused core at random. The second one starts at a random distance
after the end of the first, chosen so that it ends before the first one begins again.
-/

namespace CoreWar

/-- Why two warriors could not be loaded: they have more cells than the core. -/
structure LoadError where
  lengths : Sides Nat
  coreSize : Nat
  deriving DecidableEq, Repr

def LoadError.message (e : LoadError) : Text :=
  Message.format "load %d + %d cells into %d: %v"
    [.number e.lengths.a, .number e.lengths.b, .number e.coreSize,
      .text "warriors do not fit in the core"]

namespace Battle

variable {size : CoreSize}

/-- The match with the first warrior at `start` and the second one `gap` cells after its end. -/
def place (b : Battle size) (first second : List Cell) (start : Address size) (gap : Nat) :
    Battle size :=
  let origins : Sides (Address size) := ⟨start, start.advance (first.length + gap)⟩
  let words : Sides Int64 := ⟨origins.a.word, origins.b.word⟩
  let core := (Core.blank.setFrom origins.a first).setFrom origins.b second
  { b.reset with machine := ⟨core, words, .both .zero⟩, origin := words }

/-- How many distances there are for the second warrior. -/
def gapCount (size : CoreSize) (first second : List Cell) : Nat :=
  size.count - first.length - second.length + 1

/-- The match with both warriors loaded at random, or the match as it was and why they could not be
loaded. -/
def load (b : Battle size) (first second : List Cell) : Battle size × Option LoadError :=
  if size.count < first.length + second.length then
    (b, some ⟨⟨first.length, second.length⟩, size.count⟩)
  else
    let (start, generator) := b.generator.below size.count
    let (gap, generator) := generator.below (gapCount size first second)
    ({ b.place first second (.ofInt start) gap with generator := generator }, none)

/-- The lines that a load writes, given the match after it. -/
def loadLog (b : Battle size) (first second : List Cell) : List Text :=
  let line (p : Player) (warrior : List Cell) : Text :=
    "emulator: player " ++ (Owner.ofPlayer p).letter ++ " loaded at " ++
      Text.ofInt (b.origin.get p).toInt ++ " size " ++ Text.ofNat warrior.length
  if b.verbose then Machine.resetLog ++ [line .a first, line .b second] else []

end Battle

end CoreWar
