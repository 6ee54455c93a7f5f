import CoreWar.Text.Basic

/-!
# Players and owners

Two players fight for the core, and A moves first. What a cell or a verdict records of a player is
an owner, which is any machine word: `0` for A, `1` for B and every other word for nobody.
-/

namespace CoreWar

/-- The two players. -/
inductive Player where
  | a
  | b
  deriving DecidableEq, Repr

namespace Player

def other : Player → Player
  | a => b
  | b => a

def ofNumber? (n : Int64) : Option Player :=
  if n = 0 then some a else if n = 1 then some b else none

end Player

/-- The word that records a player. -/
structure Owner where
  code : Int64
  deriving DecidableEq, Repr

namespace Owner

def nobody : Owner := ⟨-1⟩

def ofPlayer : Player → Owner
  | .a => ⟨0⟩
  | .b => ⟨1⟩

/-- The player that is recorded, if any. -/
def player? (o : Owner) : Option Player :=
  Player.ofNumber? o.code

def letter (o : Owner) : Text :=
  match o.player? with
  | some .a => "A"
  | some .b => "B"
  | none => "_"

end Owner

/-- A value for each player. -/
structure Sides (α : Type) where
  a : α
  b : α
  deriving DecidableEq, Repr

namespace Sides

variable {α : Type}

def both (x : α) : Sides α := ⟨x, x⟩

def get (s : Sides α) : Player → α
  | .a => s.a
  | .b => s.b

def set (s : Sides α) : Player → α → Sides α
  | .a, x => { s with a := x }
  | .b, x => { s with b := x }

end Sides

end CoreWar
