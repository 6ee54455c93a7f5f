import CoreWar.Text.Decimal

/-!
# Addressing and modes

An operand says by its mode, which is any machine word, how its field leads to an address. Three
words stand for the three ways of addressing.
-/

namespace CoreWar

/-- The ways in which an operand leads to an address. -/
inductive Addressing where
  /-- The address of the instruction itself. -/
  | immediate
  /-- The address as far from the instruction as the field says. -/
  | relative
  /-- The address as far from the relative one as the B field found there says. -/
  | indirect
  deriving DecidableEq, Repr

namespace Addressing

/-- All ways of addressing, in the order of their modes. -/
def all : List Addressing :=
  [immediate, relative, indirect]

/-- The character in front of a field that is addressed so. -/
def sigil : Addressing → Text
  | immediate => "#"
  | relative => "$"
  | indirect => "@"

/-- The way of addressing with the given sigil; without a sigil a field is relative. -/
def ofSigil? (sigil : Text) : Option Addressing :=
  if sigil = [] then some relative else all.find? fun a => a.sigil == sigil

end Addressing

/-- The word that names the addressing of an operand. -/
structure Mode where
  code : Int64
  deriving DecidableEq, Repr

namespace Mode

def ofAddressing : Addressing → Mode
  | .immediate => ⟨0⟩
  | .relative => ⟨1⟩
  | .indirect => ⟨2⟩

/-- The way of addressing that a mode stands for, if it is legal. -/
def addressing? (m : Mode) : Option Addressing :=
  if m.code < 0 then none else Addressing.all[m.code.toNatClampNeg]?

def isLegal (m : Mode) : Bool :=
  m.addressing?.isSome

/-- Whether a mode is that of an immediate operand. -/
def isImmediate (m : Mode) : Bool :=
  m.addressing? == some .immediate

/-- The sigil of a legal mode, and the number of an illegal one. -/
def render (m : Mode) : Text :=
  match m.addressing? with
  | some a => a.sigil
  | none => "Mode(" ++ Text.ofInt m.code.toInt ++ ")"

end Mode

end CoreWar
