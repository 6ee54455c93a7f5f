import CoreWar.Core.Basic
import CoreWar.Machine.Fault

/-!
# The machine

The machine is a core with an instruction pointer for each player. A pointer is any machine word
and is taken modulo the size of the core when it is used.

An operand leads to an address by the mode that it has, starting from the pointer of the player
whose instruction it belongs to.
-/

namespace CoreWar

/-- A core shared by two players. -/
structure Machine (size : CoreSize) where
  core : Core size
  /-- Where each player goes on. -/
  ip : Sides Int64
  /-- The instruction that each player has fetched last. -/
  last : Sides Cell
  deriving DecidableEq

namespace Machine

variable {size : CoreSize}

def blank : Machine size :=
  ⟨.blank, .both 0, .both .zero⟩

/-- The address that an operand leads to from the pointer `ip`, unless its mode is illegal. -/
def resolve (core : Core size) (ip : Int64) (o : Operand) : Option (Address size) :=
  match o.mode.addressing? with
  | some .immediate => some (.wrap ip)
  | some .relative => some (.wrap (ip + o.field.toInt64))
  | some .indirect =>
    let pointer : Address size := .wrap (ip + o.field.toInt64)
    some (.wrap (pointer.word + (core.get pointer).b.field.toInt64))
  | none => none

end Machine

end CoreWar
