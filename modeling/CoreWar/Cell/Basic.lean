import CoreWar.Cell.Mode
import CoreWar.Cell.Opcode
import CoreWar.Player

/-!
# Cells

A cell of the core is an instruction with two operands, tagged with the player who wrote it last.
Any machine word can stand in its opcode, modes and owner, and its fields are 32 bits wide.
-/

namespace CoreWar

/-- A mode and the field that it applies to. -/
structure Operand where
  mode : Mode
  field : Int32
  deriving DecidableEq, Repr

def Operand.render (o : Operand) : Text :=
  o.mode.render ++ Text.ofInt o.field.toInt

/-- One addressable unit of the core. -/
structure Cell where
  opcode : Opcode
  a : Operand
  b : Operand
  /-- The last player to write the cell. -/
  owner : Owner
  deriving DecidableEq, Repr

namespace Cell

/-- The cell `DAT #0, #0` with the given owner. -/
def data (owner : Owner) : Cell :=
  ⟨⟨0⟩, ⟨⟨0⟩, 0⟩, ⟨⟨0⟩, 0⟩, owner⟩

/-- The content of every cell of an unused core: data that belongs to nobody. -/
def empty : Cell := data .nobody

/-- The cell of words that are all zero, which stands for a missing instruction. -/
def zero : Cell := data ⟨0⟩

/-- Operand A for the number `0`, operand B for every other number. -/
def operand (c : Cell) (n : Int64) : Operand :=
  if n = 0 then c.a else c.b

def isLegal (c : Cell) : Bool :=
  c.opcode.isLegal && c.a.mode.isLegal && c.b.mode.isLegal

def render (c : Cell) : Text :=
  c.opcode.render ++ " " ++ c.a.render ++ ", " ++ c.b.render

end Cell

end CoreWar
