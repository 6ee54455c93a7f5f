import CoreWar.Assembler.Cause
import CoreWar.Cell.Basic

/-!
# Programs

What comes of the lines of a source. Every line with a mnemonic leaves a trace; those that could be
assembled are the instructions of the program, the others its errors.
-/

namespace CoreWar

/-- What the assembler made of a line with a mnemonic. -/
structure Trace where
  lineNo : Nat
  /-- The line without its comment. -/
  line : Text
  /-- The mnemonic as it is written. -/
  mnemonic : Text
  /-- The operands, with expressions replaced if all of them have a value. -/
  operands : Text
  /-- The assembled cell, unless the line was skipped. -/
  cell : Cell
  /-- Why the line was skipped, if it was. -/
  cause? : Option Cause
  deriving DecidableEq, Repr

def Trace.render (t : Trace) : Text :=
  match t.cause? with
  | some cause =>
    Text.ofNat t.lineNo ++ ": " ++ t.mnemonic ++ " " ++ t.operands ++ ": " ++ cause.message
  | none =>
    Text.ofNat t.lineNo ++ ": " ++ t.cell.opcode.render ++ ", " ++ t.cell.a.mode.render ++ ", " ++
      Text.ofInt t.cell.a.field.toInt ++ ", " ++ t.cell.b.mode.render ++ ", " ++
      Text.ofInt t.cell.b.field.toInt

/-- An assembled line. -/
structure Instruction where
  lineNo : Nat
  text : Text
  cell : Cell
  deriving DecidableEq, Repr

/-- A line that was skipped. -/
structure LineError where
  lineNo : Nat
  line : Text
  cause : Cause
  deriving DecidableEq, Repr

def LineError.message (e : LineError) : Text :=
  Message.format "line %d '%v' %v" [.number e.lineNo, .text e.line, .text e.cause.message]

/-- An assembled warrior. -/
structure Program where
  owner : Owner
  /-- The assembled lines in the order in which they are loaded. -/
  instructions : List Instruction
  /-- The lines that were skipped. -/
  errors : List LineError
  deriving DecidableEq, Repr

namespace Program

def length (p : Program) : Nat :=
  p.instructions.length

/-- The cells of a warrior in the order in which they are loaded. -/
def cells (p : Program) : List Cell :=
  p.instructions.map Instruction.cell

/-- The instruction as far from the start of a warrior as an offset says. -/
def instructionAt? (p : Program) (offset : Int64) : Option Instruction :=
  if offset < 0 then none else p.instructions[offset.toNatClampNeg]?

end Program

end CoreWar
