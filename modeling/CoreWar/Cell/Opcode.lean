import CoreWar.Text.Decimal

/-!
# Operations and opcodes

A cell names its operation by an opcode, which is any machine word. Eight words stand for the eight
operations; every other word is illegal, but can still be stored, copied and printed.
-/

namespace CoreWar

inductive Operation where
  /-- Holds data; whoever executes it loses. -/
  | dat
  /-- Copies a field or a cell. -/
  | mov
  /-- Adds to a field. -/
  | add
  /-- Subtracts from a field. -/
  | sub
  /-- Jumps. -/
  | jmp
  /-- Jumps if a field is zero. -/
  | jmz
  /-- Decrements a field and jumps if it has become zero. -/
  | djz
  /-- Skips the next cell if two fields or cells differ. -/
  | cmp
  deriving DecidableEq, Repr

namespace Operation

/-- All operations, in the order of their opcodes. -/
def all : List Operation :=
  [dat, mov, add, sub, jmp, jmz, djz, cmp]

def mnemonic : Operation → Text
  | dat => "DAT"
  | mov => "MOV"
  | add => "ADD"
  | sub => "SUB"
  | jmp => "JMP"
  | jmz => "JMZ"
  | djz => "DJZ"
  | cmp => "CMP"

/-- The operation with the given name, whatever its case. -/
def ofMnemonic? (name : Text) : Option Operation :=
  all.find? fun op => op.mnemonic == name.upper

end Operation

/-- The word that names the operation of a cell. -/
structure Opcode where
  code : Int64
  deriving DecidableEq, Repr

namespace Opcode

def ofOperation : Operation → Opcode
  | .dat => ⟨0⟩
  | .mov => ⟨1⟩
  | .add => ⟨2⟩
  | .sub => ⟨3⟩
  | .jmp => ⟨4⟩
  | .jmz => ⟨5⟩
  | .djz => ⟨6⟩
  | .cmp => ⟨7⟩

/-- The operation that an opcode stands for, if it is legal. -/
def operation? (o : Opcode) : Option Operation :=
  if o.code < 0 then none else Operation.all[o.code.toNatClampNeg]?

def isLegal (o : Opcode) : Bool :=
  o.operation?.isSome

/-- The mnemonic of a legal opcode, and the number of an illegal one. -/
def render (o : Opcode) : Text :=
  match o.operation? with
  | some op => op.mnemonic
  | none => "Opcode(" ++ Text.ofInt o.code.toInt ++ ")"

end Opcode

end CoreWar
