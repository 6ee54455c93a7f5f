import CoreWar.Assembler.Equates
import CoreWar.Assembler.Program
import CoreWar.Source.Line
import CoreWar.Source.Lines
import CoreWar.Text.Glyph
import CoreWar.Word

/-!
# The assembler

The assembler makes a program of a source, line by line; lines that cannot be assembled are skipped.
It keeps a table of equates for the expressions of the source. The table is made anew for each
source out of the predefined equates, and each line leaves its number in it.
-/

namespace CoreWar

namespace Assembler

/-! ### Lines -/

/-- The operand that a written one stands for, and what is wrong with its number, if anything: a
number that does not fit a field leaves zero. -/
def operand (w : Line.Written) : Operand × Option Cause :=
  match field? w.value with
  | some f => (⟨.ofAddressing w.addressing, f⟩, none)
  | none => (⟨.ofAddressing w.addressing, 0⟩, some .fieldRange)

/-- The cell with the operands of a text filled in, as far as nothing is wrong with them, and what
is wrong. A single operand is used twice. -/
def fillOperands (cell : Cell) (t : Text) : Cell × Option Cause :=
  if !t.any Text.isDigit then (cell, some .fieldMissing)
  else
    match Line.operands? t with
    | none => (cell, some .operandSyntax)
    | some (a, b?) =>
      let (x, cause?) := operand a
      let cell := { cell with a := x }
      match cause?, b? with
      | some cause, _ => (cell, some cause)
      | none, none => ({ cell with b := x }, none)
      | none, some b =>
        let (y, cause?) := operand b
        ({ cell with b := y }, cause?)

variable (I : Interpreter)

/-- What comes of a line without its comment, if it starts with a mnemonic. The cell that is filled
in is kept only if nothing is wrong with it. -/
def assembleLine (owner : Owner) (equate? : Text → Option Int64) (lineNo : Nat) (line : Text) :
    Option Trace := do
  let (mnemonic, rest) ← Line.word? line
  let op ← Operation.ofMnemonic? mnemonic
  let trace : Trace := ⟨lineNo, line.trim, mnemonic, rest.trim, .zero, none⟩
  match Expansion.expand I equate? rest with
  | .error failure => some { trace with cause? := some (.expression failure) }
  | .ok operands =>
    let (cell, cause?) := fillOperands { Cell.zero with opcode := .ofOperation op, owner } operands
    let trace := { trace with operands := operands.trim, cause? }
    if cause?.isNone then some { trace with cell } else some trace

/-! ### Sources -/

/-- The name of the equate that holds the number of the line. -/
def lineNumberName : Text := "LINENO"

def initialEquates (predefined : Equates) : Equates :=
  (Equates.empty.insert lineNumberName "0").insertAll predefined.entries

/-- A line of a source and what came of it. -/
structure Record where
  lineNo : Nat
  text : Text
  trace? : Option Trace
  deriving DecidableEq, Repr

/-- How far a source has been assembled. All lists have the last item first. -/
structure Progress where
  /-- The number of the last line that has been read. -/
  lineNo : Nat
  /-- The equates as the last line has left them. -/
  equates : Equates
  /-- The lines that have been read. -/
  records : List Record
  traces : List Trace
  instructions : List Instruction
  errors : List LineError

namespace Progress

/-- The start of a source under predefined equates. -/
def start (predefined : Equates) : Progress :=
  ⟨0, initialEquates predefined, [], [], [], []⟩

/-- Takes note of a trace, and of the error or of the instruction that it is. -/
def note (p : Progress) (trace : Trace) : Progress :=
  let p := { p with traces := trace :: p.traces }
  match trace.cause? with
  | some cause => { p with errors := ⟨p.lineNo, trace.line, cause⟩ :: p.errors }
  | none => { p with instructions := ⟨p.lineNo, trace.line, trace.cell⟩ :: p.instructions }

/-- Reads one more line. Its number becomes an equate before anything else is done with it. -/
def next (owner : Owner) (p : Progress) (text : Text) : Progress :=
  let lineNo := p.lineNo + 1
  let equates := p.equates.insert lineNumberName (Text.ofNat lineNo)
  let trace? := assembleLine I owner equates.value? lineNo (Line.withoutComment text)
  let p := { p with lineNo, equates, records := ⟨lineNo, text, trace?⟩ :: p.records }
  match trace? with
  | none => p
  | some trace => p.note trace

end Progress

/-- What came of a source. -/
@[ext]
structure Assembly where
  /-- The lines that were read, in order. -/
  records : List Record
  /-- The traces of all lines with a mnemonic. -/
  traces : List Trace
  program : Program
  /-- Why the source was not read to its end, if it was not. -/
  readError? : Option Source.ReadError
  deriving DecidableEq, Repr

/-- The lines that a logged assembly writes: each line of the source, and then its trace. -/
def Assembly.log (a : Assembly) : List Text :=
  a.records.flatMap fun r =>
    ("redcode: " ++ Text.ofNat r.lineNo ++ ": " ++ r.text : Text) ::
      r.trace?.toList.map fun t => "redcode: " ++ t.render

/-- What comes of a source that is read to the given point. -/
def Progress.assembly (p : Progress) (owner : Owner) (readError? : Option Source.ReadError) :
    Assembly :=
  ⟨p.records.reverse, p.traces.reverse, ⟨owner, p.instructions.reverse, p.errors.reverse⟩,
    readError?⟩

end Assembler

/-- An assembler: the equates that have been predefined, and those that its last source has left. -/
structure Assembler where
  predefined : Equates
  equates : Equates

namespace Assembler

def new : Assembler := ⟨.empty, .empty⟩

def predefine (asm : Assembler) (name value : Text) : Assembler :=
  { asm with predefined := asm.predefined.insert name value }

/-- The assembler with several predefined equates set, in order. -/
def predefineAll (asm : Assembler) (more : List (Text × Text)) : Assembler :=
  more.foldl (fun asm entry => asm.predefine entry.1 entry.2) asm

/-- What comes of a source, and the assembler afterwards. -/
def assemble (I : Interpreter) (asm : Assembler) (owner : Owner) (s : Source) :
    Assembly × Assembler :=
  let final := s.lines.foldl (Progress.next I owner) (.start asm.predefined)
  (final.assembly owner s.readError?, { asm with equates := final.equates })

end Assembler

end CoreWar
