import Mathlib.Tactic.Lemma
import Mathlib.Tactic.SplitIfs
import CoreWar.Assembler.Basic

/-!
# Outcomes

A line with a mnemonic comes to a cell or to a cause why there is none. The assembler fills in a
cell in any case and keeps it only if nothing is wrong, so a trace holds the cell of its outcome or
the zero cell (`assembleLine_eq`). The program of traces consists of their outcomes.
-/

namespace CoreWar

namespace Assembler

/-- What was made, unless something is wrong with it. -/
def kept {α : Type} : α × Option Cause → Except Cause α
  | (a, none) => .ok a
  | (_, some cause) => .error cause

end Assembler

namespace Trace

/-- The cell that came of the line, or why there is none. -/
def outcome (t : Trace) : Except Cause Cell :=
  Assembler.kept (t.cell, t.cause?)

/-- The instruction of a trace, if its line was assembled. -/
def instruction? (t : Trace) : Option Instruction :=
  match t.outcome with
  | .ok c => some ⟨t.lineNo, t.line, c⟩
  | .error _ => none

/-- The error of a trace, if its line was skipped. -/
def error? (t : Trace) : Option LineError :=
  match t.outcome with
  | .ok _ => none
  | .error cause => some ⟨t.lineNo, t.line, cause⟩

def ofOutcome (lineNo : Nat) (line mnemonic operands : Text) : Except Cause Cell → Trace
  | .ok cell => ⟨lineNo, line, mnemonic, operands, cell, none⟩
  | .error cause => ⟨lineNo, line, mnemonic, operands, .zero, some cause⟩

section

variable (lineNo : Nat) (line mnemonic operands : Text) (outcome : Except Cause Cell)

@[simp]
lemma lineNo_ofOutcome : (ofOutcome lineNo line mnemonic operands outcome).lineNo = lineNo := by
  cases outcome <;> rfl

@[simp]
lemma line_ofOutcome : (ofOutcome lineNo line mnemonic operands outcome).line = line := by
  cases outcome <;> rfl

@[simp]
lemma mnemonic_ofOutcome :
    (ofOutcome lineNo line mnemonic operands outcome).mnemonic = mnemonic := by
  cases outcome <;> rfl

@[simp]
lemma operands_ofOutcome :
    (ofOutcome lineNo line mnemonic operands outcome).operands = operands := by
  cases outcome <;> rfl

@[simp]
lemma outcome_ofOutcome : (ofOutcome lineNo line mnemonic operands outcome).outcome = outcome := by
  cases outcome <;> rfl

end

end Trace

/-- The program that traces make up. -/
def Program.ofTraces (owner : Owner) (traces : List Trace) : Program :=
  ⟨owner, traces.filterMap Trace.instruction?, traces.filterMap Trace.error?⟩

namespace Assembler

/-- The cell of an operation with the operands of a text. -/
def assembleOperands (owner : Owner) (op : Operation) (t : Text) : Except Cause Cell :=
  kept (fillOperands { Cell.zero with opcode := .ofOperation op, owner } t)

/-- A cell is kept only if every operand of the text is. -/
lemma assembleOperands_eq (owner : Owner) (op : Operation) (t : Text) :
    assembleOperands owner op t =
      if !t.any Text.isDigit then .error .fieldMissing
      else
        match Line.operands? t with
        | none => .error .operandSyntax
        | some (a, b) => do
          let x ← kept (operand a)
          let y ← kept (operand (b.getD a))
          return ⟨.ofOperation op, x, y, owner⟩ := by
  unfold assembleOperands fillOperands
  split_ifs
  · rfl
  · cases Line.operands? t with
    | none => rfl
    | some operands =>
      obtain ⟨a, b⟩ := operands
      rcases hx : operand a with ⟨x, _ | cause⟩
      · cases b with
        | none => simp [hx, kept, bind, pure, Except.bind, Except.pure]
        | some b =>
          rcases hy : operand b with ⟨y, _ | cause⟩ <;>
            simp [hx, hy, kept, bind, pure, Except.bind, Except.pure]
      · simp [hx, kept, bind, Except.bind]

variable (I : Interpreter)

/-- What comes of a line, with its outcome in place of a cell that is filled in. -/
lemma assembleLine_eq (owner : Owner) (equate? : Text → Option Int64) (lineNo : Nat)
    (line : Text) :
    assembleLine I owner equate? lineNo line =
      (Line.word? line).bind fun (mnemonic, rest) =>
        (Operation.ofMnemonic? mnemonic).bind fun op =>
          match Expansion.expand I equate? rest with
          | .error failure =>
            some (.ofOutcome lineNo line.trim mnemonic rest.trim (.error (.expression failure)))
          | .ok operands =>
            some (.ofOutcome lineNo line.trim mnemonic operands.trim
              (assembleOperands owner op operands)) := by
  rcases hword : Line.word? line with _ | ⟨mnemonic, rest⟩
  · simp only [assembleLine, hword, Option.bind_eq_bind, Option.bind_none]
  rcases hop : Operation.ofMnemonic? mnemonic with _ | op
  · simp only [assembleLine, hword, hop, Option.bind_eq_bind, Option.bind_some, Option.bind_none]
  simp only [assembleLine, hword, hop, Option.bind_eq_bind, Option.bind_some]
  cases Expansion.expand I equate? rest with
  | error failure => rfl
  | ok operands =>
    rcases hcell : fillOperands { Cell.zero with opcode := .ofOperation op, owner } operands with
      ⟨cell, _ | cause⟩ <;> simp [assembleOperands, hcell, kept, Trace.ofOutcome]

/-- A trace holds the outcome of its line, and the zero cell if that is an error. -/
lemma eq_ofOutcome_of_assembleLine {owner : Owner} {equate? : Text → Option Int64} {lineNo : Nat}
    {line : Text} {t : Trace} (h : assembleLine I owner equate? lineNo line = some t) :
    t = .ofOutcome lineNo line.trim t.mnemonic t.operands t.outcome := by
  rw [assembleLine_eq] at h
  obtain ⟨⟨mnemonic, rest⟩, -, h⟩ := Option.bind_eq_some_iff.mp h
  obtain ⟨op, -, h⟩ := Option.bind_eq_some_iff.mp h
  split at h
  all_goals
    rw [← Option.some_inj.mp h]
    simp

end Assembler

end CoreWar
