import CoreWar.Source.Expansion
import CoreWar.Text.Message

/-!
# Causes

Why a line of a source was skipped, and the words for it.
-/

namespace CoreWar

/-- Why a line could not be assembled. -/
inductive Cause where
  /-- There is no number at all. -/
  | fieldMissing
  /-- A number does not fit a field. -/
  | fieldRange
  /-- The operands are not well-formed. -/
  | operandSyntax
  /-- An expression does not stand for a number. -/
  | expression (failure : Expansion.Failure)
  deriving DecidableEq, Repr

inductive CauseKind where
  | fieldMissing
  | fieldRange
  | operandSyntax
  | expressionInvalid
  deriving DecidableEq, Repr

def fieldRangeMessage : Text := "field out of range"

/-- The words for the fault of an expression, if it is more than the lack of an integer. -/
def Expression.Fault.message? : Expression.Fault → Option Text
  | interpreter complaint => some complaint.message
  | notInteger => none
  | outOfRange => some fieldRangeMessage

namespace Cause

def message : Cause → Text
  | fieldMissing => "field missing"
  | fieldRange => fieldRangeMessage
  | operandSyntax => "operand syntax"
  | expression ⟨e, fault⟩ =>
    match fault.message? with
    | some m => Message.format "$(%v) %v" [.text e, .text m]
    | none => Message.format "$(%v) is not a valid expression" [.text e]

/-- The kinds that a cause belongs to, in their order. An expression whose value does not fit also
counts as a number that does not fit. -/
def kinds : Cause → List CauseKind
  | fieldMissing => [.fieldMissing]
  | fieldRange => [.fieldRange]
  | operandSyntax => [.operandSyntax]
  | expression ⟨_, .outOfRange⟩ => [.fieldRange, .expressionInvalid]
  | expression _ => [.expressionInvalid]

end Cause

end CoreWar
