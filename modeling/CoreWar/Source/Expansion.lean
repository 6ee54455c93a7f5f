import CoreWar.Expression.Basic
import CoreWar.Text.Decimal

/-!
# Expansion

An expression in an operand is written `$(e)`. It reaches to the last closing parenthesis in front
of the next dollar sign, and it is replaced by the decimal digits of the value that an interpreter
gives it.
-/

namespace CoreWar

namespace Expansion

/-- A part of a text: characters that stand for themselves, or an expression. -/
inductive Piece where
  | literal (t : Text)
  | expression (e : Text)
  deriving DecidableEq, Repr

/-- The text up to its last closing parenthesis and the text after that, if there is one. -/
def splitAtLastClose? (t : Text) : Option (Text × Text) :=
  let close := ')'.toUInt8
  match t.reverse.dropWhile (· != close) with
  | [] => none
  | _ :: before => some (before.reverse, (t.reverse.takeWhile (· != close)).reverse)

/-- The pieces of a text that follows a dollar sign and has none itself. -/
def afterDollar (t : Text) : List Piece :=
  let plain := [Piece.literal ('$'.toUInt8 :: t)]
  match t with
  | [] => plain
  | c :: rest =>
    if c = '('.toUInt8 then
      match splitAtLastClose? rest with
      | some (e, after) => [.expression e, .literal after]
      | none => plain
    else plain

def pieces (t : Text) : List Piece :=
  match t.splitOn '$'.toUInt8 with
  | [] => []
  | first :: rest => .literal first :: rest.flatMap afterDollar

/-- Why an expression could not be replaced. -/
structure Failure where
  expression : Text
  fault : Expression.Fault
  deriving DecidableEq, Repr

variable (I : Interpreter) (equate? : Text → Option Int64)

/-- The text of a piece, with an expression replaced by its value. -/
def Piece.expand : Piece → Except Failure Text
  | literal t => .ok t
  | expression e =>
    match Expression.evaluate I equate? e with
    | .ok w => .ok (Text.ofInt w.toInt)
    | .error f => .error ⟨e, f⟩

/-- The text with every expression replaced by its value, or the failure of the first expression
that has none. -/
def expand (t : Text) : Except Failure Text :=
  return (← (pieces t).mapM (Piece.expand I equate?)).flatten

end Expansion

end CoreWar
