import CoreWar.Expression.Interpreter
import CoreWar.Word

/-!
# Expressions

An expression is evaluated by an interpreter, as a program of one line that gives its value to the
variable `rc`. The value has to be an integer that fits a machine word.
-/

namespace CoreWar

namespace Expression

/-- Why an expression does not stand for a machine word. -/
inductive Fault where
  /-- The interpreter has given its program up. -/
  | interpreter (complaint : Complaint)
  /-- Its value is no integer. -/
  | notInteger
  /-- Its value does not fit a machine word. -/
  | outOfRange
  deriving DecidableEq, Repr

/-- The variable that takes the value of an expression. -/
def resultVariable : Text := "rc"

/-- The text of the program that evaluates an expression. -/
def programText (expression : Text) : Text :=
  resultVariable ++ "=" ++ expression ++ "\n"

/-- The machine word that an expression stands for under the given equates. -/
def evaluate (I : Interpreter) (equate? : Text → Option Int64) (expression : Text) :
    Except Fault Int64 :=
  match I.run (programText expression) equate? with
  | .error complaint => .error (.interpreter complaint)
  | .ok values =>
    match values resultVariable with
    | none => .error .notInteger
    | some i =>
      match word? i with
      | none => .error .outOfRange
      | some w => .ok w

end Expression

end CoreWar
