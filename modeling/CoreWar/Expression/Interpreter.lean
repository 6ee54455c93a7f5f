import CoreWar.Text.Basic

/-!
# Interpreters

Expressions belong to a language of their own, and they are left to an interpreter of it. All that
is known of an interpreter is how it is called: it runs a program in which some names stand for
machine words from the start, and either it gives the program up or the variables of the program
have got their values.
-/

namespace CoreWar

/-- When an interpreter has given a program up. -/
inductive Stage where
  /-- The text is no program. -/
  | reading
  /-- A name or an assignment is out of order. -/
  | resolving
  /-- Something has no value. -/
  | evaluating
  deriving DecidableEq, Repr

/-- Why an interpreter has given a program up, in its own words. -/
structure Complaint where
  stage : Stage
  message : Text
  deriving DecidableEq, Repr

/-- An interpreter, by what becomes of the text of a program under the words of predeclared names:
the integers that variables hold in the end. A variable may also hold something else, or nothing. -/
structure Interpreter where
  run (program : Text) (predeclared : Text → Option Int64) :
    Except Complaint (Text → Option Int)

end CoreWar
