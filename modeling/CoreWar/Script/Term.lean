import CoreWar.Script.Operation
import CoreWar.Script.Token

/-!
# Terms

The structure of expressions. What an expression stands in is a program: its first statement gives
the expression's value to a variable, and further lines are statements of their own.
-/

namespace CoreWar

namespace Script

mutual

inductive Term where
  | name (place : Place) (n : Text)
  | literal (v : Value)
  | unary (op : UnaryOp) (x : Term)
  | binary (op : BinaryOp) (x y : Term)
  | sum (s : Summands)
  | and (x y : Term)
  | or (x y : Term)
  /-- The value of `yes` if `condition` is true, and else that of `no`. -/
  | choice (condition yes no : Term)
  | list (xs : List Term)
  | tuple (xs : List Term)
  | index (x i : Term)
  /-- A call, with the place where the term of the function starts. -/
  | call (place : Place) (f : Term) (args : List Argument)
  | member (x : Term) (n : Text)

/-- An argument of a call, with the place where it starts. -/
inductive Argument where
  | positional (place : Place) (x : Term)
  | named (place : Place) (n : Text) (x : Term)
  /-- The elements of a value, as arguments without names. -/
  | elements (place : Place) (x : Term)
  /-- The entries of a value, as arguments with names. -/
  | entries (place : Place) (x : Term)

/-- The summands of a sum, from the left. -/
inductive Summands where
  | single (x : Term)
  | plus (s : Summands) (x : Term)

end

/-- The summands of a term: those of a sum, and otherwise the term itself. -/
def Term.summands : Term → Summands
  | sum s => s
  | x => .single x

/-- The sum of two terms. If the first one is a sum, it goes on with the second one; if the second
one is a sum, that is a summand as a whole. -/
def Term.add (x y : Term) : Term :=
  .sum (.plus x.summands y)

/-- How a string, a list or a tuple is written down with all its parts. -/
inductive Display where
  | string
  | list
  | tuple
  deriving DecidableEq, Repr

/-- What a term writes down with all its parts, if anything. -/
def Term.display? : Term → Option Display
  | literal (.string _) => some .string
  | list _ => some .list
  | tuple _ => some .tuple
  | _ => none

inductive Statement where
  /-- Gives a value to a variable. -/
  | assign (place : Place) (target : Text) (value : Term)
  /-- Evaluates a term and forgets its value. -/
  | evaluate (x : Term)

def Statement.term : Statement → Term
  | assign _ _ value => value
  | evaluate x => x

/-- The variable that a statement gives a value to, if any, and where it stands. -/
def Statement.target? : Statement → Option (Place × Text)
  | assign p n _ => some (p, n)
  | evaluate _ => none

abbrev Program := List Statement

def Program.targets (p : Program) : List Text :=
  p.filterMap fun s => s.target?.map Prod.snd

end Script

end CoreWar
