import CoreWar.Text.Decimal

/-!
# Values of expressions

An expression may pass through values of several types, though only an integer can be its result.
Integers are unbounded.
-/

namespace CoreWar

namespace Script

inductive Builtin where
  | abs
  | min
  | max
  | len
  | int
  deriving DecidableEq, Repr

namespace Builtin

def all : List Builtin :=
  [abs, min, max, len, int]

def name : Builtin → Text
  | abs => "abs"
  | min => "min"
  | max => "max"
  | len => "len"
  | int => "int"

end Builtin

inductive Value where
  | none
  | bool (b : Bool)
  | int (i : Int)
  | float (x : Float)
  | string (t : Text)
  | list (vs : List Value)
  | tuple (vs : List Value)
  | builtin (f : Builtin)
  deriving Inhabited

namespace Value

def typeName : Value → Text
  | none => "NoneType"
  | bool _ => "bool"
  | int _ => "int"
  | float _ => "float"
  | string _ => "string"
  | list _ => "list"
  | tuple _ => "tuple"
  | builtin _ => "builtin_function_or_method"

/-- Whether a value counts as true: all do but zeros, `False`, `None` and what is empty. -/
def truth : Value → Bool
  | none => false
  | bool b => b
  | int i => i != 0
  | float x => x != 0
  | string t => !t.isEmpty
  | list vs => !vs.isEmpty
  | tuple vs => !vs.isEmpty
  | builtin _ => true

/-- The value that a name stands for in every expression. -/
def universal? (name : Text) : Option Value :=
  if name = ("True" : Text) then some (bool true)
  else if name = ("False" : Text) then some (bool false)
  else if name = ("None" : Text) then some none
  else (Builtin.all.find? fun f => f.name == name).map builtin

end Value

end Script

end CoreWar
