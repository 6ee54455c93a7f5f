import CoreWar.Script.Fault
import CoreWar.Script.Floating

/-!
# Comparison of values

Values of different types are unequal and have no order, integers and floating-point numbers apart,
which are compared by their numbers. Sequences are compared by their first difference. A comparison
does not look deeper into nested sequences than a limit, counted by its first argument.
-/

namespace CoreWar

namespace Script

inductive OrderOp where
  | lt
  | le
  | gt
  | ge
  deriving DecidableEq, Repr

namespace OrderOp

def spelling : OrderOp → Text
  | lt => "<"
  | le => "<="
  | gt => ">"
  | ge => ">="

/-- Whether a comparison holds between values in the given order. -/
def holds : OrderOp → Ordering → Bool
  | lt, o => o.isLT
  | le, o => o.isLE
  | gt, o => o.isGT
  | ge, o => o.isGE

end OrderOp

namespace Value

/-- How deep a comparison looks. -/
def comparisonDepth : Nat := 10

mutual

/-- Whether two values are equal. Sequences of different lengths are not looked into. -/
def equalsTo : Nat → Value → Value → Except EvalFault Bool
  | 0, _, _ => .error .tooDeep
  | _ + 1, none, none => .ok true
  | _ + 1, bool a, bool b => .ok (a == b)
  | _ + 1, int a, int b => .ok (a == b)
  | _ + 1, int a, float b => .ok (Floating.compareInt a b == .eq)
  | _ + 1, float a, int b => .ok (Floating.compareInt b a == .eq)
  | _ + 1, float a, float b => .ok (Floating.compare a b == .eq)
  | _ + 1, string a, string b => .ok (a == b)
  | depth + 1, list a, list b =>
    if a.length = b.length then equalsAllTo depth a b else .ok false
  | depth + 1, tuple a, tuple b =>
    if a.length = b.length then equalsAllTo depth a b else .ok false
  | _ + 1, builtin f, builtin g => .ok (f == g)
  | _ + 1, _, _ => .ok false

/-- Whether two sequences of the same length have equal values at equal places. -/
def equalsAllTo (depth : Nat) : List Value → List Value → Except EvalFault Bool
  | x :: xs, y :: ys => do
    if ← equalsTo depth x y then equalsAllTo depth xs ys else return false
  | _, _ => .ok true

end

mutual

/-- Whether a comparison holds between two values that have an order. -/
def orderedTo (op : OrderOp) : Nat → Value → Value → Except EvalFault Bool
  | 0, _, _ => .error .tooDeep
  | _ + 1, bool a, bool b => .ok (op.holds (Ord.compare a b))
  | _ + 1, int a, int b => .ok (op.holds (Ord.compare a b))
  | _ + 1, int a, float b => .ok (op.holds (Floating.compareInt a b))
  | _ + 1, float a, int b => .ok (op.holds (Floating.compareInt b a).swap)
  | _ + 1, float a, float b => .ok (op.holds (Floating.compare a b))
  | _ + 1, string a, string b => .ok (op.holds (Ord.compare a b))
  | depth + 1, list a, list b => orderedAllTo op depth a b
  | depth + 1, tuple a, tuple b => orderedAllTo op depth a b
  | _ + 1, x, y => .error (.unordered op.spelling x.typeName y.typeName)

/-- Whether a comparison holds between two sequences. -/
def orderedAllTo (op : OrderOp) (depth : Nat) :
    List Value → List Value → Except EvalFault Bool
  | x :: xs, y :: ys => do
    if ← equalsTo depth x y then orderedAllTo op depth xs ys else orderedTo op depth x y
  | xs, ys => .ok (op.holds (Ord.compare xs.length ys.length))

end

def equals (x y : Value) : Except EvalFault Bool :=
  equalsTo comparisonDepth x y

/-- Whether a comparison holds between two values that have an order. -/
def ordered (op : OrderOp) (x y : Value) : Except EvalFault Bool :=
  orderedTo op comparisonDepth x y

end Value

end Script

end CoreWar
