import CoreWar.Script.Bits
import CoreWar.Script.Compare
import CoreWar.Script.Pattern

/-!
# Operations on values

The unary and binary operations of expressions. A division of integers is floored, its remainder
has the sign of the divisor, and a true division gives a floating-point number; the bits of
integers are those of two's complement. A string on the left of a percent sign is a pattern.
-/

namespace CoreWar

namespace Script

variable [Characters]

inductive UnaryOp where
  | plus
  | minus
  | invert
  | not
  deriving DecidableEq, Repr

def UnaryOp.spelling : UnaryOp → Text
  | plus => "+"
  | minus => "-"
  | invert => "~"
  | not => "not"

/-- The binary operations that evaluate both sides. -/
inductive BinaryOp where
  | add
  | sub
  | mul
  | div
  | floorDiv
  | mod
  | bitAnd
  | bitOr
  | bitXor
  | shiftLeft
  | shiftRight
  | eq
  | ne
  | order (op : OrderOp)
  | isIn
  | isNotIn
  deriving DecidableEq, Repr

def BinaryOp.spelling : BinaryOp → Text
  | add => "+"
  | sub => "-"
  | mul => "*"
  | div => "/"
  | floorDiv => "//"
  | mod => "%"
  | bitAnd => "&"
  | bitOr => "|"
  | bitXor => "^"
  | shiftLeft => "<<"
  | shiftRight => ">>"
  | eq => "=="
  | ne => "!="
  | order op => op.spelling
  | isIn => "in"
  | isNotIn => "not in"

namespace Value

def unary : UnaryOp → Value → Except EvalFault Value
  | .not, v => .ok (bool !v.truth)
  | .plus, int i => .ok (int i)
  | .minus, int i => .ok (int (-i))
  | .invert, int i => .ok (int (Bits.not i))
  | .plus, float x => .ok (float x)
  | .minus, float x => .ok (float (-x))
  | op, v => .error (.unknownUnary op.spelling v.typeName)

/-- The fault of an operation that the types of its operands do not have. -/
def unknown (op : BinaryOp) (x y : Value) : Except EvalFault Value :=
  .error (.unknownBinary op.spelling x.typeName y.typeName)

/-- A sequence as often as a count says, which must not be excessive. -/
def repeated {α : Type} (xs : List α) (count : Int) : Except EvalFault (List α) :=
  if xs.isEmpty then .ok []
  else if (field? count).isNone then .error (.wideRepeat count)
  else if count < 1 then .ok []
  else if 0x40000000 ≤ xs.length * count then .error (.excessiveRepeat xs.length count)
  else .ok (List.replicate count.toNat xs).flatten

def integers (op : BinaryOp) (i j : Int) : Except EvalFault Value :=
  match op with
  | .add => .ok (int (i + j))
  | .sub => .ok (int (i - j))
  | .mul => .ok (int (i * j))
  | .floorDiv => if j = 0 then .error .flooredDivisionByZero else .ok (int (i.fdiv j))
  | .mod => if j = 0 then .error .moduloByZero else .ok (int (i.fmod j))
  | .bitAnd => .ok (int (Bits.and i j))
  | .bitOr => .ok (int (Bits.or i j))
  | .bitXor => .ok (int (Bits.xor i j))
  | _ => unknown op (int i) (int j)

def floats (op : BinaryOp) (x y : Float) : Except EvalFault Value :=
  match op with
  | .add => .ok (float (x + y))
  | .sub => .ok (float (x - y))
  | .mul => .ok (float (x * y))
  | .div => if y == 0 then .error .divisionByZero else .ok (float (x / y))
  | .floorDiv => if y == 0 then .error .flooredDivisionByZero else .ok (float (x / y).floor)
  | .mod => if y == 0 then .error .floatModuloByZero else .ok (float (Floating.modulo x y))
  | _ => unknown op (float x) (float y)

/-- Whether an operation is arithmetic, so that it applies to floating-point numbers. -/
def isArithmetic : BinaryOp → Bool
  | .add | .sub | .mul | .div | .floorDiv | .mod => true
  | _ => false

def shift (op : BinaryOp) (i : Int) (count : Value) : Except EvalFault Value := do
  let n ← count.toInt32
  if n < 0 then .error (.negativeShift n)
  else if op = .shiftRight then .ok (int (Bits.shiftRight i n.toNat))
  else if 512 ≤ n then .error (.excessiveShift n)
  else .ok (int (Bits.shiftLeft i n.toNat))

/-- An operation with at least one floating-point number. -/
def mixed (op : BinaryOp) (x y : Value) : Except EvalFault Value :=
  if !isArithmetic op then unknown op x y
  else
    match x, y with
    | int i, float b => do floats op (← toFloat i) b
    | float a, int j => do floats op a (← toFloat j)
    | float a, float b => floats op a b
    | _, _ => unknown op x y

/-- A true division. An integer on the left is made a floating-point number before anything else is
looked at. -/
def divide : Value → Value → Except EvalFault Value
  | int i, int j => do floats .div (← toFloat i) (← toFloat j)
  | int i, y => do
    let _ ← toFloat i
    mixed .div (int i) y
  | x, y => mixed .div x y

/-! ### Membership -/

def isPart (part : Text) : Text → Bool
  | [] => part.isEmpty
  | b :: rest => part.isPrefixOf (b :: rest) || isPart part rest

def isAmong (x : Value) : List Value → Except EvalFault Bool
  | [] => .ok false
  | v :: vs => do if ← equals v x then return true else isAmong x vs

/-- Whether a value is an element of a sequence, or a string a part of another one. -/
def isMember (x : Value) : Value → Except EvalFault Bool
  | list vs => isAmong x vs
  | tuple vs => isAmong x vs
  | string t =>
    match x with
    | string part => .ok (isPart part t)
    | _ => .error (.notPartOfString x.typeName)
  | y => .error (.unknownBinary BinaryOp.isIn.spelling x.typeName y.typeName)

/-! ### Operations -/

def binary : BinaryOp → Value → Value → Except EvalFault Value
  | .eq, x, y => return bool (← equals x y)
  | .ne, x, y => return bool !(← equals x y)
  | .order op, x, y => return bool (← ordered op x y)
  | .isIn, x, y => return bool (← isMember x y)
  | .isNotIn, x, y => return bool !(← isMember x y)
  | .shiftLeft, int i, y => shift .shiftLeft i y
  | .shiftRight, int i, y => shift .shiftRight i y
  | .add, string s, string t => .ok (string (s ++ t))
  | .add, list xs, list ys => .ok (list (xs ++ ys))
  | .add, tuple xs, tuple ys => .ok (tuple (xs ++ ys))
  | .mul, string s, int n => return string (← repeated s n)
  | .mul, int n, string s => return string (← repeated s n)
  | .mul, list xs, int n => return list (← repeated xs n)
  | .mul, int n, list xs => return list (← repeated xs n)
  | .mul, tuple xs, int n => return tuple (← repeated xs n)
  | .mul, int n, tuple xs => return tuple (← repeated xs n)
  | .mod, string s, y => return string (← Pattern.fill s y)
  | .div, x, y => divide x y
  | op, int i, int j => integers op i j
  | op, x, y => mixed op x y

end Value

end Script

end CoreWar
