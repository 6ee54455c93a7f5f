import CoreWar.Script.Arguments
import CoreWar.Script.Compare
import CoreWar.Script.Number
import CoreWar.Text.Numeral

/-!
# Calls and indices

What the functions of expressions return, and the elements of sequences.
-/

namespace CoreWar

namespace Script

variable [Characters]

namespace Value

/-! ### Indices -/

/-- The element of a sequence at an index, which counts from the end if it is negative. -/
def element (type : Text) (elements : List Value) (index : Value) : Except EvalFault Value := do
  let i ←
    match index.toInt32 with
    | .ok i => .ok i
    | .error f => .error (.within (type ++ " index") f)
  let place := if i < 0 then i + elements.length else i
  if elements.isEmpty then .error (.indexOfEmpty type i)
  else if place < 0 then .error (.indexOutOfRange type i elements.length)
  else
    match elements[place.toNat]? with
    | some v => .ok v
    | Option.none => .error (.indexOutOfRange type i elements.length)

def index (v i : Value) : Except EvalFault Value :=
  match v with
  | list vs => element v.typeName vs i
  | tuple vs => element v.typeName vs i
  | string t => element v.typeName (t.map fun b => string [b]) i
  | _ => .error (.notIndexable v.typeName i.typeName)

/-! ### Functions -/

/-- The best of a value and more values, where `op` says which of the keys of two is better. -/
def best (op : OrderOp) (name : Text) (key : Value → Except EvalFault Value) :
    Value → Value → List Value → Except EvalFault Value
  | v, _, [] => .ok v
  | v, keyOfV, w :: rest => do
    let keyOfW ← key w
    match ordered op keyOfW keyOfV with
    | .ok true => best op name key w keyOfW rest
    | .ok false => best op name key v keyOfV rest
    | .error f => .error (.within name f)

/-- The elements that are compared: those of a single argument, or else the arguments. -/
def candidates : List Value → Except EvalFault (List Value)
  | [list vs] => .ok vs
  | [tuple vs] => .ok vs
  | [v] => .error (.notIterable v.typeName)
  | args => .ok args

/-- The least or the greatest of the arguments, or of the elements of a single argument. -/
def extremum (name : Text) (op : OrderOp) (key : Value → Except EvalFault Value)
    (args : List Value) : Except EvalFault Value :=
  match candidates args with
  | .error f => .error (.within name f)
  | .ok [] => .error (.within name .emptySequence)
  | .ok (v :: rest) => do best op name key v (← key v) rest

/-- The number of elements of a sequence, or of bytes of a string. -/
def length : Value → Except EvalFault Value
  | string t => .ok (int t.length)
  | list vs => .ok (int vs.length)
  | tuple vs => .ok (int vs.length)
  | v => .error (.within Builtin.len.name (.noLength v.typeName))

def magnitude : Value → Except EvalFault Value
  | int i => .ok (int i.natAbs)
  | float x => .ok (float x.abs)
  | v => .error (.notNumber v.typeName)

/-- The base that a value gives: zero, or at least two and at most thirty-six. -/
def toBase (v : Value) : Except EvalFault Nat :=
  match v.toInt32 with
  | .error _ => .error (.baseNotInt v.typeName)
  | .ok i =>
    if i = 0 ∨ (2 ≤ i ∧ i ≤ 36) then .ok i.toNat else .error .baseOutOfRange

/-- The integer of a value: a numeral is read, a floating-point number truncated. -/
def convertToInt (v : Value) (base? : Option Value) : Except EvalFault Int :=
  match v, base? with
  | string t, base? => do
    let base ←
      match base? with
      | some b => b.toBase
      | Option.none => .ok 10
    match Numeral.integer? base t with
    | some i => .ok i
    | Option.none => .error (.invalidLiteral base t)
  | _, some _ => .error .baseOfNumber
  | bool b, Option.none => .ok (if b then 1 else 0)
  | v, Option.none => v.toInt

/-! ### Calls -/

def rejected (f : Builtin) (fault : ArgumentFault) : EvalFault :=
  .within f.name (.argument fault)

/-- The result of a function of one argument, which has no name. -/
def callOne (f : Builtin) (result : Value → Except EvalFault Value) (args : Arguments) :
    Except EvalFault Value :=
  if !args.named.isEmpty then .error (rejected f .unexpectedNames)
  else
    match args.positional with
    | [v] => result v
    | vs => .error (rejected f (.wrongCount vs.length 1))

/-- The parameters of the conversion to an integer. -/
def intParameters : Parameters := ⟨["x", "base"], 1, ["x"]⟩

def callInt (args : Arguments) : Except EvalFault Value :=
  match intParameters.bind args with
  | .error f => .error (rejected .int f)
  | .ok slots =>
    ((convertToInt ((slots.getD 0 .none).getD none) (slots.getD 1 .none)).map int).mapError
      (.within Builtin.int.name)

/-- What the least or the greatest argument is chosen by, beside the arguments. -/
def keyParameters : Parameters := ⟨["key"], 0, ["key"]⟩

/-- The function that is given as the key, if any. -/
def keyFunction? (named : List (Text × Value)) : Except ArgumentFault (Option Builtin) := do
  let slots ← keyParameters.bind ⟨[], named⟩
  match slots.getD 0 .none with
  | some (builtin g) => .ok (some g)
  | some v => .error (.notFunction "key" v.typeName)
  | Option.none => .ok .none

/-- The least or the greatest of the arguments, by the key that is given by name, if any. -/
def callExtremum (f : Builtin) (op : OrderOp) (apply : Builtin → Value → Except EvalFault Value)
    (args : Arguments) : Except EvalFault Value :=
  if args.positional.isEmpty then .error (.noArguments f.name)
  else
    match keyFunction? args.named with
    | .error fault => .error (rejected f fault)
    | .ok (some g) => extremum f.name op (apply g) args.positional
    | .ok Option.none => extremum f.name op .ok args.positional

/-- The result of a function, where `apply` is what functions give for a single argument. -/
def callWith (apply : Builtin → Value → Except EvalFault Value) (args : Arguments) :
    Builtin → Except EvalFault Value
  | .abs => callOne .abs magnitude args
  | .len => callOne .len length args
  | .int => callInt args
  | .min => callExtremum .min .lt apply args
  | .max => callExtremum .max .gt apply args

/-- The result of a function for a single argument. No key is given, so none is applied. -/
def applyBuiltin (f : Builtin) (v : Value) : Except EvalFault Value :=
  callWith (fun _ w => .ok w) (.ofList [v]) f

def call : Value → Arguments → Except EvalFault Value
  | builtin f, args => callWith applyBuiltin args f
  | v, _ => .error (.notCallable v.typeName)

end Value

end Script

end CoreWar
