import CoreWar.Script.Call
import CoreWar.Script.Scope

/-!
# Evaluation

Terms are evaluated from left to right. `and` and `or` give one of their operands and do not
evaluate the second one if the first decides; a choice evaluates only the branch that it takes.

A sum adds one summand after the other, with one exception: neighbours that are all strings, all
lists or all tuples written down with their parts are put together first, and then they are added
as one summand. So `1 + [2] + [x]` asks for the value of `x` before it finds that an integer and a
list have no sum.
-/

namespace CoreWar

namespace Script

variable [Characters]

/-- The values of names: those of equates and universal names are fixed, and a variable has one
once a statement has given it one. -/
structure Environment where
  scope : Scope
  /-- The variables with their values, the latest first. -/
  assigned : List (Text × Value)

namespace Environment

def value (env : Environment) (n : Text) : Except EvalFault Value :=
  if env.scope.targets.contains n then
    match env.assigned.lookup n with
    | some v => .ok v
    | none => .error (.unassigned n)
  else
    match env.scope.equate? n with
    | some w => .ok (.int w.toInt)
    | none => .ok ((Value.universal? n).getD .none)

end Environment

/-- The values of the arguments of a call as they are written. -/
structure Given extends Arguments where
  elements? : Option Value
  entries? : Option Value

namespace Given

def none : Given := ⟨⟨[], []⟩, .none, .none⟩

/-- The arguments with the elements of a value among them. No value has entries. -/
def complete (g : Given) : Except EvalFault Arguments :=
  match g.entries?, g.elements? with
  | some v, _ => .error (.notNamed v.typeName)
  | .none, some (.list vs) => .ok { g.toArguments with positional := g.positional ++ vs }
  | .none, some (.tuple vs) => .ok { g.toArguments with positional := g.positional ++ vs }
  | .none, some v => .error (.notSpreadable v.typeName)
  | .none, .none => .ok g.toArguments

end Given

/-- A sum as far as it has been evaluated. -/
structure Subtotal where
  /-- The value of the summands in front of the last one, if there are any. -/
  front? : Option Value
  /-- The value of the last summand, or of neighbours at the end that are put together. -/
  last : Value
  /-- What the last summand writes down, if anything. -/
  display? : Option Display

namespace Subtotal

def total (t : Subtotal) : Except EvalFault Value :=
  match t.front? with
  | some v => Value.binary .add v t.last
  | none => .ok t.last

/-- Whether a summand is put together with the last one. -/
def joins (t : Subtotal) (x : Term) : Bool :=
  x.display?.isSome && t.display? == x.display?

/-- The sum with one more summand, which has the given value. -/
def plus (t : Subtotal) (x : Term) (value : Except EvalFault Value) : Except EvalFault Subtotal :=
  if t.joins x then return { t with last := ← Value.binary .add t.last (← value) }
  else return ⟨some (← t.total), ← value, x.display?⟩

end Subtotal

mutual

def Term.eval (env : Environment) : Term → Except EvalFault Value
  | .name _ n => env.value n
  | .literal v => .ok v
  | .unary op x => do Value.unary op (← x.eval env)
  | .binary op x y => do Value.binary op (← x.eval env) (← y.eval env)
  | .sum s => do (← s.eval env).total
  | .and x y => do
    let v ← x.eval env
    if v.truth then y.eval env else .ok v
  | .or x y => do
    let v ← x.eval env
    if v.truth then .ok v else y.eval env
  | .choice condition yes no => do
    let v ← condition.eval env
    if v.truth then yes.eval env else no.eval env
  | .list xs => return .list (← evalAll env xs)
  | .tuple xs => return .tuple (← evalAll env xs)
  | .index x i => do Value.index (← x.eval env) (← i.eval env)
  | .call _ f args => do
    let function ← f.eval env
    let given ← evalArguments env args
    Value.call function (← given.complete)
  | .member x n => do .error (.noMember (← x.eval env).typeName n)

def evalAll (env : Environment) : List Term → Except EvalFault (List Value)
  | [] => .ok []
  | x :: xs => return (← x.eval env) :: (← evalAll env xs)

/-- The arguments with one more in front, whose value is given by its term. -/
def Argument.eval (env : Environment) : Argument → Except EvalFault (Given → Given)
  | .positional _ x => do
    let v ← x.eval env
    return fun g => { g with positional := v :: g.positional }
  | .named _ n x => do
    let v ← x.eval env
    return fun g => { g with named := (n, v) :: g.named }
  | .elements _ x => do
    let v ← x.eval env
    return fun g => { g with elements? := some v }
  | .entries _ x => do
    let v ← x.eval env
    return fun g => { g with entries? := some v }

def evalArguments (env : Environment) : List Argument → Except EvalFault Given
  | [] => .ok .none
  | a :: args => return (← a.eval env) (← evalArguments env args)

def Summands.eval (env : Environment) : Summands → Except EvalFault Subtotal
  | .single x => return ⟨none, ← x.eval env, x.display?⟩
  | .plus s x => do (← s.eval env).plus x (x.eval env)

end

/-- The environment after a statement. -/
def Statement.run (env : Environment) : Statement → Except EvalFault Environment
  | .assign _ n x => return { env with assigned := (n, ← x.eval env) :: env.assigned }
  | .evaluate x => do
    let _ ← x.eval env
    return env

/-- The values that a program leaves in its variables, the latest first. -/
def Program.run (p : Program) (s : Scope) : Except EvalFault (List (Text × Value)) :=
  return (← p.foldlM Statement.run ⟨s, []⟩).assigned

end Script

end CoreWar
