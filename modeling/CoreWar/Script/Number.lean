import CoreWar.Script.Fault
import CoreWar.Script.Floating
import CoreWar.Word

/-!
# Numbers among values

How values give the numbers that operations ask for.
-/

namespace CoreWar

namespace Script

namespace Value

/-- The floating-point number nearest to an integer, which must not be too large. -/
def toFloat (i : Int) : Except EvalFault Float :=
  if (Floating.ofInt i).isInf then .error .tooLargeForFloat else .ok (Floating.ofInt i)

def float? : Value → Option Float
  | int i => some (Floating.ofInt i)
  | float x => some x
  | _ => Option.none

/-- The integer of a number; a floating-point number is truncated. -/
def toInt : Value → Except EvalFault Int
  | int i => .ok i
  | float x =>
    match Floating.truncate? x with
    | some i => .ok i
    | Option.none => .error (if x.isNaN then .notANumber else .infinite)
  | v => .error (.notConvertible v.typeName)

/-- An integer that fits 32 bits. -/
def toInt32 : Value → Except EvalFault Int
  | int i => if (field? i).isSome then .ok i else .error (.wideInt i)
  | v => .error (.notInt v.typeName)

end Value

end Script

end CoreWar
