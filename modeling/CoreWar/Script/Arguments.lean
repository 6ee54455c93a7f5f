import CoreWar.Script.Fault
import CoreWar.Script.Suggestion

/-!
# Arguments

What a function is called with: values in order, and values by name. A function whose parameters
have names takes its arguments either way.
-/

namespace CoreWar

namespace Script

variable [Characters]

structure Arguments where
  positional : List Value
  named : List (Text × Value)

namespace Arguments

def ofList (vs : List Value) : Arguments := ⟨vs, []⟩

end Arguments

/-- The parameters of a function, of which the first ones have to be given. -/
structure Parameters where
  names : List Text
  required : Nat
  /-- The names that may be suggested for one that is not known. -/
  suggested : List Text

namespace Parameters

/-- The values of the parameters, as far as they are given, with one more given by name. -/
def setNamed (ps : Parameters) (slots : List (Option Value)) (entry : Text × Value) :
    Except ArgumentFault (List (Option Value)) :=
  match ps.names.findIdx? (· == entry.1) with
  | none => .error (.unexpectedName entry.1 (nearest? entry.1 ps.suggested))
  | some i =>
    match slots[i]? with
    | some (some _) => .error (.repeated entry.1)
    | _ => .ok (slots.set i (some entry.2))

/-- The first required parameter that is not given. -/
def missing? (ps : Parameters) (slots : List (Option Value)) : Option Text :=
  ((ps.names.zip slots).take ps.required).findSome? fun (name, slot) =>
    if slot.isSome then none else some name

/-- The values of the parameters, as far as they are given. -/
def bind (ps : Parameters) (args : Arguments) : Except ArgumentFault (List (Option Value)) := do
  let given := args.positional.length
  let most := ps.names.length
  if most < given then .error (.tooMany given most)
  else
    let slots := args.positional.map some ++ List.replicate (most - given) none
    let slots ← args.named.foldlM ps.setNamed slots
    match ps.missing? slots with
    | some name => .error (.missing name)
    | none => .ok slots

end Parameters

end Script

end CoreWar
