import CoreWar.Script.FloatText
import CoreWar.Script.Value
import CoreWar.Text.Quoted

/-!
# Values as text

Every value is shown as an expression that stands for it, and a string also as it is.
-/

namespace CoreWar

namespace Script

variable [Characters]

namespace Value

mutual

def display : Value → Text
  | none => "None"
  | bool b => if b then "True" else "False"
  | int i => Text.ofInt i
  | float x => Floating.render (.plain 'e') x
  | string t => t.quoted
  | list vs => "[" ++ displayAll vs ++ "]"
  | tuple [v] => "(" ++ v.display ++ ",)"
  | tuple vs => "(" ++ displayAll vs ++ ")"
  | builtin f => "<built-in function " ++ f.name ++ ">"

/-- The texts of several values, with commas between them. -/
def displayAll : List Value → Text
  | [] => []
  | [v] => v.display
  | v :: vs => v.display ++ ", " ++ displayAll vs

end

/-- The text of a value; a string is its own text. -/
def plain : Value → Text
  | string t => t
  | v => v.display

end Value

end Script

end CoreWar
