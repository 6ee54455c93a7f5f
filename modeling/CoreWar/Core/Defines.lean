import CoreWar.Text.Basic

/-!
# Defines

The parts of a match each contribute names and values that a source may use. They are handed on as
one sequence.
-/

namespace CoreWar

/-- Names and their values, in order. -/
abbrev Defines := List (Text × Text)

namespace Defines

/-- Every entry of each sequence in turn. -/
def concat {α : Type} (parts : List (List α)) : List α :=
  parts.flatten

end Defines

end CoreWar
