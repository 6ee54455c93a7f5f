/-!
# Words

The machine counts and addresses with signed words of 64 bits, and the fields of a cell are signed
words of 32 bits. Arithmetic on them wraps round; an integer from outside has to fit.
-/

namespace CoreWar

def word? (i : Int) : Option Int64 :=
  if Int64.minValue.toInt ≤ i ∧ i ≤ Int64.maxValue.toInt then some (Int64.ofInt i) else none

/-- The field of a cell for an integer that fits one. -/
def field? (i : Int) : Option Int32 :=
  if Int32.minValue.toInt ≤ i ∧ i ≤ Int32.maxValue.toInt then some (Int32.ofInt i) else none

end CoreWar
