import CoreWar.Text.Characters
import CoreWar.Text.Glyph

/-!
# Suggestions

A name that is not known may be a misspelling of one that is: the known name is suggested that needs
the fewest changes, if they are fewer than half of the bytes. Case and underscores do not count.
-/

namespace CoreWar

namespace Script

variable [Characters]

/-- The next row of a table of edit distances, for one more byte `b` of the first text: `above` are
the distances that are left of the row before it, `corner` the one before those and `left` the one
before the next entry. -/
def distanceRow (b : UInt8) : Text → List Nat → Nat → Nat → List Nat
  | c :: cs, up :: above, corner, left =>
    let d := min (corner + if b = c then 0 else 1) (min (left + 1) (up + 1))
    d :: distanceRow b cs above up d
  | _, _, _, _ => []

/-- How many bytes have to be inserted, removed or replaced to make one text of another. -/
def editDistance (s t : Text) : Nat :=
  let first := List.range (t.length + 1)
  let last := s.foldl (fun row b =>
    match row with
    | corner :: above => (corner + 1) :: distanceRow b t above corner (corner + 1)
    | [] => []) first
  last.getLastD 0

/-- The text in small letters and without underscores. -/
def folded (t : Text) : Text :=
  let letters := ((Glyph.decode t).map Glyph.toChar).filter (· != '_')
  letters.flatMap fun c => String.utf8EncodeChar (smallLetter c)

/-- The first of the candidates that a name may be a misspelling of and that is nearest to it: fewer
than half of the bytes of the name have to be changed. -/
def nearest? (name : Text) (candidates : List Text) : Option Text :=
  let distance (c : Text) : Nat := editDistance (folded name) (folded c)
  let better (best : Option Text × Nat) (c : Text) : Option Text × Nat :=
    if distance c < best.2 then (some c, distance c) else best
  (candidates.foldl better (none, ((folded name).length + 1) / 2)).1

end Script

end CoreWar
