import CoreWar.Core.Basic
import CoreWar.Report.Delivery
import CoreWar.Text.Message

/-!
# The core map

The map shows who wrote each cell last, one letter a cell, in rows that start with the address of
their first cell.
-/

namespace CoreWar

namespace CoreMap

/-- The cells in a row, unless another number is given. -/
def defaultWidth : Nat := 80

/-- The cells in a row for a requested width: a width that is not positive asks for the default. -/
def rowWidth (width : Int64) : Nat :=
  if width ≤ 0 then defaultWidth else width.toNatClampNeg

def header : Text := Message.format "Core Map:\n" []

/-- What a row starts with: the address of its first cell. -/
def rowStart (address : Nat) : Text :=
  Text.padLeft 5 (Text.ofNat address) ++ ":"

/-- A map that is being written: its receiver, and the parts of the row that has not been offered
yet, the last of them first. -/
structure Writing where
  receiver : Receiver
  parts : List Text

namespace Writing

/-- The row that has not been offered yet. -/
def row (w : Writing) : Text :=
  w.parts.reverse.flatten

def append (w : Writing) (t : Text) : Writing :=
  { w with parts := t :: w.parts }

/-- Offers the row, unless it is empty, and says whether to go on. -/
def flush (w : Writing) : Writing × Bool :=
  if w.row.isEmpty then (w, true)
  else
    let (receiver, accepted) := w.receiver.offer (w.row ++ "\n")
    (⟨receiver, []⟩, accepted)

/-- Writes the letters of owners for the cells from an address on, `width` in a row, and says
whether everything was accepted. A row is offered when the first cell of the next one comes up, and
the last one at the end. -/
def write (width : Nat) (w : Writing) (address : Nat) : List Owner → Receiver × Bool
  | [] =>
    let (w, accepted) := w.flush
    (w.receiver, accepted)
  | o :: owners =>
    if address % width = 0 then
      match w.flush with
      | (w, false) => (w.receiver, false)
      | (w, true) =>
        write width ((w.append (rowStart address)).append o.letter) (address + 1) owners
    else write width (w.append o.letter) (address + 1) owners

end Writing

end CoreMap

/-- Writes the map of a core to a receiver, and says whether everything was accepted. -/
def Core.writeMap {size : CoreSize} (core : Core size) (width : Int64) (r : Receiver) :
    Receiver × Bool :=
  match r.offer CoreMap.header with
  | (r, false) => (r, false)
  | (r, true) => CoreMap.Writing.write (CoreMap.rowWidth width) ⟨r, []⟩ 0 core.owners

def Core.map {size : CoreSize} (core : Core size) (width : Int64) : List Text :=
  (core.writeMap width (.new none)).1.chunks

end CoreWar
