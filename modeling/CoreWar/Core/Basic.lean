import CoreWar.Cell.Basic
import CoreWar.Core.Defines

/-!
# The core

The core is a ring of cells. Every machine word is an address: it is taken modulo the number of
cells, so the core has neither a first nor a last cell.
-/

namespace CoreWar

/-- A number of cells: at least one, and few enough for a machine word to count them. -/
structure CoreSize where
  count : Nat
  pos : 0 < count
  /-- The bound is two to the power of 63. -/
  lt : count < 0x8000000000000000

namespace CoreSize

/-- The size of a core with `n` cells, if there can be one. -/
def ofNat? (n : Nat) : Option CoreSize :=
  if h : 0 < n ∧ n < 0x8000000000000000 then some ⟨n, h.1, h.2⟩ else none

end CoreSize

/-- The place of a cell in a core of the given size. -/
abbrev Address (size : CoreSize) := Fin size.count

namespace Address

variable {size : CoreSize}

/-- The place that an integer stands for, modulo the number of cells. -/
def ofInt (i : Int) : Address size :=
  ⟨(i % size.count).toNat, by
    have hpos := size.pos
    have hlt := Int.emod_lt_of_pos i (b := size.count) (by omega)
    have hge := Int.emod_nonneg i (b := size.count) (by omega)
    omega⟩

/-- The place that a machine word stands for. -/
def wrap (w : Int64) : Address size :=
  ofInt w.toInt

def word (x : Address size) : Int64 :=
  Int64.ofNat x.val

/-- The place `n` cells further on. -/
def advance (x : Address size) (n : Nat) : Address size :=
  ⟨(x.val + n) % size.count, Nat.mod_lt _ size.pos⟩

end Address

/-- A core with as many cells as its size says. -/
structure Core (size : CoreSize) where
  cells : Vector Cell size.count
  deriving DecidableEq

namespace Core

variable {size : CoreSize}

/-- The core in which every cell has the same content. -/
def fill (c : Cell) : Core size :=
  ⟨Vector.replicate size.count c⟩

def blank : Core size := fill .empty

def get (core : Core size) (x : Address size) : Cell :=
  core.cells.get x

def set (core : Core size) (x : Address size) (c : Cell) : Core size :=
  ⟨core.cells.set x.val c x.isLt⟩

/-- The core with cells written one after the other from a place on. -/
def setFrom (core : Core size) (x : Address size) : List Cell → Core size
  | [] => core
  | c :: rest => (core.set x c).setFrom (x.advance 1) rest

/-- The owners of all cells in the order of their addresses. -/
def owners (core : Core size) : List Owner :=
  core.cells.toList.map Cell.owner

/-- The names that a core of this size defines for the sources of its warriors. -/
def defines (_ : Core size) : Defines :=
  [("CORESIZE", Text.ofNat size.count)]

end Core

end CoreWar
