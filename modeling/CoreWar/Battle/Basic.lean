import CoreWar.Machine.Step
import CoreWar.Random.Pcg

/-!
# Battles

A battle is a machine on which two warriors fight, with the rules and the course of the match: how
many cycles it may last, how many are over, and how it has ended.
-/

namespace CoreWar

/-- The word that records whether a match goes on. -/
structure Status where
  code : Int64
  deriving DecidableEq, Repr

namespace Status

def running : Status := ⟨0⟩

def aborted : Status := ⟨1⟩

def drawn : Status := ⟨2⟩

/-- The name of a status, and the number of a word that is none. -/
def render (s : Status) : Text :=
  if s = running then "Running"
  else if s = aborted then "Aborted"
  else if s = drawn then "Drawn"
  else "Status(" ++ Text.ofInt s.code.toInt ++ ")"

end Status

/-- A snapshot of a match. -/
structure Snapshot where
  /-- The cycles that are over. -/
  cycle : Int64
  ip : Sides Int64
  status : Status
  /-- Why the match has stopped. -/
  reason : Reason
  /-- Who has made the match stop. -/
  blamed : Owner
  last : Sides Cell
  deriving DecidableEq, Repr

/-- The loser: whoever is blamed for a fault that has ended the match, and else nobody. -/
def Snapshot.loser (s : Snapshot) : Owner :=
  if s.status = .aborted ∧ s.reason.isFatal then s.blamed else .nobody

/-- The course of a match: everything about it but the machine. -/
structure Course where
  /-- Where each warrior has been loaded. -/
  origin : Sides Int64
  /-- The cycles that are over. -/
  cycle : Int64
  /-- The cycles after which a match is a draw. -/
  maxCycle : Int64
  status : Status
  /-- Why the match has stopped. -/
  reason : Reason
  /-- Who has made the match stop. -/
  blamed : Owner
  /-- The source of the random draws that place the warriors. -/
  generator : Pcg
  /-- Whether the match is to be logged. -/
  verbose : Bool
  /-- Whether the machine logs its steps, as of the last reset or cycle. -/
  traced : Bool
  deriving DecidableEq

/-- A match between two warriors. -/
structure Battle (size : CoreSize) extends Course where
  machine : Machine size
  deriving DecidableEq

namespace Battle

variable {size : CoreSize}

/-- The cycles after which a match is a draw, unless another number is given. -/
def defaultMaxCycle : Int64 := 80000

def blank (generator : Pcg) : Battle size where
  machine := .blank
  origin := .both 0
  cycle := 0
  maxCycle := defaultMaxCycle
  status := .running
  reason := .none
  blamed := .nobody
  generator := generator
  verbose := false
  traced := false

def reset (b : Battle size) : Battle size :=
  { b with
    machine := .blank
    origin := .both 0
    cycle := 0
    status := .running
    reason := .none
    blamed := .nobody
    traced := b.verbose }

def snapshot (b : Battle size) : Snapshot where
  cycle := b.cycle
  ip := b.machine.ip
  status := b.status
  reason := b.reason
  blamed := b.blamed
  last := b.machine.last

/-- How far the pointer of a player is from the start of the player's warrior. -/
def offset (b : Battle size) (p : Player) : Address size :=
  .wrap (b.machine.ip.get p - b.origin.get p)

/-- The names that a match defines for the sources of its warriors. -/
def defines (b : Battle size) : Defines :=
  Defines.concat [[("MAXCYCLE", Text.ofInt b.maxCycle.toInt)], b.machine.core.defines]

def resetLog (b : Battle size) : List Text :=
  if b.verbose then Machine.resetLog else []

end Battle

end CoreWar
