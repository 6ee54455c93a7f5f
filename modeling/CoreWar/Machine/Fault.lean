import CoreWar.Text.Basic

/-!
# Faults and reasons

A player who cannot go on has committed a fault and loses. A match records why it stopped as a
reason, which is any machine word: one word for each fault, one for a draw and one for a match
that has not stopped.
-/

namespace CoreWar

/-- Why a player cannot go on. -/
inductive Fault where
  /-- An operand has an illegal mode. -/
  | illegalMode
  /-- The instruction holds data. -/
  | datExecuted
  /-- The opcode is illegal. -/
  | illegalOpcode
  deriving DecidableEq, Repr

/-- The word that records why a match stopped. -/
structure Reason where
  code : Int64
  deriving DecidableEq, Repr

namespace Reason

def none : Reason := ⟨0⟩

def draw : Reason := ⟨2⟩

/-- The reason of a match that a fault has decided. -/
def ofFault : Fault → Reason
  | .illegalMode => ⟨1⟩
  | .datExecuted => ⟨3⟩
  | .illegalOpcode => ⟨4⟩

/-- The fault behind a reason, if there is one. -/
def fault? (r : Reason) : Option Fault :=
  [.illegalMode, .datExecuted, .illegalOpcode].find? fun f => ofFault f == r

/-- Whether a player is to blame. -/
def isFatal (r : Reason) : Bool :=
  r.fault?.isSome

def faultMessage : Fault → Text
  | .illegalMode => "Illegal Mode"
  | .datExecuted => "DAT Executed"
  | .illegalOpcode => "Illegal Opcode"

def message (r : Reason) : Text :=
  match r.fault? with
  | some f => faultMessage f
  | Option.none =>
    if r = none then "No Message" else if r = draw then "Draw, No Winner" else "??"

end Reason

end CoreWar
