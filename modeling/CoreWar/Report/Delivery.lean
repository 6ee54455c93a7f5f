import CoreWar.Text.Basic

/-!
# Delivery

A report is written in chunks, and a receiver may accept a limited number of them and refuse every
later one. Whoever writes a report stops at the first chunk that is refused.
-/

namespace CoreWar

/-- A receiver of chunks. -/
structure Receiver where
  /-- How many more chunks are accepted, unless it is any number. -/
  room : Option Nat
  /-- The chunks that have been accepted, the last of them first. -/
  taken : List Text
  deriving DecidableEq, Repr

namespace Receiver

def new (room : Option Nat) : Receiver := ⟨room, []⟩

def chunks (r : Receiver) : List Text :=
  r.taken.reverse

/-- The receiver after a chunk was offered to it, and whether the chunk was accepted. -/
def offer (r : Receiver) (chunk : Text) : Receiver × Bool :=
  match r.room with
  | some 0 => (r, false)
  | some (room + 1) => (⟨some room, chunk :: r.taken⟩, true)
  | none => (⟨none, chunk :: r.taken⟩, true)

end Receiver

/-- What has become of a report. -/
structure Delivery where
  /-- The accepted chunks as one text. -/
  accepted : Text
  /-- Whether every chunk was accepted. -/
  complete : Bool
  deriving DecidableEq, Repr

namespace Delivery

def after (chunk : Text) (d : Delivery) : Delivery :=
  { d with accepted := chunk ++ d.accepted }

/-- Delivers chunks to a receiver that accepts `limit` of them, or all if there is no limit. -/
def deliver : Option Nat → List Text → Delivery
  | _, [] => ⟨[], true⟩
  | some 0, _ :: _ => ⟨[], false⟩
  | some (limit + 1), chunk :: rest => (deliver (some limit) rest).after chunk
  | none, chunk :: rest => (deliver none rest).after chunk

end Delivery

end CoreWar
