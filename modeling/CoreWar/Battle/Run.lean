import CoreWar.Battle.Basic

/-!
# The course of a match

In each cycle both players take a turn, A before B. A fault ends the match at once, and the cycle
that was not completed does not count; without a fault the match ends in a draw when its cycles are
used up.
-/

namespace CoreWar

namespace Battle

variable {size : CoreSize}

def isOver (b : Battle size) : Bool :=
  b.status != .running

def draw (b : Battle size) : Battle size :=
  { b with status := .drawn, reason := .draw }

def abort (b : Battle size) (p : Player) (f : Fault) : Battle size :=
  { b with status := .aborted, reason := .ofFault f, blamed := .ofPlayer p }

/-- The match that takes a course with a machine, which follows the verbosity of the match. -/
def withMachine (course : Course) (m : Machine size) : Battle size :=
  { course with machine := m, traced := course.verbose }

def countCycle (b : Battle size) : Battle size :=
  { b with cycle := b.cycle + 1 }

/-- The match after a cycle in which nobody has failed, and whether this was the last one. -/
def closeCycle (b : Battle size) : Battle size × Bool :=
  if b.maxCycle ≤ b.cycle + 1 then (b.countCycle.draw, true) else (b.countCycle, false)

/-- One cycle of the match, and whether the match is over then. A match that is over stays as it
is. -/
def playCycle (b : Battle size) : Battle size × Bool :=
  if b.isOver then (b, true)
  else if b.maxCycle ≤ b.cycle then (b.draw, true)
  else
    -- the machine is taken out of the match, so that nothing else holds its core
    let ⟨course, machine⟩ := b
    match machine.step .a with
    | (m, some f) => ((withMachine course m).abort .a f, true)
    | (m, none) =>
      match m.step .b with
      | (m, some f) => ((withMachine course m).abort .b f, true)
      | (m, none) => (withMachine course m).closeCycle

/-- The match after one cycle. -/
def tick (b : Battle size) : Battle size :=
  b.playCycle.1

/-! ### Whole matches -/

/-- The cycles that are left before the match is a draw. -/
def remaining (b : Battle size) : Nat :=
  (b.maxCycle.toInt - b.cycle.toInt).toNat

@[simp] theorem isOver_draw (b : Battle size) : b.draw.isOver = true := rfl

@[simp] theorem isOver_abort (b : Battle size) (p : Player) (f : Fault) :
    (b.abort p f).isOver = true := rfl

/-- The cycle counter of a match with a cycle left can be incremented without wrapping round. -/
theorem toInt_cycle_add_one {b : Battle size} (h : ¬b.maxCycle ≤ b.cycle) :
    (b.cycle + 1).toInt = b.cycle.toInt + 1 ∧ b.cycle.toInt < b.maxCycle.toInt := by
  have hlt : b.cycle.toInt < b.maxCycle.toInt := by
    simpa [Int64.le_iff_toInt_le] using h
  refine ⟨?_, hlt⟩
  have h₁ := Int64.le_toInt b.cycle
  have h₂ := Int64.toInt_lt b.maxCycle
  rw [Int64.toInt_add]
  apply Int.bmod_eq_of_le <;> simp <;> omega

/-- A completed cycle after which the match goes on leaves one cycle less. -/
theorem remaining_closeCycle_lt {b : Battle size} (h : ¬b.maxCycle ≤ b.cycle)
    (hgoesOn : b.closeCycle.2 = false) : b.closeCycle.1.remaining < b.remaining := by
  unfold closeCycle at hgoesOn ⊢
  split at hgoesOn
  · simp at hgoesOn
  · rename_i hnext
    obtain ⟨hsucc, hlt⟩ := toInt_cycle_add_one h
    simp only [remaining, countCycle, if_neg hnext, hsucc]
    omega

/-- A cycle after which the match goes on leaves one cycle less. -/
theorem remaining_playCycle_lt {b : Battle size} (h : b.playCycle.2 = false) :
    b.playCycle.1.remaining < b.remaining := by
  obtain ⟨course, machine⟩ := b
  unfold playCycle at h ⊢
  split at h
  · simp at h
  rename_i hover
  split at h
  · simp at h
  rename_i hcycle
  rw [if_neg hover, if_neg hcycle]
  dsimp only at h ⊢
  split at h
  · simp at h
  split at h
  · simp at h
  · exact remaining_closeCycle_lt (b := withMachine course _) hcycle h

/-- The match played to its end. -/
def run (b : Battle size) : Battle size :=
  match _h : b.playCycle with
  | (next, true) => next
  | (next, false) => next.run
termination_by b.remaining
decreasing_by
  have hlt := remaining_playCycle_lt (congrArg Prod.snd _h)
  rwa [_h] at hlt

/-! ### Logging -/

def abortLog (b : Battle size) (p : Player) (f : Fault) : Text :=
  "emulator: cycle " ++ Text.ofInt b.cycle.toInt ++ ": player " ++ (Owner.ofPlayer p).letter ++
    ": " ++ (Reason.ofFault f).message

def drawLog (b : Battle size) : Text :=
  "emulator: cycle " ++ Text.ofInt b.cycle.toInt ++ ": " ++ Reason.draw.message

def tickLog (b : Battle size) : List Text :=
  if !b.verbose || b.isOver then []
  else if b.maxCycle ≤ b.cycle then [b.drawLog]
  else
    b.machine.stepLog .a ++
      match b.machine.step .a with
      | (_, some f) => [b.abortLog .a f]
      | (m, none) =>
        m.stepLog .b ++
          match m.step .b with
          | (_, some f) => [b.abortLog .b f]
          | (m, none) =>
            let (next, ended) := (withMachine b.toCourse m).closeCycle
            if ended then [next.drawLog] else []

/-- Plays the match to its end and collects lines before each cycle and from it: the match at the
end, and the given lines with the collected ones in front, all in reverse. -/
def watch (before : Battle size → List Text) (b : Battle size) (lines : List Text) :
    Battle size × List Text :=
  let lines := (before b ++ b.tickLog).reverseAux lines
  match _h : b.playCycle with
  | (next, true) => (next, lines)
  | (next, false) => watch before next lines
termination_by b.remaining
decreasing_by
  have hlt := remaining_playCycle_lt (congrArg Prod.snd _h)
  rwa [_h] at hlt

def runLog (b : Battle size) : List Text :=
  if b.verbose then (b.watch (fun _ => []) []).2.reverse else []

end Battle

end CoreWar
