import Mathlib.Data.Nat.Init
import CoreWar.Proofs.Battle.Request

/-!
# A match as a flat alternation of turns

A match is played in cycles with a test of the cycles left before and after each of them. All that
comes to a single sequence of turns, A, B, A, B and so on: the match stops after the first turn with
a fault, or is a draw after two turns for each cycle that was left (`run_eq_alternation`).
-/

namespace CoreWar

variable {size : CoreSize}

section Turns

-- a turn is taken as a whole here, and must not be opened by unification
attribute [local irreducible] Machine.step

namespace Machine

/-- The player who takes turn `t`. -/
def mover (t : Nat) : Player :=
  if t % 2 = 0 then .a else .b

/-- The machine after `t` turns that the players take alternately, whether they fail or not. -/
def alternate (m : Machine size) : Nat → Machine size
  | 0 => m
  | t + 1 => ((m.alternate t).step (mover t)).1

/-- The fault of turn `t`, if there is one. -/
def faultAt (m : Machine size) (t : Nat) : Option Fault :=
  ((m.alternate t).step (mover t)).2

def afterBoth (m : Machine size) : Machine size :=
  ((m.step .a).1.step .b).1

/-- Turn `t` is the first one with a fault. -/
def FirstFault (m : Machine size) (t : Nat) (f : Fault) : Prop :=
  m.faultAt t = some f ∧ ∀ s < t, m.faultAt s = none

lemma alternate_succ (m : Machine size) (t : Nat) :
    m.alternate (t + 1) = ((m.alternate t).step (mover t)).1 := rfl

@[simp] lemma mover_add_two (t : Nat) : mover (t + 2) = mover t := by
  simp [mover]

lemma alternate_two (m : Machine size) : m.alternate 2 = m.afterBoth := rfl

lemma alternate_add_two (m : Machine size) (t : Nat) :
    m.alternate (t + 2) = m.afterBoth.alternate t := by
  induction t with
  | zero => rfl
  | succ t ih =>
    rw [alternate_succ, ih, mover_add_two, ← alternate_succ]

lemma faultAt_add_two (m : Machine size) (t : Nat) :
    m.faultAt (t + 2) = m.afterBoth.faultAt t := by
  rw [faultAt, alternate_add_two, mover_add_two, faultAt]

lemma FirstFault.of_add_two {m : Machine size} {t : Nat} {f : Fault}
    (h : m.FirstFault (t + 2) f) : m.afterBoth.FirstFault t f := by
  obtain ⟨hf, hnone⟩ := h
  refine ⟨by rw [← faultAt_add_two, hf], ?_⟩
  intro s hs
  rw [← faultAt_add_two]
  exact hnone (s + 2) (by omega)

end Machine

namespace Battle

/-! ### The cycles left -/

lemma remaining_pos_iff {b : Battle size} : 0 < b.remaining ↔ b.cycle < b.maxCycle := by
  rw [Int64.lt_iff_toInt_lt, remaining]
  omega

/-- The counter of a match with a cycle left can be incremented. -/
lemma toInt_cycle_succ {b : Battle size} (hleft : b.cycle < b.maxCycle) :
    (b.cycle + 1).toInt = b.cycle.toInt + 1 :=
  (toInt_cycle_add_one (Int64.not_le.mpr hleft)).1

/-- The match after a cycle without a fault that was not the last one. -/
def afterCycle (b : Battle size) : Battle size :=
  { b with machine := b.machine.afterBoth, cycle := b.cycle + 1, traced := b.verbose }

lemma cycle_afterCycle (b : Battle size) : b.afterCycle.cycle = b.cycle + 1 := rfl

lemma maxCycle_afterCycle (b : Battle size) : b.afterCycle.maxCycle = b.maxCycle := rfl

lemma machine_afterCycle (b : Battle size) :
    b.afterCycle.machine = b.machine.afterBoth := rfl

lemma remaining_afterCycle {b : Battle size} (hleft : b.cycle < b.maxCycle) :
    b.afterCycle.remaining + 1 = b.remaining := by
  have hlt := Int64.lt_iff_toInt_lt.mp hleft
  simp only [afterCycle, remaining, toInt_cycle_succ hleft]
  omega

/-! ### Cycles as turns -/

lemma tick_of_no_fault {b : Battle size} (hrun : b.status = .running)
    (hleft : b.cycle < b.maxCycle) (hnone : ∀ t < 2, b.machine.faultAt t = none) :
    b.tick = if b.maxCycle ≤ b.cycle + 1 then b.afterCycle.draw else b.afterCycle := by
  have ha : (b.machine.step .a).2 = none := hnone 0 (by decide)
  have hb : ((b.machine.step .a).1.step .b).2 = none := hnone 1 (by decide)
  rw [tick_of_completed hrun hleft ha hb]
  rfl

lemma tick_of_fault {b : Battle size} (hrun : b.status = .running)
    (hleft : b.cycle < b.maxCycle) {t : Nat} (ht : t < 2) {f : Fault}
    (h : b.machine.FirstFault t f) :
    b.tick = ({ b with machine := b.machine.alternate (t + 1), traced := b.verbose } :
      Battle size).abort (Machine.mover t) f := by
  obtain ⟨hf, hnone⟩ := h
  obtain rfl | rfl : t = 0 ∨ t = 1 := by omega
  · exact tick_of_fails (p := .a) ⟨hrun, hleft, by simp, hf⟩
  · exact tick_of_fails (p := .b) ⟨hrun, hleft, fun _ => hnone 0 (by decide), hf⟩

/-! ### Whole matches as turns -/

/-- The match stopped by a fault in turn `t`. -/
def stoppedAt (b : Battle size) (t : Nat) (f : Fault) : Battle size :=
  { b with
    machine := b.machine.alternate (t + 1)
    cycle := Int64.ofInt (b.cycle.toInt + (t / 2 : Nat))
    status := .aborted
    reason := .ofFault f
    blamed := .ofPlayer (Machine.mover t)
    traced := b.verbose }

/-- The match drawn after two turns for each cycle that was left. -/
def exhausted (b : Battle size) : Battle size :=
  { b with
    machine := b.machine.alternate (2 * b.remaining)
    cycle := b.maxCycle
    status := .drawn
    reason := .draw
    traced := b.verbose }

lemma stoppedAt_afterCycle {b : Battle size} (hleft : b.cycle < b.maxCycle) (t : Nat)
    (f : Fault) : b.afterCycle.stoppedAt t f = b.stoppedAt (t + 2) f := by
  have hcycle : b.cycle.toInt + 1 + (t / 2 : Nat) = b.cycle.toInt + ((t + 2) / 2 : Nat) := by
    omega
  simp only [stoppedAt, afterCycle, toInt_cycle_succ hleft, hcycle, Machine.mover_add_two,
    ← Machine.alternate_add_two]

lemma exhausted_afterCycle {b : Battle size} (hleft : b.cycle < b.maxCycle) :
    b.afterCycle.exhausted = b.exhausted := by
  have hturns : 2 * b.afterCycle.remaining + 2 = 2 * b.remaining := by
    rw [← remaining_afterCycle hleft]
    omega
  rw [exhausted, exhausted, ← hturns, Machine.alternate_add_two]
  rfl

/-- After a cycle without a fault that was not the last one, the match is played from there. -/
lemma run_eq_run_afterCycle {b : Battle size} (hrun : b.status = .running)
    (hmore : 1 < b.remaining) (hnone : ∀ t < 2, b.machine.faultAt t = none) :
    b.run = b.afterCycle.run := by
  have hleft : b.cycle < b.maxCycle := remaining_pos_iff.mp (by omega)
  have hrest := remaining_afterCycle hleft
  have hnext : b.afterCycle.cycle < b.afterCycle.maxCycle := remaining_pos_iff.mp (by omega)
  rw [cycle_afterCycle, maxCycle_afterCycle] at hnext
  rw [← run_tick, tick_of_no_fault hrun hleft hnone, if_neg (Int64.not_le.mpr hnext)]

lemma run_of_fault {b : Battle size} (hrun : b.status = .running)
    (hleft : b.cycle < b.maxCycle) {t : Nat} (ht : t < 2) {f : Fault}
    (h : b.machine.FirstFault t f) : b.run = b.stoppedAt t f := by
  have hcycle : t / 2 = 0 := by omega
  rw [← run_tick, tick_of_fault hrun hleft ht h, run_of_over (isOver_iff.mp (isOver_abort _ _ _))]
  simp [stoppedAt, abort, hcycle]

/-- The first fault of all turns that are left stops the match. -/
lemma run_of_firstFault {b : Battle size} (hrun : b.status = .running) {t : Nat} {f : Fault}
    (ht : t < 2 * b.remaining) (h : b.machine.FirstFault t f) : b.run = b.stoppedAt t f := by
  have hleft : b.cycle < b.maxCycle := remaining_pos_iff.mp (by omega)
  induction t using Nat.twoStepInduction generalizing b with
  | zero => exact run_of_fault hrun hleft (by decide) h
  | one => exact run_of_fault hrun hleft (by decide) h
  | more t ih _ =>
    have hmore : 1 < b.remaining := by omega
    have hrest := remaining_afterCycle hleft
    have hnone : ∀ s < 2, b.machine.faultAt s = none := fun s hs => h.2 s (by omega)
    rw [run_eq_run_afterCycle hrun hmore hnone, ← stoppedAt_afterCycle hleft]
    exact ih hrun (by omega) h.of_add_two (remaining_pos_iff.mp (by omega))

/-- A match without a fault in all turns that are left is a draw. -/
lemma run_of_no_fault {b : Battle size} (hrun : b.status = .running) {n : Nat}
    (hn : b.remaining = n + 1) (hnone : ∀ t < 2 * b.remaining, b.machine.faultAt t = none) :
    b.run = b.exhausted := by
  induction n generalizing b with
  | zero =>
    have hleft : b.cycle < b.maxCycle := remaining_pos_iff.mp (by omega)
    have hlast : b.cycle + 1 = b.maxCycle := by
      have hsucc := toInt_cycle_succ hleft
      rw [← Int64.toInt_inj]
      simp only [remaining] at hn
      omega
    have htick := tick_of_no_fault hrun hleft fun t ht => hnone t (by omega)
    rw [hlast, if_pos (Int64.le_refl _)] at htick
    rw [← run_tick, htick, run_of_over (isOver_iff.mp (isOver_draw _))]
    simp [exhausted, draw, afterCycle, hn, hlast, Machine.alternate_two]
  | succ n ih =>
    have hleft : b.cycle < b.maxCycle := remaining_pos_iff.mp (by omega)
    have hrest := remaining_afterCycle hleft
    rw [run_eq_run_afterCycle hrun (by omega) fun t ht => hnone t (by omega),
      ← exhausted_afterCycle hleft]
    apply ih (b := b.afterCycle) hrun (by omega)
    intro t ht
    rw [machine_afterCycle, ← Machine.faultAt_add_two]
    exact hnone (t + 2) (by omega)

lemma toInt_cycle_stoppedAt {b : Battle size} {t : Nat} (ht : t < 2 * b.remaining) (f : Fault) :
    (b.stoppedAt t f).cycle.toInt = b.cycle.toInt + (t / 2 : Nat) := by
  have hlow := Int64.le_toInt b.cycle
  have hlt := Int64.toInt_lt b.maxCycle
  simp only [remaining] at ht
  exact Int64.toInt_ofInt_of_le (by omega) (by omega)

end Battle

end Turns

namespace Battle

/-- A match is a flat alternation of turns. Played from any state in which it goes on, it is drawn
at once if no cycle is left, stops after the first turn with a fault, and is drawn if there is none
in two turns for each cycle left. It ends after finitely many cycles, never counts one too many for
a word, does not depend on where the playing starts, and stays as it is once it is over. -/
theorem run_eq_alternation (b : Battle size) (hrun : b.status = .running) :
    (b.maxCycle ≤ b.cycle → b.run = { b with status := .drawn, reason := .draw }) ∧
    (∀ t f, t < 2 * b.remaining → b.machine.FirstFault t f →
      b.run = b.stoppedAt t f ∧ b.run.cycle.toInt = b.cycle.toInt + (t / 2 : Nat)) ∧
    (b.cycle < b.maxCycle → (∀ t < 2 * b.remaining, b.machine.faultAt t = none) →
      b.run = b.exhausted) ∧
    (∃ n, (∀ k ≤ n, (tick^[k] b).status = .running) ∧ b.run = tick^[n + 1] b) ∧
    b.run.status ≠ .running ∧
    (∀ k, (tick^[k] b).cycle < (tick^[k] b).maxCycle →
      ((tick^[k] b).cycle + 1).toInt = (tick^[k] b).cycle.toInt + 1) ∧
    (∀ k, (tick^[k] b).run = b.run) ∧
    (∀ b' : Battle size, b'.status ≠ .running → ∀ rs : List (Request size),
      (∀ r ∈ rs, r = .tick ∨ r = .run) → b'.serveAll rs = b') := by
  refine ⟨?_, ?_, ?_, exists_run_eq_iterate hrun, status_run_ne_running b, ?_, run_iterate b, ?_⟩
  · intro hcap
    rw [← run_tick, tick_of_capped hrun hcap, run_of_over (isOver_iff.mp (isOver_draw b))]
    rfl
  · intro t f ht h
    rw [run_of_firstFault hrun ht h]
    exact ⟨rfl, toInt_cycle_stoppedAt ht f⟩
  · intro hleft hnone
    have hpos := remaining_pos_iff.mpr hleft
    exact run_of_no_fault hrun (Nat.succ_pred_eq_of_pos hpos).symm hnone
  · intro k hleft
    exact toInt_cycle_succ hleft
  · intro b' hover rs hrs
    exact serveAll_of_over hover rs hrs

/-- A fault of player B in the very last cycle stops the match before it is drawn. -/
theorem run_eq_alternation_last_cycle :
    let loop : Cell :=
      ⟨.ofOperation .jmp, ⟨.ofAddressing .relative, 0⟩, ⟨.ofAddressing .relative, 0⟩, .ofPlayer .a⟩
    let b : Battle ⟨2, by decide, by decide⟩ :=
      { (blank ⟨0⟩ : Battle ⟨2, by decide, by decide⟩) with
        machine := ⟨Core.blank.set 0 loop, ⟨0, 1⟩, .both .zero⟩
        maxCycle := 1 }
    b.status = .running ∧ b.run = b.stoppedAt 1 .datExecuted := by
  intro loop b
  have hfirst : b.machine.FirstFault 1 .datExecuted := ⟨by decide, by decide⟩
  exact ⟨rfl, ((run_eq_alternation b rfl).2.1 1 .datExecuted (by decide) hfirst).1⟩

end Battle

end CoreWar
