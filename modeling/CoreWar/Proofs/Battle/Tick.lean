import Mathlib.Logic.Function.Iterate
import CoreWar.Battle.Run
import CoreWar.Proofs.Machine.Step

/-!
# Cycles and whole matches

`Ticked b b'` lists what a cycle can make of a match, with all that is known in each case, and
`ticked_tick` says that there is nothing else. What a cycle answers is whether the match is over
(`snd_playCycle`). A match is played by cycles until it is over (`exists_run_eq_iterate`), and where
the playing starts on the way does not matter (`run_iterate`).
-/

namespace CoreWar

-- a turn is taken as a whole here, and must not be opened by unification
attribute [local irreducible] Machine.step

variable {size : CoreSize}

/-- The machine at the moment of a cycle when a player moves. -/
def Machine.atTurnOf (m : Machine size) : Player → Machine size
  | .a => m
  | .b => (m.step .a).1

/-- What every turn keeps of a machine holds when a player moves. -/
lemma Machine.atTurnOf_induction {P : Machine size → Prop} (hstep : ∀ m p, P m → P (m.step p).1)
    {m : Machine size} (h : P m) (p : Player) : P (m.atTurnOf p) := by
  cases p with
  | a => exact h
  | b => exact hstep m .a h

namespace Battle

lemma isOver_eq_false_iff {b : Battle size} : b.isOver = false ↔ b.status = .running := by
  simp [isOver]

lemma isOver_iff {b : Battle size} : b.isOver = true ↔ b.status ≠ .running := by
  simp [isOver]

lemma not_isOver_of_running {b : Battle size} (hrun : b.status = .running) : ¬b.isOver = true :=
  fun hover => isOver_iff.mp hover hrun

/-! ### Cycles -/

/-- The next cycle of the match is ended by a fault of player `p`. -/
structure Fails (b : Battle size) (p : Player) (f : Fault) : Prop where
  running : b.status = .running
  left : b.cycle < b.maxCycle
  earlier : p = .b → (b.machine.step .a).2 = none
  fault : ((b.machine.atTurnOf p).step p).2 = some f

/-- The match after a cycle in which nobody has failed: a draw if it was the last one. -/
def completeCycle (b : Battle size) : Battle size :=
  if b.maxCycle ≤ b.cycle + 1 then b.countCycle.draw else b.countCycle

lemma closeCycle_eq {b : Battle size} (hrun : b.status = .running) :
    b.closeCycle = (b.completeCycle, b.completeCycle.isOver) := by
  unfold closeCycle completeCycle
  split_ifs
  · rfl
  · have hgoesOn : b.countCycle.isOver = false := isOver_eq_false_iff.mpr hrun
    rw [hgoesOn]

/-- What a cycle can make of a match. -/
inductive Ticked (b : Battle size) : Battle size → Prop where
  | ended (hover : b.status ≠ .running) : Ticked b b
  | capped (hrun : b.status = .running) (hcap : b.maxCycle ≤ b.cycle) : Ticked b b.draw
  | aborted {p : Player} {f : Fault} (h : b.Fails p f) :
      Ticked b ((withMachine b.toCourse ((b.machine.atTurnOf p).step p).1).abort p f)
  | completed (hrun : b.status = .running) (hleft : b.cycle < b.maxCycle)
      (ha : (b.machine.step .a).2 = none) (hb : ((b.machine.step .a).1.step .b).2 = none) :
      Ticked b (withMachine b.toCourse ((b.machine.step .a).1.step .b).1).completeCycle

lemma tick_of_over {b : Battle size} (h : b.status ≠ .running) : b.tick = b := by
  rw [tick, playCycle, if_pos (isOver_iff.mpr h)]

lemma tick_of_capped {b : Battle size} (hrun : b.status = .running)
    (hcap : b.maxCycle ≤ b.cycle) : b.tick = b.draw := by
  rw [tick, playCycle, if_neg (not_isOver_of_running hrun), if_pos hcap]

/-- A cycle of a match that has one left: the match and the answer, by the turns of both players. -/
lemma playCycle_of_left {b : Battle size} (hrun : b.status = .running)
    (hleft : b.cycle < b.maxCycle) :
    b.playCycle =
      match b.machine.step .a with
      | (m, some f) => ((withMachine b.toCourse m).abort .a f, true)
      | (m, none) =>
        match m.step .b with
        | (m, some f) => ((withMachine b.toCourse m).abort .b f, true)
        | (m, none) => (withMachine b.toCourse m).closeCycle := by
  rw [playCycle, if_neg (not_isOver_of_running hrun)]
  exact if_neg (Int64.not_le.mpr hleft)

lemma tick_of_left {b : Battle size} (hrun : b.status = .running)
    (hleft : b.cycle < b.maxCycle) :
    b.tick =
      match b.machine.step .a with
      | (m, some f) => (withMachine b.toCourse m).abort .a f
      | (m, none) =>
        match m.step .b with
        | (m, some f) => (withMachine b.toCourse m).abort .b f
        | (m, none) => (withMachine b.toCourse m).completeCycle := by
  rw [tick, playCycle_of_left hrun hleft]
  rcases b.machine.step .a with ⟨m, _ | f⟩
  · rcases hstep : m.step .b with ⟨m', _ | f⟩
    · simp only [hstep, closeCycle_eq (b := withMachine b.toCourse m') hrun]
    · simp only [hstep]
  · rfl

/-- What a cycle answers is whether the match is over. -/
lemma snd_playCycle (b : Battle size) : b.playCycle.2 = b.tick.isOver := by
  by_cases hrun : b.status = .running
  · by_cases hcap : b.maxCycle ≤ b.cycle
    · rw [tick, playCycle, if_neg (not_isOver_of_running hrun), if_pos hcap]
      rfl
    · rw [tick, playCycle_of_left hrun (Int64.not_le.mp hcap)]
      rcases b.machine.step .a with ⟨m, _ | f⟩
      · rcases hstep : m.step .b with ⟨m', _ | f⟩
        · simp only [hstep, closeCycle_eq (b := withMachine b.toCourse m') hrun]
        · simp only [hstep, isOver_abort]
      · rfl
  · rw [tick, playCycle, if_pos (isOver_iff.mpr hrun)]
    exact (isOver_iff.mpr hrun).symm

lemma tick_of_playCycle {b next : Battle size} {ended : Bool} (h : b.playCycle = (next, ended)) :
    next = b.tick ∧ b.tick.isOver = ended := by
  rw [← snd_playCycle, tick, h]
  exact ⟨rfl, rfl⟩

lemma tick_of_fails {b : Battle size} {p : Player} {f : Fault} (h : b.Fails p f) :
    b.tick = (withMachine b.toCourse ((b.machine.atTurnOf p).step p).1).abort p f := by
  obtain ⟨hrun, hleft, hearlier, hfault⟩ := h
  rw [tick_of_left hrun hleft]
  cases p with
  | a =>
    rcases hstep : b.machine.step .a with ⟨m, _ | g⟩
    · simp [Machine.atTurnOf, hstep] at hfault
    · simp only [Machine.atTurnOf, hstep, Option.some.injEq] at hfault ⊢
      rw [hfault]
  | b =>
    have ha := hearlier rfl
    simp only [Machine.atTurnOf] at hfault ⊢
    rcases hstep : b.machine.step .a with ⟨m, _ | g⟩
    · rcases hstep' : m.step .b with ⟨m', _ | g⟩
      · simp [hstep, hstep'] at hfault
      · simp only [hstep, hstep', Option.some.injEq] at hfault ⊢
        rw [hfault]
    · simp [hstep] at ha

lemma tick_of_completed {b : Battle size} (hrun : b.status = .running)
    (hleft : b.cycle < b.maxCycle) (ha : (b.machine.step .a).2 = none)
    (hb : ((b.machine.step .a).1.step .b).2 = none) :
    b.tick = (withMachine b.toCourse ((b.machine.step .a).1.step .b).1).completeCycle := by
  rw [tick_of_left hrun hleft]
  rcases hstep : b.machine.step .a with ⟨m, _ | f⟩
  · rcases hstep' : m.step .b with ⟨m', _ | f⟩
    · simp only [hstep']
    · simp [hstep, hstep'] at hb
  · simp [hstep] at ha

/-- Every cycle is one of those listed. -/
lemma ticked_tick (b : Battle size) : Ticked b b.tick := by
  by_cases hrun : b.status = .running
  · by_cases hcap : b.maxCycle ≤ b.cycle
    · rw [tick_of_capped hrun hcap]
      exact .capped hrun hcap
    · have hleft : b.cycle < b.maxCycle := Int64.not_le.mp hcap
      cases ha : (b.machine.step .a).2 with
      | some f =>
        have h : b.Fails .a f := ⟨hrun, hleft, by simp, ha⟩
        rw [tick_of_fails h]
        exact .aborted h
      | none =>
        cases hb : ((b.machine.step .a).1.step .b).2 with
        | some f =>
          have h : b.Fails .b f := ⟨hrun, hleft, fun _ => ha, hb⟩
          rw [tick_of_fails h]
          exact .aborted h
        | none =>
          rw [tick_of_completed hrun hleft ha hb]
          exact .completed hrun hleft ha hb
  · rw [tick_of_over hrun]
    exact .ended hrun

lemma completeCycle_parts (b : Battle size) :
    b.completeCycle.machine = b.machine ∧ b.completeCycle.cycle = b.cycle + 1 ∧
      b.completeCycle.origin = b.origin := by
  unfold completeCycle
  split_ifs <;> exact ⟨rfl, rfl, rfl⟩

lemma Ticked.maxCycle_eq {b b' : Battle size} (h : Ticked b b') : b'.maxCycle = b.maxCycle := by
  cases h with
  | ended | capped | aborted => rfl
  | completed =>
    unfold completeCycle
    split_ifs <;> rfl

lemma Ticked.origin_eq {b b' : Battle size} (h : Ticked b b') : b'.origin = b.origin := by
  cases h with
  | ended | capped | aborted => rfl
  | completed => exact (completeCycle_parts _).2.2

lemma origin_iterate_tick (b : Battle size) (k : Nat) : (tick^[k] b).origin = b.origin := by
  induction k generalizing b with
  | zero => rfl
  | succ k ih => rw [Function.iterate_succ_apply, ih, (ticked_tick b).origin_eq]

/-- What every turn keeps of a machine, every cycle keeps. -/
lemma Ticked.machine_induction {P : Machine size → Prop} (hstep : ∀ m p, P m → P (m.step p).1)
    {b b' : Battle size} (h : Ticked b b') (hb : P b.machine) : P b'.machine := by
  cases h with
  | ended | capped => exact hb
  | aborted => exact hstep _ _ (Machine.atTurnOf_induction hstep hb _)
  | completed =>
    have hboth := hstep _ .b (hstep _ .a hb)
    unfold completeCycle
    split_ifs
    · exact hboth
    · exact hboth

/-! ### Whole matches -/

lemma run_eq (b : Battle size) : b.run = if b.tick.isOver then b.tick else b.tick.run := by
  rw [run]
  split
  · rename_i next h
    obtain ⟨rfl, hover⟩ := tick_of_playCycle h
    rw [if_pos hover]
  · rename_i next h
    obtain ⟨rfl, hover⟩ := tick_of_playCycle h
    rw [if_neg (by rw [hover]; exact Bool.false_ne_true)]

lemma run_of_over {b : Battle size} (h : b.status ≠ .running) : b.run = b := by
  have htick := tick_of_over h
  rw [run_eq, if_pos (by rw [htick, isOver_iff]; exact h), htick]

/-- A match played after a cycle ends as the match itself does. -/
lemma run_tick (b : Battle size) : b.tick.run = b.run := by
  rw [run_eq b]
  split_ifs with h
  · exact run_of_over (isOver_iff.mp h)
  · rfl

lemma run_iterate (b : Battle size) (k : Nat) : (tick^[k] b).run = b.run := by
  induction k generalizing b with
  | zero => rfl
  | succ k ih => rw [Function.iterate_succ_apply, ih, run_tick]

/-- What every cycle keeps, a whole match keeps. -/
lemma run_induction {P : Battle size → Prop} (htick : ∀ b, P b → P b.tick) {b : Battle size}
    (h : P b) : P b.run := by
  fun_induction run b with
  | case1 b next hnext =>
    obtain ⟨rfl, -⟩ := tick_of_playCycle hnext
    exact htick b h
  | case2 b next hnext ih =>
    obtain ⟨rfl, -⟩ := tick_of_playCycle hnext
    exact ih (htick b h)

lemma status_run_ne_running (b : Battle size) : b.run.status ≠ .running := by
  fun_induction run b with
  | case1 b next hnext =>
    obtain ⟨rfl, hover⟩ := tick_of_playCycle hnext
    exact isOver_iff.mp hover
  | case2 b next hnext ih => exact ih

/-- A match goes on for a number of cycles and is over after one more. -/
lemma exists_run_eq_iterate {b : Battle size} (hrun : b.status = .running) :
    ∃ n, (∀ k ≤ n, (tick^[k] b).status = .running) ∧ b.run = tick^[n + 1] b := by
  fun_induction run b with
  | case1 b next hnext =>
    obtain ⟨rfl, -⟩ := tick_of_playCycle hnext
    refine ⟨0, ?_, rfl⟩
    intro k hk
    rw [Nat.le_zero.mp hk]
    exact hrun
  | case2 b next hnext ih =>
    obtain ⟨rfl, hgoesOn⟩ := tick_of_playCycle hnext
    obtain ⟨n, hn, heq⟩ := ih (isOver_eq_false_iff.mp hgoesOn)
    refine ⟨n + 1, ?_, heq⟩
    intro k hk
    cases k with
    | zero => exact hrun
    | succ k =>
      rw [Function.iterate_succ_apply]
      exact hn k (by omega)

lemma exists_iterate_eq_run (b : Battle size) : ∃ n, tick^[n] b = b.run := by
  by_cases hrun : b.status = .running
  · obtain ⟨n, -, heq⟩ := exists_run_eq_iterate hrun
    exact ⟨n + 1, heq.symm⟩
  · exact ⟨0, (run_of_over hrun).symm⟩

end Battle

end CoreWar
