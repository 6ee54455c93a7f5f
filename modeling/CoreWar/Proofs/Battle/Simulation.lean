import CoreWar.Proofs.Battle.Tick

/-!
# Matches side by side

Two matches are abreast if they stand at the same point of their course and their machines are
related in some way. A relation that every turn keeps, and under which a turn fails on both machines
or on neither, keeps matches abreast for any number of cycles and to their end.
-/

namespace CoreWar

-- a turn is taken as a whole here, and must not be opened by unification
attribute [local irreducible] Machine.step

variable {size : CoreSize}

namespace Machine

/-- Every turn keeps the relation, and fails on both machines in the same way or on neither. -/
structure Lockstep (R : Machine size → Machine size → Prop) : Prop where
  step : ∀ {m m'} p, R m m' → R (m.step p).1 (m'.step p).1
  fault : ∀ {m m'} p, R m m' → (m'.step p).2 = (m.step p).2

lemma Lockstep.atTurnOf {R : Machine size → Machine size → Prop} (hR : Lockstep R)
    {m m' : Machine size} (h : R m m') (p : Player) : R (m.atTurnOf p) (m'.atTurnOf p) := by
  cases p with
  | a => exact h
  | b => exact hR.step .a h

end Machine

namespace Battle

/-- Two matches stand at the same point of their course, with related machines. -/
structure Abreast (R : Machine size → Machine size → Prop) (b b' : Battle size) : Prop where
  machine : R b.machine b'.machine
  cycle : b'.cycle = b.cycle
  maxCycle : b'.maxCycle = b.maxCycle
  status : b'.status = b.status
  reason : b'.reason = b.reason
  blamed : b'.blamed = b.blamed

variable {R : Machine size → Machine size → Prop} {b b' : Battle size}

namespace Abreast

lemma isOver (h : Abreast R b b') : b'.isOver = b.isOver := by
  rw [Battle.isOver, Battle.isOver, h.status]

lemma withMachine (h : Abreast R b b') {m m' : Machine size} (hm : R m m') :
    Abreast R (Battle.withMachine b.toCourse m) (Battle.withMachine b'.toCourse m') :=
  ⟨hm, h.cycle, h.maxCycle, h.status, h.reason, h.blamed⟩

lemma draw (h : Abreast R b b') : Abreast R b.draw b'.draw :=
  ⟨h.machine, h.cycle, h.maxCycle, rfl, rfl, h.blamed⟩

lemma abort (h : Abreast R b b') (p : Player) (f : Fault) :
    Abreast R (b.abort p f) (b'.abort p f) :=
  ⟨h.machine, h.cycle, h.maxCycle, rfl, rfl, rfl⟩

lemma countCycle (h : Abreast R b b') : Abreast R b.countCycle b'.countCycle :=
  ⟨h.machine, congrArg (· + 1) h.cycle, h.maxCycle, h.status, h.reason, h.blamed⟩

lemma completeCycle (h : Abreast R b b') : Abreast R b.completeCycle b'.completeCycle := by
  unfold Battle.completeCycle
  rw [h.cycle, h.maxCycle]
  split_ifs
  · exact h.countCycle.draw
  · exact h.countCycle

section Cycles

variable (hR : Machine.Lockstep R)

include hR

/-- A fault that ends one match ends the other one too. -/
lemma fails (h : Abreast R b b') {p : Player} {f : Fault} (hb : b.Fails p f) : b'.Fails p f where
  running := h.status.trans hb.running
  left := by
    rw [h.cycle, h.maxCycle]
    exact hb.left
  earlier hp := (hR.fault .a h.machine).trans (hb.earlier hp)
  fault := (hR.fault p (hR.atTurnOf h.machine p)).trans hb.fault

/-- A cycle keeps matches abreast. -/
lemma tick (h : Abreast R b b') : Abreast R b.tick b'.tick := by
  have ht := ticked_tick b
  generalize b.tick = c at ht ⊢
  cases ht with
  | ended hover =>
    rw [tick_of_over (h.status ▸ hover)]
    exact h
  | capped hrun hcap =>
    rw [tick_of_capped (h.status.trans hrun) (by rw [h.cycle, h.maxCycle]; exact hcap)]
    exact h.draw
  | @aborted p f hfails =>
    rw [tick_of_fails (h.fails hR hfails)]
    exact (h.withMachine (hR.step p (hR.atTurnOf h.machine p))).abort p f
  | completed hrun hleft ha hb =>
    have hstep := hR.step .a h.machine
    rw [tick_of_completed (h.status.trans hrun) (by rw [h.cycle, h.maxCycle]; exact hleft)
      ((hR.fault .a h.machine).trans ha) ((hR.fault .b hstep).trans hb)]
    exact (h.withMachine (hR.step .b hstep)).completeCycle

lemma iterate_tick (h : Abreast R b b') (n : Nat) :
    Abreast R (Battle.tick^[n] b) (Battle.tick^[n] b') := by
  induction n generalizing b b' with
  | zero => exact h
  | succ n ih => exact ih (h.tick hR)

/-- Matches that are abreast come to their end together. -/
lemma run (h : Abreast R b b') : Abreast R b.run b'.run := by
  fun_induction Battle.run b generalizing b' with
  | case1 b next hnext =>
    obtain ⟨rfl, hover⟩ := tick_of_playCycle hnext
    have htick := h.tick hR
    rw [← run_tick b', run_of_over (isOver_iff.mp (htick.isOver.trans hover))]
    exact htick
  | case2 b next hnext ih =>
    obtain ⟨rfl, -⟩ := tick_of_playCycle hnext
    rw [← run_tick b']
    exact ih (h.tick hR)

end Cycles

end Abreast

end Battle

end CoreWar
