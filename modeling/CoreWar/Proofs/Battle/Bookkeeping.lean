import CoreWar.Proofs.Battle.Legality
import CoreWar.Proofs.Battle.Simulation

/-!
# Bookkeeping

A match keeps books on the owner of each cell, the last instruction of each player, the origins of
the warriors, its verbosity and its generator. No turn reads them: an instruction has the same
effect in every core with the same code, and what it writes is recorded as its player's whoever
owned the cell before (`effect_eq_of_sameCode`). So two matches that differ in their books only take
the same course (`abreast_throughout`).
-/

namespace CoreWar

variable {size : CoreSize}

/-! ### Code -/

/-- Two cells agree in all but their owner. -/
structure Cell.SameCode (c c' : Cell) : Prop where
  opcode : c'.opcode = c.opcode
  a : c'.a = c.a
  b : c'.b = c.b

lemma Cell.SameCode.refl (c : Cell) : c.SameCode c := ⟨rfl, rfl, rfl⟩

namespace Core

/-- Two cores agree in all but the owners of their cells. -/
def SameCode (core core' : Core size) : Prop :=
  ∀ x, (core.get x).SameCode (core'.get x)

lemma SameCode.set {core core' : Core size} (h : core.SameCode core') (x : Address size)
    (c : Cell) : (core.set x c).SameCode (core'.set x c) := by
  intro y
  rw [get_set, get_set]
  split_ifs
  · exact .refl c
  · exact h y

end Core

lemma Effect.apply_sameCode (e : Effect size) {core core' : Core size}
    (h : core.SameCode core') : (e.apply core).SameCode (e.apply core') := by
  obtain ⟨_ | ⟨x, c⟩, next⟩ := e
  · exact h
  · exact h.set x c

/-! ### Turns -/

namespace Machine

section

variable {core core' : Core size} (h : core.SameCode core')

include h

lemma resolve_eq_of_sameCode (ip : Int64) (o : Operand) :
    resolve core' ip o = resolve core ip o := by
  simp only [resolve, (h _).b]

lemma withB_eq_of_sameCode (x : Address size) (p : Player) (field : Int32) :
    withB (core'.get x) p field = withB (core.get x) p field := by
  rw [withB, withB, (h x).opcode, (h x).a, (h x).b]

lemma operandA_eq_of_sameCode {ins ins' : Cell} (hins : ins.SameCode ins') (x : Address size) :
    operandA core' ins' x = operandA core ins x := by
  rw [operandA, operandA, hins.a, (h x).a, (h x).b]

lemma jumpTarget_eq_of_sameCode {ins ins' : Cell} (hins : ins.SameCode ins')
    (ip x : Address size) : jumpTarget core' ins' ip x = jumpTarget core ins ip x := by
  rw [jumpTarget, jumpTarget, hins.a, (h x).a]

lemma moved_eq_of_sameCode (p : Player) {ins ins' : Cell} (hins : ins.SameCode ins')
    (x y : Address size) : moved core' p ins' x y = moved core p ins x y := by
  simp only [moved, hins.a, hins.b, withB_eq_of_sameCode h, (h x).opcode, (h x).a, (h x).b]

lemma differs_eq_of_sameCode {ins ins' : Cell} (hins : ins.SameCode ins') (x y : Address size) :
    differs core' ins' x y = differs core ins x y := by
  simp only [differs, hins.a, hins.b, (h x).a, (h x).b, (h y).a, (h y).b]

/-- An effect reads nothing but code, and the cell that it writes belongs to its player. -/
lemma effect_eq_of_sameCode (p : Player) {ins ins' : Cell} (hins : ins.SameCode ins')
    (ip x y : Address size) : effect core' p ins' ip x y = effect core p ins ip x y := by
  unfold effect
  rw [hins.opcode]
  simp only [moved_eq_of_sameCode h p hins, withB_eq_of_sameCode h,
    operandA_eq_of_sameCode h hins, jumpTarget_eq_of_sameCode h hins,
    differs_eq_of_sameCode h hins]
  rw [(h y).b]

lemma turn_eq_of_sameCode (p : Player) (ip : Address size) :
    turn core' p ip = turn core p ip := by
  simp only [turn, resolve_eq_of_sameCode h, (h ip).a, (h ip).b, effect_eq_of_sameCode h p (h ip)]

end

/-- Two machines agree in their pointers and in the code of every cell. -/
structure SameCode (m m' : Machine size) : Prop where
  ip : m'.ip = m.ip
  code : m.core.SameCode m'.core

lemma SameCode.fetchAddress {m m' : Machine size} (h : m.SameCode m') (p : Player) :
    m'.fetchAddress p = m.fetchAddress p := by
  rw [Machine.fetchAddress, Machine.fetchAddress, h.ip]

lemma lockstep_sameCode : Lockstep (SameCode : Machine size → Machine size → Prop) := by
  have hturn : ∀ {m m' : Machine size} (p : Player), m.SameCode m' →
      turn m'.core p (m'.fetchAddress p) = turn m.core p (m.fetchAddress p) := by
    intro m m' p h
    rw [h.fetchAddress, turn_eq_of_sameCode h.code]
  constructor
  · intro m m' p h
    rcases step_cases m p with ⟨f, hm, hstep⟩ | ⟨e, hm, hstep⟩
    · rw [hstep, step_of_error ((hturn p h).trans hm), h.ip, h.fetchAddress]
      exact ⟨rfl, h.code⟩
    · rw [hstep, step_of_ok ((hturn p h).trans hm), h.ip]
      exact ⟨rfl, e.apply_sameCode h.code⟩
  · intro m m' p h
    rcases step_cases m p with ⟨f, hm, hstep⟩ | ⟨e, hm, hstep⟩
    · rw [hstep, step_of_error ((hturn p h).trans hm)]
    · rw [hstep, step_of_ok ((hturn p h).trans hm)]

/-! ### Turns in a row -/

/-- The faults of turns of the given players, one for each turn. -/
def faults (m : Machine size) : List Player → List (Option Fault)
  | [] => []
  | p :: ps => (m.step p).2 :: (m.step p).1.faults ps

lemma Lockstep.stepAll {R : Machine size → Machine size → Prop} (hR : Lockstep R)
    {m m' : Machine size} (h : R m m') (ps : List Player) :
    R (m.stepAll ps) (m'.stepAll ps) ∧ m'.faults ps = m.faults ps := by
  induction ps generalizing m m' with
  | nil => exact ⟨h, rfl⟩
  | cons p ps ih =>
    obtain ⟨hrest, hfaults⟩ := ih (hR.step p h)
    exact ⟨hrest, congrArg₂ List.cons (hR.fault p h) hfaults⟩

end Machine

namespace Battle

/-- Bookkeeping never influences a fight. Two matches that differ in nothing but the owners of
cells, the last instructions, the origins, the verbosity and the generator are over after the same
cycles and have the same faults in the same turns, and wherever they go on together they still
differ in nothing else. -/
theorem abreast_throughout {b b' : Battle size} (h : Abreast Machine.SameCode b b') :
    (∀ n, Abreast Machine.SameCode (tick^[n] b) (tick^[n] b') ∧
      (tick^[n] b').isOver = (tick^[n] b).isOver) ∧
    Abreast Machine.SameCode b.run b'.run ∧
    ∀ ps, b'.machine.faults ps = b.machine.faults ps ∧
      Abreast Machine.SameCode { b with machine := b.machine.stepAll ps }
        { b' with machine := b'.machine.stepAll ps } := by
  have hlockstep : Machine.Lockstep (Machine.SameCode : Machine size → Machine size → Prop) :=
    Machine.lockstep_sameCode
  refine ⟨?_, h.run hlockstep, ?_⟩
  · intro n
    have hticks := h.iterate_tick hlockstep n
    exact ⟨hticks, hticks.isOver⟩
  · intro ps
    obtain ⟨hmachine, hfaults⟩ := hlockstep.stepAll h.machine ps
    exact ⟨hfaults, hmachine, h.cycle, h.maxCycle, h.status, h.reason, h.blamed⟩

/-- Two imps, and the same two as nobody's in a match with other books. -/
theorem abreast_throughout_unowned :
    let imp (owner : Owner) : Cell :=
      ⟨.ofOperation .mov, ⟨.ofAddressing .relative, 0⟩, ⟨.ofAddressing .relative, 1⟩, owner⟩
    let b : Battle ⟨5, by decide, by decide⟩ :=
      (blank ⟨0⟩).place [imp (.ofPlayer .a)] [imp (.ofPlayer .b)] 0 1
    let b' : Battle ⟨5, by decide, by decide⟩ :=
      { (blank ⟨1⟩).place [imp .nobody] [imp ⟨7⟩] 0 1 with
        origin := ⟨4, -1⟩, verbose := true, machine.last := ⟨imp .nobody, .empty⟩ }
    Abreast Machine.SameCode b b' ∧ b'.machine.core ≠ b.machine.core ∧
      Abreast Machine.SameCode b.run b'.run ∧
      b'.machine.faults [.b, .a, .a] = b.machine.faults [.b, .a, .a] := by
  intro imp b b'
  have hcode : ∀ x, (b.machine.core.get x).SameCode (b'.machine.core.get x) := by
    intro x
    constructor <;> revert x <;> decide
  have h : Abreast Machine.SameCode b b' := ⟨⟨rfl, hcode⟩, rfl, rfl, rfl, rfl, rfl⟩
  obtain ⟨-, hrun, hturns⟩ := abreast_throughout h
  exact ⟨h, by decide, hrun, (hturns [.b, .a, .a]).1⟩

end Battle

end CoreWar
