import CoreWar.Proofs.Battle.Bookkeeping
import CoreWar.Proofs.Machine.Rotation

/-!
# Matches with the players exchanged

The mirror image of a machine has the pointers and the last instructions of the players exchanged,
and in every cell one player for the other. A turn uses the player twice: to find the pointer, and
to sign the cell that it writes. Both go along with the exchange, so a turn of the other player on
the mirror image is the mirror image of the turn (`step_mirror`), and so it is for turns in any
order.

A cycle is the only thing that treats the players differently, as one of them has to move first
(`impartial`).
-/

namespace CoreWar

variable {size : CoreSize}

/-! ### Players and cells -/

/-- The record of the other player; every other record stays. -/
def Owner.mirror (o : Owner) : Owner :=
  if o = .ofPlayer .a then .ofPlayer .b else if o = .ofPlayer .b then .ofPlayer .a else o

lemma Owner.mirror_eq (o : Owner) :
    o.mirror = if o.code = 0 then ⟨1⟩ else if o.code = 1 then ⟨0⟩ else o := by
  obtain ⟨code⟩ := o
  simp only [mirror, ofPlayer, Owner.mk.injEq]

@[simp] lemma Owner.mirror_ofPlayer (p : Player) :
    (ofPlayer p).mirror = ofPlayer p.other := by
  cases p <;> decide

namespace Sides

variable {α : Type}

def swap (s : Sides α) : Sides α := ⟨s.b, s.a⟩

@[simp] lemma get_swap_other (s : Sides α) (p : Player) : s.swap.get p.other = s.get p := by
  cases p <;> rfl

@[simp] lemma swap_set (s : Sides α) (p : Player) (x : α) :
    (s.set p x).swap = s.swap.set p.other x := by
  cases p <;> rfl

end Sides

/-- The cell with the other player as its owner, if a player owns it. -/
def Cell.mirror (c : Cell) : Cell :=
  { c with owner := c.owner.mirror }

lemma Cell.sameCode_mirror (c : Cell) : c.SameCode c.mirror := ⟨rfl, rfl, rfl⟩

namespace Core

/-- The core with the players exchanged in every cell. -/
def mirror (core : Core size) : Core size :=
  ⟨core.cells.map Cell.mirror⟩

@[simp] lemma get_mirror (core : Core size) (x : Address size) :
    core.mirror.get x = (core.get x).mirror := by
  simp [mirror, get_eq_getElem]

lemma mirror_set (core : Core size) (x : Address size) (c : Cell) :
    (core.set x c).mirror = core.mirror.set x c.mirror := by
  apply ext_get
  intro y
  rw [get_mirror, get_set, get_set, get_mirror, apply_ite Cell.mirror]

lemma sameCode_mirror (core : Core size) : core.SameCode core.mirror := by
  intro x
  rw [get_mirror]
  exact (core.get x).sameCode_mirror

end Core

/-! ### Turns -/

def Effect.mirror (e : Effect size) : Effect size :=
  ⟨e.write.map fun (x, c) => (x, c.mirror), e.next⟩

lemma Effect.next_mirror (e : Effect size) : e.mirror.next = e.next := rfl

lemma Effect.apply_mirror (e : Effect size) (core : Core size) :
    e.mirror.apply core.mirror = (e.apply core).mirror := by
  obtain ⟨_ | ⟨x, c⟩, next⟩ := e
  · rfl
  · exact (core.mirror_set x c).symm

namespace Machine

lemma mirror_withB (c : Cell) (p : Player) (f : Int32) :
    (withB c p f).mirror = withB c p.other f := by
  simp [Cell.mirror, withB]

lemma mirror_moved (core : Core size) (p : Player) (ins : Cell) (x y : Address size) :
    (moved core p ins x y).mirror = moved core p.other ins x y := by
  unfold moved
  split_ifs
  · exact mirror_withB _ p _
  · exact mirror_withB _ p _
  · simp [Cell.mirror]

/-- The player of an instruction does nothing but sign what the instruction writes. -/
lemma effect_other (core : Core size) (p : Player) (ins : Cell) (ip x y : Address size) :
    effect core p.other ins ip x y = (effect core p ins ip x y).map Effect.mirror := by
  unfold effect
  cases ins.opcode.operation? with
  | none => rfl
  | some op =>
    cases op with
    | dat | jmp | jmz | cmp => rfl
    | mov => simp only [Except.map, Effect.mirror, Option.map_some, mirror_moved]
    | add | sub | djz => simp only [Except.map, Effect.mirror, Option.map_some, mirror_withB]

/-- The mirror image of a core holds the same code, so that only the signature of a turn changes. -/
lemma turn_mirror (core : Core size) (p : Player) (ip : Address size) :
    turn core.mirror p.other ip = (turn core p ip).map Effect.mirror := by
  rw [turn_eq_of_sameCode core.sameCode_mirror]
  simp only [turn]
  cases resolve core ip.word (core.get ip).a with
  | none => rfl
  | some x =>
    cases resolve core ip.word (core.get ip).b with
    | none => rfl
    | some y => exact effect_other core p (core.get ip) ip x y

/-- The machine with the players exchanged: their pointers, their last instructions and the owners
of all cells. -/
def mirror (m : Machine size) : Machine size :=
  ⟨m.core.mirror, m.ip.swap, (m.last.map Cell.mirror).swap⟩

lemma fetchAddress_mirror (m : Machine size) (p : Player) :
    m.mirror.fetchAddress p.other = m.fetchAddress p := by
  simp [fetchAddress, mirror]

lemma fetched_mirror (m : Machine size) (p : Player) :
    m.mirror.fetched p.other = (m.fetched p).mirror := by
  rw [fetched, fetchAddress_mirror]
  exact m.core.get_mirror (m.fetchAddress p)

/-- A turn of the other player on the mirror image is the mirror image of the turn. -/
lemma step_mirror (m : Machine size) (p : Player) :
    m.mirror.step p.other = ((m.step p).1.mirror, (m.step p).2) := by
  have hturn : turn m.mirror.core p.other (m.mirror.fetchAddress p.other) =
      (turn m.core p (m.fetchAddress p)).map Effect.mirror := by
    rw [fetchAddress_mirror]
    exact turn_mirror m.core p (m.fetchAddress p)
  rcases step_cases m p with ⟨f, h, hstep⟩ | ⟨e, h, hstep⟩
  · rw [h] at hturn
    rw [step_of_error hturn, hstep, fetched_mirror, fetchAddress_mirror]
    simp only [mirror, Sides.map_set, Sides.swap_set]
  · rw [h] at hturn
    rw [step_of_ok hturn, hstep, fetched_mirror]
    simp only [mirror, Effect.apply_mirror, Effect.next_mirror, Sides.map_set, Sides.swap_set]

/-- Turns of the exchanged players on the mirror image are the mirror images of the turns. -/
lemma stepAll_mirror (m : Machine size) (ps : List Player) :
    m.mirror.stepAll (ps.map .other) = (m.stepAll ps).mirror ∧
      m.mirror.faults (ps.map .other) = m.faults ps := by
  induction ps generalizing m with
  | nil => exact ⟨rfl, rfl⟩
  | cons p ps ih =>
    obtain ⟨hlast, hfaults⟩ := ih (m.step p).1
    have hstep := m.step_mirror p
    constructor
    · calc m.mirror.stepAll ((p :: ps).map .other)
        _ = (m.mirror.step p.other).1.stepAll (ps.map .other) := rfl
        _ = ((m.step p).1.stepAll ps).mirror := by rw [hstep, hlast]
    · calc m.mirror.faults ((p :: ps).map .other)
        _ = (m.mirror.step p.other).2 :: (m.mirror.step p.other).1.faults (ps.map .other) := rfl
        _ = (m.step p).2 :: (m.step p).1.faults ps := by rw [hstep, hfaults]

end Machine

/-! ### Cycles -/

namespace Battle

-- a turn is taken as a whole from here on, and must not be opened by unification
attribute [local irreducible] Machine.step

/-- One cycle of the match in which `first` moves before the other player. -/
def tickFrom (first : Player) (b : Battle size) : Battle size :=
  if b.isOver then b
  else if b.maxCycle ≤ b.cycle then b.draw
  else
    match b.machine.step first with
    | (m, some f) => (withMachine b.toCourse m).abort first f
    | (m, none) =>
      match m.step first.other with
      | (m, some f) => (withMachine b.toCourse m).abort first.other f
      | (m, none) => (withMachine b.toCourse m).completeCycle

lemma tickFrom_a (b : Battle size) : b.tickFrom .a = b.tick := by
  unfold tickFrom
  split_ifs with hover hcap
  · exact (tick_of_over (isOver_iff.mp hover)).symm
  · exact (tick_of_capped (isOver_eq_false_iff.mp (eq_false_of_ne_true hover)) hcap).symm
  · exact (tick_of_left (isOver_eq_false_iff.mp (eq_false_of_ne_true hover))
      (Int64.not_le.mp hcap)).symm

/-- The match with the players exchanged, on the machine and in what is recorded of them. -/
def mirror (b : Battle size) : Battle size :=
  { b with machine := b.machine.mirror, origin := b.origin.swap, blamed := b.blamed.mirror }

lemma mirror_abort (b : Battle size) (p : Player) (f : Fault) :
    (b.abort p f).mirror = b.mirror.abort p.other f := by
  simp only [abort, mirror, Owner.mirror_ofPlayer]

lemma mirror_completeCycle (b : Battle size) : b.completeCycle.mirror = b.mirror.completeCycle := by
  unfold completeCycle
  rw [apply_ite mirror]
  rfl

/-- A cycle in the other order on the mirror image is the mirror image of the cycle. -/
lemma tickFrom_mirror (first : Player) (b : Battle size) :
    b.mirror.tickFrom first.other = (b.tickFrom first).mirror := by
  unfold tickFrom
  by_cases hover : b.isOver = true
  · rw [if_pos hover]
    exact if_pos hover
  by_cases hcap : b.maxCycle ≤ b.cycle
  · rw [if_neg hover, if_pos hcap]
    exact (if_neg hover).trans (if_pos hcap)
  rw [if_neg hover, if_neg hcap]
  refine ((if_neg hover).trans (if_neg hcap)).trans ?_
  have hfirst : b.mirror.machine.step first.other =
      ((b.machine.step first).1.mirror, (b.machine.step first).2) := b.machine.step_mirror first
  rw [hfirst]
  rcases b.machine.step first with ⟨m, _ | f⟩
  · have hsecond := m.step_mirror first.other
    dsimp only
    rw [hsecond]
    rcases m.step first.other with ⟨m', _ | f⟩
    · exact (mirror_completeCycle (withMachine b.toCourse m')).symm
    · exact (mirror_abort (withMachine b.toCourse m') first.other f).symm
  · exact (mirror_abort (withMachine b.toCourse m) first f).symm

lemma iterate_tickFrom_mirror (b : Battle size) (n : Nat) :
    (tickFrom .b)^[n] b.mirror = (tick^[n] b).mirror := by
  induction n generalizing b with
  | zero => rfl
  | succ n ih =>
    have htick : b.mirror.tickFrom .b = b.tick.mirror := by
      rw [← tickFrom_a]
      exact tickFrom_mirror .a b
    rw [Function.iterate_succ_apply, Function.iterate_succ_apply, htick, ih]

/-- The machine is impartial. A turn of the other player on the mirror image has the same fault or
none and leads to the mirror image, and so do turns of the exchanged players in any order. A cycle
lets A move first, and this is all that sets the players apart: if B moves first, the mirror image
of a match takes the mirrored course, cycle by cycle and to its end. -/
theorem impartial (m : Machine size) :
    -- what the mirror image is
    (∀ p, m.mirror.ip.get p.other = m.ip.get p) ∧
    (∀ p, m.mirror.last.get p.other = (m.last.get p).mirror) ∧
    (∀ x, m.mirror.core.get x = (m.core.get x).mirror) ∧
    (∀ c : Cell, c.mirror = { c with owner := c.owner.mirror }) ∧
    (∀ o : Owner, o.mirror = if o.code = 0 then ⟨1⟩ else if o.code = 1 then ⟨0⟩ else o) ∧
    -- turns
    (∀ p, m.mirror.step p.other = ((m.step p).1.mirror, (m.step p).2)) ∧
    (∀ ps, m.mirror.stepAll (ps.map .other) = (m.stepAll ps).mirror ∧
      m.mirror.faults (ps.map .other) = m.faults ps) ∧
    -- cycles and whole matches
    ∀ b : Battle size,
      b.tickFrom .a = b.tick ∧
      (∀ n, (tickFrom .b)^[n] b.mirror = (tick^[n] b).mirror) ∧
      ∃ n, tick^[n] b = b.run ∧ (tickFrom .b)^[n] b.mirror = b.run.mirror := by
  refine ⟨m.ip.get_swap_other, ?last, m.core.get_mirror, fun _ => rfl, Owner.mirror_eq,
    m.step_mirror, m.stepAll_mirror, ?course⟩
  case last =>
    intro p
    exact (Sides.get_swap_other _ p).trans (Sides.get_map _ _ p)
  case course =>
    intro b
    obtain ⟨n, hn⟩ := b.exists_iterate_eq_run
    exact ⟨b.tickFrom_a, b.iterate_tickFrom_mirror, n, hn, by rw [iterate_tickFrom_mirror, hn]⟩

end Battle

end CoreWar
