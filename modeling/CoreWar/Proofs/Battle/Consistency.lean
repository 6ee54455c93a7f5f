import Mathlib.Data.List.Induction
import CoreWar.Proofs.Battle.Request

/-!
# Consistency of a match

How a match has ended is spread over its status, its reason, the player to blame and the cycles that
are over, and no operation writes all of them. They are consistent nevertheless in every match that
comes of requests to a new one, whatever they load and in whatever order they come, and the loser is
the player whose fault in a cycle has ended the match (`consistent_serveAll`).
-/

namespace CoreWar

-- a turn is taken as a whole here, and must not be opened by unification
attribute [local irreducible] Machine.step

variable {size : CoreSize}

/-- The word stands for an address of the core without being wrapped. -/
def InRange (size : CoreSize) (w : Int64) : Prop :=
  0 ≤ w.toInt ∧ w.toInt < size.count

lemma inRange_word (x : Address size) : InRange size x.word :=
  x.toInt_word_mem

lemma inRange_zero : InRange size 0 :=
  ⟨by decide, by have := size.pos; simpa using this⟩

lemma Machine.inRange_step {m : Machine size} (h : ∀ q, InRange size (m.ip.get q)) (p q : Player) :
    InRange size ((m.step p).1.ip.get q) := by
  obtain ⟨x, hx⟩ := m.step_ip p
  rw [hx]
  exact Sides.forall_get_set p h (inRange_word x) q

namespace Reason

lemma isFatal_ofFault (f : Fault) : (ofFault f).isFatal = true := by
  cases f <;> rfl

end Reason

namespace Battle

/-! ### The invariant -/

/-- What the parts of a match have to do with each other at any time. -/
structure Consistent (b : Battle size) : Prop where
  ip : ∀ p, InRange size (b.machine.ip.get p)
  origin : ∀ p, InRange size (b.origin.get p)
  cycle_nonneg : 0 ≤ b.cycle.toInt
  cycle_le : b.cycle.toInt ≤ max b.maxCycle.toInt 0
  status : b.status = .running ∨ b.status = .aborted ∨ b.status = .drawn
  running : b.status = .running →
    b.reason = .none ∧ b.blamed = .nobody ∧ (b.cycle < b.maxCycle ∨ b.cycle = 0)
  aborted : b.status = .aborted →
    b.reason.isFatal = true ∧ (∃ p, b.blamed = .ofPlayer p) ∧ b.cycle < b.maxCycle
  drawn : b.status = .drawn →
    b.reason = .draw ∧ b.blamed = .nobody ∧ b.cycle.toInt = max b.maxCycle.toInt 0

section

variable {b : Battle size} (hip : ∀ p, InRange size (b.machine.ip.get p))
  (horigin : ∀ p, InRange size (b.origin.get p))

include hip horigin

lemma consistent_of_running (hnonneg : 0 ≤ b.cycle.toInt) (hstatus : b.status = .running)
    (hreason : b.reason = .none) (hblamed : b.blamed = .nobody)
    (hleft : b.cycle < b.maxCycle ∨ b.cycle = 0) : b.Consistent where
  ip := hip
  origin := horigin
  cycle_nonneg := hnonneg
  cycle_le := by
    rcases hleft with hlt | hzero
    · have hlt' := Int64.lt_iff_toInt_lt.mp hlt
      omega
    · simp only [hzero, Int64.toInt_zero]
      exact Int.le_max_right _ _
  status := Or.inl hstatus
  running := fun _ => ⟨hreason, hblamed, hleft⟩
  aborted := fun h => absurd (hstatus.symm.trans h) (by decide)
  drawn := fun h => absurd (hstatus.symm.trans h) (by decide)

lemma consistent_of_aborted (hnonneg : 0 ≤ b.cycle.toInt) (hstatus : b.status = .aborted)
    {f : Fault} (hreason : b.reason = .ofFault f) {p : Player} (hblamed : b.blamed = .ofPlayer p)
    (hleft : b.cycle < b.maxCycle) : b.Consistent where
  ip := hip
  origin := horigin
  cycle_nonneg := hnonneg
  cycle_le := by
    have hlt := Int64.lt_iff_toInt_lt.mp hleft
    omega
  status := Or.inr (Or.inl hstatus)
  running := fun h => absurd (hstatus.symm.trans h) (by decide)
  aborted := fun _ => ⟨by rw [hreason, Reason.isFatal_ofFault], ⟨p, hblamed⟩, hleft⟩
  drawn := fun h => absurd (hstatus.symm.trans h) (by decide)

lemma consistent_of_drawn (hstatus : b.status = .drawn) (hreason : b.reason = .draw)
    (hblamed : b.blamed = .nobody) (hcycle : b.cycle.toInt = max b.maxCycle.toInt 0) :
    b.Consistent where
  ip := hip
  origin := horigin
  cycle_nonneg := by
    rw [hcycle]
    exact Int.le_max_right _ _
  cycle_le := Int.le_of_eq hcycle
  status := Or.inr (Or.inr hstatus)
  running := fun h => absurd (hstatus.symm.trans h) (by decide)
  aborted := fun h => absurd (hstatus.symm.trans h) (by decide)
  drawn := fun _ => ⟨hreason, hblamed, hcycle⟩

end

/-! ### Operations -/

lemma consistent_reset (b : Battle size) : b.reset.Consistent := by
  refine consistent_of_running ?_ ?_ (Int.le_refl 0) rfl rfl rfl (Or.inr rfl)
  · intro p
    cases p <;> exact inRange_zero
  · intro p
    cases p <;> exact inRange_zero

lemma consistent_place (b : Battle size) (first second : List Cell) (start : Address size)
    (gap : Nat) (generator : Pcg) :
    ({ b.place first second start gap with generator := generator } : Battle size).Consistent := by
  refine consistent_of_running ?_ ?_ (Int.le_refl 0) rfl rfl rfl (Or.inr rfl)
  · intro p
    cases p <;> exact inRange_word _
  · intro p
    cases p <;> exact inRange_word _

lemma LoadsTo.consistent {b loaded : Battle size} {first second : List Cell}
    (h : b.LoadsTo first second loaded) : loaded.Consistent := by
  obtain ⟨-, start, gap, generator, -, rfl⟩ := h
  exact consistent_place b first second start gap generator

lemma LoadsTo.status_eq {b loaded : Battle size} {first second : List Cell}
    (h : b.LoadsTo first second loaded) : loaded.status = .running := by
  obtain ⟨-, start, gap, generator, -, rfl⟩ := h
  rfl

lemma Consistent.step {b : Battle size} (h : b.Consistent) (p : Player) :
    ({ b with machine := (b.machine.step p).1 } : Battle size).Consistent :=
  { h with ip := Machine.inRange_step h.ip p }

/-- A match that goes on without a cycle left has never had one. -/
lemma Consistent.draw {b : Battle size} (h : b.Consistent) (hrun : b.status = .running)
    (hcap : b.maxCycle ≤ b.cycle) : b.draw.Consistent := by
  obtain ⟨-, hblamed, hleft⟩ := h.running hrun
  have hzero : b.cycle = 0 := hleft.resolve_left (Int64.not_lt.mpr hcap)
  have hcycle : b.cycle.toInt = max b.maxCycle.toInt 0 := by
    have hcap' := Int64.le_iff_toInt_le.mp hcap
    rw [hzero, Int64.toInt_zero] at hcap' ⊢
    exact (Int.max_eq_right hcap').symm
  exact consistent_of_drawn h.ip h.origin rfl rfl hblamed hcycle

/-- A counted cycle draws the match exactly if it uses up the cycles of the match. -/
lemma Consistent.completeCycle {b : Battle size} (h : b.Consistent) (hrun : b.status = .running)
    (hleft : b.cycle < b.maxCycle) {m : Machine size} (hip : ∀ p, InRange size (m.ip.get p)) :
    (withMachine b.toCourse m).completeCycle.Consistent := by
  obtain ⟨hreason, hblamed, -⟩ := h.running hrun
  obtain ⟨hsucc, hlt⟩ := toInt_cycle_add_one (Int64.not_le.mpr hleft)
  have hnonneg := h.cycle_nonneg
  unfold Battle.completeCycle
  split_ifs with hlast
  · have hcycle : (b.cycle + 1).toInt = max b.maxCycle.toInt 0 := by
      have hlast' := Int64.le_iff_toInt_le.mp hlast
      simp only [withMachine] at hlast'
      omega
    exact consistent_of_drawn hip h.origin rfl rfl hblamed hcycle
  · have hnonneg' : 0 ≤ (b.cycle + 1).toInt := by omega
    exact consistent_of_running hip h.origin hnonneg' hrun hreason hblamed
      (Or.inl (Int64.not_le.mp hlast))

lemma Consistent.of_ticked {b b' : Battle size} (h : b.Consistent) (ht : Ticked b b') :
    b'.Consistent := by
  have hip : ∀ q, InRange size (b'.machine.ip.get q) :=
    ht.machine_induction (P := fun m => ∀ q, InRange size (m.ip.get q))
      (fun _ p hm => Machine.inRange_step hm p) h.ip
  cases ht with
  | ended _ => exact h
  | capped hrun hcap => exact h.draw hrun hcap
  | aborted hfails =>
    exact consistent_of_aborted hip h.origin h.cycle_nonneg rfl rfl rfl hfails.left
  | completed hrun hleft _ _ =>
    exact h.completeCycle hrun hleft (Machine.inRange_step (Machine.inRange_step h.ip .a) .b)

lemma Consistent.iterate_tick {b : Battle size} (h : b.Consistent) (n : Nat) :
    (tick^[n] b).Consistent :=
  Function.Iterate.rec Consistent h (fun b hb => hb.of_ticked (ticked_tick b)) n

lemma Consistent.serve {b : Battle size} (h : b.Consistent) (r : Request size) :
    (b.serve r).Consistent :=
  serve_induction (fun b _ => consistent_reset b)
    (fun b first second start gap generator _ =>
      consistent_place b first second start gap generator)
    (fun b hb => hb.of_ticked (ticked_tick b)) (fun _ p hb => hb.step p) h r

/-! ### The loser -/

lemma loser_of_aborted {b : Battle size} (hstatus : b.status = .aborted)
    (hfatal : b.reason.isFatal = true) {p : Player} (hblamed : b.blamed = .ofPlayer p) :
    b.snapshot.loser = .ofPlayer p := by
  simp only [Snapshot.loser, snapshot, hstatus, hfatal, hblamed, and_self, if_true]

lemma Consistent.loser_ne_nobody_iff {b : Battle size} (h : b.Consistent) :
    b.snapshot.loser ≠ .nobody ↔ b.status = .aborted := by
  by_cases hstatus : b.status = .aborted
  · obtain ⟨hfatal, ⟨p, hblamed⟩, -⟩ := h.aborted hstatus
    rw [loser_of_aborted hstatus hfatal hblamed]
    cases p <;> simp [hstatus, Owner.ofPlayer, Owner.nobody]
  · simp [Snapshot.loser, snapshot, hstatus]

/-- One of the requests to a match has the match go through a cycle that is ended by a fault of
player `p`, and none of the later ones restarts the match. -/
def EndedBy (b : Battle size) (rs : List (Request size)) (p : Player) (f : Fault) : Prop :=
  ∃ before r after k, rs = before ++ r :: after ∧ (r = .tick ∧ k = 0 ∨ r = .run) ∧
    (tick^[k] (b.serveAll before)).Fails p f ∧ ∀ q ∈ after, q.restarts = false

/-- The cycle that is ended by a fault decides the request in which it takes place. -/
lemma serve_of_fails {b : Battle size} {r : Request size} {k : Nat} {p : Player} {f : Fault}
    (hr : r = .tick ∧ k = 0 ∨ r = .run) (hfails : (tick^[k] b).Fails p f) :
    b.serve r = (tick^[k] b).tick := by
  rcases hr with ⟨rfl, rfl⟩ | rfl
  · rfl
  · rw [serve, ← run_iterate b k, ← run_tick, tick_of_fails hfails]
    exact run_of_over (isOver_iff.mp (isOver_abort _ p f))

/-- A match that was ended by a fault of a player is lost by the player. -/
lemma loser_of_endedBy {b : Battle size} {rs : List (Request size)} {p : Player} {f : Fault}
    (h : b.EndedBy rs p f) :
    (b.serveAll rs).status = .aborted ∧ (b.serveAll rs).reason = .ofFault f ∧
      (b.serveAll rs).snapshot.loser = .ofPlayer p := by
  obtain ⟨before, r, after, k, rfl, hr, hfails, hafter⟩ := h
  have hserve := serve_of_fails hr hfails
  rw [tick_of_fails hfails] at hserve
  have hover : ((b.serveAll before).serve r).status ≠ .running := by
    rw [hserve]
    exact isOver_iff.mp (isOver_abort _ p f)
  have hcourse := toCourse_serveAll_of_over hover hafter
  rw [serveAll_append, serveAll_cons]
  have hstatus : (((b.serveAll before).serve r).serveAll after).status = .aborted := by
    rw [hcourse, hserve]
    rfl
  have hreason : (((b.serveAll before).serve r).serveAll after).reason = .ofFault f := by
    rw [hcourse, hserve]
    rfl
  have hblamed : (((b.serveAll before).serve r).serveAll after).blamed = .ofPlayer p := by
    rw [hcourse, hserve]
    rfl
  have hfatal := hreason ▸ Reason.isFatal_ofFault f
  exact ⟨hstatus, hreason, loser_of_aborted hstatus hfatal hblamed⟩

lemma EndedBy.append {b : Battle size} {rs : List (Request size)} {p : Player} {f : Fault}
    (h : b.EndedBy rs p f) {r : Request size} (hr : r.restarts = false) :
    b.EndedBy (rs ++ [r]) p f := by
  obtain ⟨before, q, after, k, rfl, hq, hfails, hafter⟩ := h
  refine ⟨before, q, after ++ [r], k, by simp, hq, hfails, ?_⟩
  intro q' hq'
  rcases List.mem_append.mp hq' with hq' | hq'
  · exact hafter q' hq'
  · rw [List.mem_singleton.mp hq']
    exact hr

/-- A cycle that aborts a match is ended by a fault of a player. -/
lemma exists_fails_of_ticked {b b' : Battle size} (hrun : b.status = .running)
    (ht : Ticked b b') (habort : b'.status = .aborted) : ∃ p f, b.Fails p f := by
  cases ht with
  | ended hover => exact absurd hrun hover
  | capped _ _ => exact absurd habort (by simp [draw, Status.drawn, Status.aborted])
  | aborted hfails => exact ⟨_, _, hfails⟩
  | completed _ _ _ _ =>
    exfalso
    unfold completeCycle at habort
    split_ifs at habort
    · simp [draw, Status.drawn, Status.aborted] at habort
    · simp [countCycle, withMachine, hrun, Status.running, Status.aborted] at habort

/-- A request that aborts a match has it go through a cycle that is ended by a fault. -/
lemma exists_fails_of_serve {b : Battle size} (hrun : b.status = .running) {r : Request size}
    (hr : r.restarts = false) (habort : (b.serve r).status = .aborted) :
    ∃ k p f, (r = .tick ∧ k = 0 ∨ r = .run) ∧ (tick^[k] b).Fails p f := by
  cases r with
  | reset => cases hr
  | load first second =>
    rw [serve, load_of_not_fits b (Nat.not_le.mp (of_decide_eq_false hr))] at habort
    exact absurd (hrun.symm.trans habort) (by decide)
  | place first second start gap =>
    rw [serve, if_pos (Nat.not_le.mp (of_decide_eq_false hr))] at habort
    exact absurd (hrun.symm.trans habort) (by decide)
  | tick =>
    obtain ⟨p, f, hfails⟩ := exists_fails_of_ticked hrun (ticked_tick b) habort
    exact ⟨0, p, f, Or.inl ⟨rfl, rfl⟩, hfails⟩
  | run =>
    obtain ⟨n, hrunning, heq⟩ := exists_run_eq_iterate hrun
    rw [serve, heq, Function.iterate_succ_apply'] at habort
    obtain ⟨p, f, hfails⟩ :=
      exists_fails_of_ticked (hrunning n (Nat.le_refl n)) (ticked_tick _) habort
    exact ⟨n, p, f, Or.inr rfl, hfails⟩
  | step p => exact absurd (hrun.symm.trans habort) (by decide)

/-- An aborted match was ended by a fault of a player. -/
lemma exists_endedBy {b : Battle size} (hstart : b.status = .running) (rs : List (Request size))
    (h : (b.serveAll rs).status = .aborted) : ∃ p f, b.EndedBy rs p f := by
  induction rs using List.reverseRecOn with
  | nil => exact absurd (hstart.symm.trans h) (by decide)
  | append_singleton rs r ih =>
    rw [serveAll_append, serveAll_cons, serveAll_nil] at h
    cases hr : r.restarts with
    | true =>
      have hstatus := (b.serveAll rs).status_serve_of_restarts hr
      exact absurd (hstatus.symm.trans h) (by decide)
    | false =>
      by_cases hrun : (b.serveAll rs).status = .running
      · obtain ⟨k, p, f, hcycle, hfails⟩ := exists_fails_of_serve hrun hr h
        exact ⟨p, f, rs, r, [], k, rfl, hcycle, hfails, by simp⟩
      · rw [toCourse_serve_of_over hrun hr] at h
        obtain ⟨p, f, hended⟩ := ih h
        exact ⟨p, f, hended.append hr⟩

/-! ### Every match -/

lemma maxCycle_serve (b : Battle size) (r : Request size) :
    (b.serve r).maxCycle = b.maxCycle := by
  refine serve_induction (P := fun b' => b'.maxCycle = b.maxCycle) ?_ ?_ ?_ ?_ rfl r
  · intro b' h
    exact h
  · intro b' first second start gap generator h
    exact h
  · intro b' h
    exact (ticked_tick b').maxCycle_eq.trans h
  · intro b' p h
    exact h

lemma maxCycle_serveAll (b : Battle size) (rs : List (Request size)) :
    (b.serveAll rs).maxCycle = b.maxCycle :=
  serveAll_induction (P := fun b' => b'.maxCycle = b.maxCycle)
    (fun b' r h => (maxCycle_serve b' r).trans h) rfl rs

/-- Every match that comes of requests to a new one is consistent, and the loser is exactly the
player whose fault in a cycle has ended the match. -/
theorem consistent_serveAll (generator : Pcg) (m : Int64) (verbose : Bool)
    (rs : List (Request size)) :
    let start : Battle size :=
      { (blank generator : Battle size) with maxCycle := m, verbose := verbose }
    let b := start.serveAll rs
    b.maxCycle = m ∧ b.machine.core.cells.toArray.size = size.count ∧ b.Consistent ∧
      (b.snapshot.loser ≠ .nobody ↔ b.status = .aborted) ∧
      (b.status = .aborted → ∃ p f, start.EndedBy rs p f) ∧
      (∀ p f, start.EndedBy rs p f →
        b.status = .aborted ∧ b.reason = .ofFault f ∧ b.snapshot.loser = .ofPlayer p) := by
  intro start b
  -- a new match differs from one after a reset only in what is traced
  have hstart : start.Consistent := { consistent_reset start with }
  have hconsistent : b.Consistent := serveAll_induction (fun _ r h => h.serve r) hstart rs
  refine ⟨maxCycle_serveAll start rs, Vector.size_toArray _, hconsistent,
    hconsistent.loser_ne_nobody_iff, exists_endedBy rfl rs, ?_⟩
  intro p f hended
  exact loser_of_endedBy hended

end Battle

end CoreWar
