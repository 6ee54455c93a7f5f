import CoreWar.Proofs.Battle.Consistency
import CoreWar.Proofs.Battle.Placement
import CoreWar.Proofs.Machine.Rotation

/-!
# Matches on a turned core

A match in which the core, the pointers and the origins are turned by a distance takes the same
course, cycle by cycle and to its end. The first draw of a load does nothing but turn the match, so
the outcome of a match depends on the distance between the warriors only (`rotation_invariance`).
-/

namespace CoreWar

-- a turn is taken as a whole here, and must not be opened by unification
attribute [local irreducible] Machine.step

variable {size : CoreSize}

namespace Battle

/-! ### Changes that a cycle does not notice -/

/-- The match with its machine, its origins and its generator changed, on the same course. -/
def mapParts (ψ : Machine size → Machine size) (o : Sides Int64 → Sides Int64) (γ : Pcg → Pcg)
    (b : Battle size) : Battle size :=
  { b with machine := ψ b.machine, origin := o b.origin, generator := γ b.generator }

section Parts

variable {ψ : Machine size → Machine size} (o : Sides Int64 → Sides Int64) (γ : Pcg → Pcg)
  (hψ : ∀ m p, (ψ m).step p = (ψ (m.step p).1, (m.step p).2))

lemma completeCycle_mapParts (b : Battle size) :
    (b.mapParts ψ o γ).completeCycle = b.completeCycle.mapParts ψ o γ := by
  unfold completeCycle
  rw [apply_ite (mapParts ψ o γ)]
  rfl

include hψ

lemma atTurnOf_mapParts (b : Battle size) (p : Player) :
    (b.mapParts ψ o γ).machine.atTurnOf p = ψ (b.machine.atTurnOf p) := by
  cases p with
  | a => rfl
  | b => exact congrArg Prod.fst (hψ b.machine .a)

lemma Fails.mapParts {b : Battle size} {p : Player} {f : Fault} (h : b.Fails p f) :
    (b.mapParts ψ o γ).Fails p f where
  running := h.running
  left := h.left
  earlier hp := (congrArg Prod.snd (hψ b.machine .a)).trans (h.earlier hp)
  fault := by
    rw [atTurnOf_mapParts o γ hψ, hψ]
    exact h.fault

/-- A cycle commutes with every change that each turn commutes with. -/
lemma tick_mapParts (b : Battle size) : (b.mapParts ψ o γ).tick = b.tick.mapParts ψ o γ := by
  have ht := ticked_tick b
  generalize b.tick = b' at ht ⊢
  cases ht with
  | ended hover => exact tick_of_over hover
  | capped hrun hcap => exact tick_of_capped hrun hcap
  | aborted h =>
    rw [tick_of_fails (h.mapParts o γ hψ), atTurnOf_mapParts o γ hψ, hψ]
    rfl
  | completed hrun hleft ha hb =>
    have ha' : ((b.mapParts ψ o γ).machine.step .a).2 = none :=
      (congrArg Prod.snd (hψ b.machine .a)).trans ha
    have hmachine : (b.mapParts ψ o γ).machine.step .a = (ψ (b.machine.step .a).1, none) := by
      rw [← ha]
      exact hψ b.machine .a
    have hb' : (((b.mapParts ψ o γ).machine.step .a).1.step .b).2 = none := by
      rw [hmachine, hψ]
      exact hb
    rw [tick_of_completed (b := b.mapParts ψ o γ) hrun hleft ha' hb', hmachine, hψ]
    exact completeCycle_mapParts o γ (withMachine b.toCourse ((b.machine.step .a).1.step .b).1)

/-- So does a whole match. -/
lemma run_mapParts (b : Battle size) : (b.mapParts ψ o γ).run = b.run.mapParts ψ o γ := by
  fun_induction run b with
  | case1 b next hnext =>
    obtain ⟨rfl, hover⟩ := tick_of_playCycle hnext
    rw [← run_tick, tick_mapParts o γ hψ]
    exact run_of_over (isOver_iff.mp hover)
  | case2 b next hnext ih =>
    obtain ⟨rfl, -⟩ := tick_of_playCycle hnext
    rw [← run_tick, tick_mapParts o γ hψ, ih]

end Parts

/-! ### Rotation -/

/-- The match turned by `k` cells: the core, the pointers and the origins. -/
def rotate (b : Battle size) (k : Nat) : Battle size :=
  b.mapParts (Machine.rotate · k) (Sides.map (Address.rotateWord size k)) id

section Rotation

variable {k : Nat} {b loaded : Battle size} {first second : List Cell} {start : Address size}
  {gap : Nat}

lemma secondStart_advance (first : List Cell) (start : Address size) (gap k : Nat) :
    secondStart first (start.advance k) gap = (secondStart first start gap).advance k := by
  rw [secondStart, secondStart, Address.advance_right_comm]

/-- To turn a loaded match is to load it further on. -/
lemma Loaded.rotate (h : b.Loaded first second start gap loaded) (k : Nat) :
    b.Loaded first second (start.advance k) gap (loaded.rotate k) := by
  have horigin : (loaded.rotate k).origin =
      ⟨(start.advance k).word, ((secondStart first start gap).advance k).word⟩ := by
    calc (loaded.rotate k).origin
      _ = loaded.origin.map (Address.rotateWord size k) := rfl
      _ = _ := by rw [h.origin_eq]; simp [Sides.map]
  have hget : ∀ z, (loaded.rotate k).machine.core.get (z.advance k) =
      loaded.machine.core.get z :=
    Core.get_rotate_advance loaded.machine.core k
  refine ⟨?_, ?_, ?_, ?_, ?_, ?_, ?_, h.cycle, h.status, h.reason, h.blamed, h.last, h.maxCycle,
    h.verbose, h.traced⟩
  · rw [horigin, Address.toInt_word]
  · rw [horigin, Address.toInt_word, ← secondStart_advance, Nat.add_assoc]
    rfl
  · exact congrArg (Sides.map (Address.rotateWord size k)) h.ip
  · intro i hi
    rw [Address.advance_right_comm, hget, h.firstCells i hi]
  · intro i hi
    rw [secondStart_advance, Address.advance_right_comm, hget, h.secondCells i hi]
  · intro z hz
    rw [← Address.advance_back k z] at hz ⊢
    rw [secondStart_advance, Address.advance_mem_span_advance]
    exact h.disjoint _ (Address.advance_mem_span_advance.mp hz)
  · intro z hfirst hsecond
    rw [← Address.advance_back k z] at hfirst hsecond ⊢
    rw [secondStart_advance, Address.advance_mem_span_advance] at hsecond
    rw [Address.advance_mem_span_advance] at hfirst
    rw [hget, h.elsewhere _ hfirst hsecond]

end Rotation

/-! ### Offsets -/

lemma offset_eq_ofInt {b : Battle size} {p : Player} (hip : InRange size (b.machine.ip.get p))
    (horigin : InRange size (b.origin.get p)) :
    b.offset p = .ofInt ((b.machine.ip.get p).toInt - (b.origin.get p).toInt) := by
  obtain ⟨hlow, hlt⟩ := hip
  obtain ⟨hlow', hlt'⟩ := horigin
  have hsize := size.lt
  rw [offset, Address.wrap, Int64.toInt_sub, Int.bmod_eq_of_le]
  · simp
    omega
  · simp
    omega

lemma offset_rotate {b : Battle size} {p : Player} (hip : InRange size (b.machine.ip.get p))
    (horigin : InRange size (b.origin.get p)) (k : Nat) : (b.rotate k).offset p = b.offset p := by
  have hip' : (b.rotate k).machine.ip.get p = Address.rotateWord size k (b.machine.ip.get p) :=
    Sides.get_map _ _ p
  have horigin' : (b.rotate k).origin.get p = Address.rotateWord size k (b.origin.get p) :=
    Sides.get_map _ _ p
  have hturned : ∀ w, InRange size (Address.rotateWord size k w) := fun w => inRange_word _
  rw [offset_eq_ofInt (hip' ▸ hturned _) (horigin' ▸ hturned _), offset_eq_ofInt hip horigin,
    hip', horigin', Address.toInt_rotateWord, Address.toInt_rotateWord, Address.ofInt_eq_ofInt_iff,
    Int.emod_sub_emod, Int.sub_emod_emod]
  congr 1
  omega

/-! ### Outcomes -/

/-- Two matches look the same to whoever does not see addresses. -/
structure SameOutcome (b b' : Battle size) : Prop where
  cycle : b'.cycle = b.cycle
  status : b'.status = b.status
  reason : b'.reason = b.reason
  blamed : b'.blamed = b.blamed
  loser : b'.snapshot.loser = b.snapshot.loser
  last : b'.machine.last = b.machine.last
  offset : ∀ p, b'.offset p = b.offset p

lemma Loaded.consistent {b loaded : Battle size} {first second : List Cell} {start : Address size}
    {gap : Nat} (h : b.Loaded first second start gap loaded) : loaded.Consistent := by
  have horigin : ∀ p, InRange size (loaded.origin.get p) := by
    intro p
    rw [h.origin_eq]
    cases p
    · exact inRange_word start
    · exact inRange_word (secondStart first start gap)
  have hip : ∀ p, InRange size (loaded.machine.ip.get p) := by
    rw [h.ip]
    exact horigin
  have hcycle : 0 ≤ loaded.cycle.toInt := by
    rw [h.cycle]
    decide
  exact consistent_of_running hip horigin hcycle h.status h.reason h.blamed (Or.inr h.cycle)

lemma Consistent.run {b : Battle size} (h : b.Consistent) : b.run.Consistent :=
  run_induction (fun b hb => hb.of_ticked (ticked_tick b)) h

section Outcomes

variable (hsize : size.count + 0x80000000 < 0x8000000000000000)

include hsize

lemma tick_rotate (b : Battle size) (k : Nat) : (b.rotate k).tick = b.tick.rotate k :=
  tick_mapParts _ _ (fun m p => m.step_rotate hsize k p) b

lemma run_rotate (b : Battle size) (k : Nat) : (b.rotate k).run = b.run.rotate k :=
  run_mapParts _ _ (fun m p => m.step_rotate hsize k p) b

/-- Matches that differ in the first draw and in what will be drawn later have the same outcome. -/
lemma sameOutcome_of_loaded {b loaded loaded' : Battle size} {first second : List Cell}
    {start start' : Address size} {gap : Nat} (h : b.Loaded first second start gap loaded)
    (h' : b.Loaded first second start' gap loaded') : SameOutcome loaded.run loaded'.run := by
  obtain ⟨k, -, rfl⟩ := start.exists_advance_eq start'
  have hloaded' : loaded' = (loaded.rotate k).mapParts id id fun _ => loaded'.generator :=
    (h.rotate k).unique h' rfl rfl
  have hrun : loaded'.run = (loaded.run.rotate k).mapParts id id fun _ => loaded'.generator := by
    rw [← run_rotate hsize, ← run_mapParts id _ (fun _ _ => rfl), ← hloaded']
  have hconsistent := h.consistent.run
  rw [hrun]
  exact ⟨rfl, rfl, rfl, rfl, rfl, rfl,
    fun p => offset_rotate (hconsistent.ip p) (hconsistent.origin p) k⟩

/-- The core has no beginning. Turns, cycles and whole matches commute with a rotation of the core,
the pointers and the origins, and the outcome of a loaded match does not depend on the first
draw. -/
theorem rotation_invariance (b : Battle size) (k : Nat) :
    -- what a rotation does
    (∀ x : Address size,
      (b.rotate k).machine.core.get (.ofInt (x.val + k)) = b.machine.core.get x) ∧
    (∀ p, ((b.rotate k).machine.ip.get p).toInt =
      ((b.machine.ip.get p).toInt + k) % size.count) ∧
    (∀ p, ((b.rotate k).origin.get p).toInt = ((b.origin.get p).toInt + k) % size.count) ∧
    (b.rotate k).machine.last = b.machine.last ∧
    { (b.rotate k).toCourse with origin := b.origin } = b.toCourse ∧
    -- what commutes with it
    (∀ p, (b.rotate k).machine.step p = ((b.machine.step p).1.rotate k, (b.machine.step p).2)) ∧
    (b.rotate k).tick = b.tick.rotate k ∧ (b.rotate k).tick.isOver = b.tick.isOver ∧
    (b.rotate k).run = b.run.rotate k ∧
    -- what the first draw decides
    ∀ (first second : List Cell) (gap : Nat), first.length + second.length ≤ size.count →
      gap < gapCount size first second →
      ∀ (start start' : Address size) (generator generator' : Pcg),
        SameOutcome ({ b.place first second start gap with generator := generator }).run
          ({ b.place first second start' gap with generator := generator' }).run := by
  have htick := tick_rotate hsize b k
  refine ⟨?_, ?_, ?_, rfl, rfl, ?_, htick, ?_, run_rotate hsize b k, ?_⟩
  · intro x
    rw [← Address.advance_eq_ofInt]
    exact Core.get_rotate_advance b.machine.core k x
  · intro p
    rw [← Address.toInt_rotateWord]
    exact congrArg Int64.toInt (Sides.get_map _ _ p)
  · intro p
    rw [← Address.toInt_rotateWord]
    exact congrArg Int64.toInt (Sides.get_map _ _ p)
  · intro p
    exact b.machine.step_rotate hsize k p
  · rw [htick]
    rfl
  · intro first second gap hfit hgap start start' generator generator'
    exact sameOutcome_of_loaded hsize (b.loaded_place hfit start hgap generator)
      (b.loaded_place hfit start' hgap generator')

end Outcomes

/-- A copy of an instruction to the next cell, which the rotation brings across the end of the
addresses. -/
theorem rotation_invariance_across_end :
    let imp : Cell :=
      ⟨.ofOperation .mov, ⟨.ofAddressing .relative, 0⟩, ⟨.ofAddressing .relative, 1⟩, .ofPlayer .a⟩
    let b : Battle ⟨3, by decide, by decide⟩ := (blank ⟨0⟩).place [imp] [imp] 0 1
    (3 + 0x80000000 < 0x8000000000000000) ∧ (b.rotate 2).tick = b.tick.rotate 2 ∧
      b.tick.machine.core.get 1 = imp ∧ (b.rotate 2).tick.machine.core.get 0 = imp := by
  intro imp b
  obtain ⟨-, -, -, -, -, -, htick, -⟩ := rotation_invariance (by decide) b 2
  refine ⟨by decide, htick, by decide +kernel, ?_⟩
  rw [htick]
  decide +kernel

end Battle

end CoreWar
