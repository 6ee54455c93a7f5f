import CoreWar.Proofs.Battle.Bookkeeping
import CoreWar.Proofs.Battle.Consistency
import CoreWar.Proofs.Battle.Placement
import CoreWar.Proofs.Machine.Footprint
import CoreWar.Proofs.Machine.Rotation

/-!
# Warriors that never die

An imp copies itself to the next cell and goes there, and a cell may jump to itself for ever. A
match between warriors of such cells is always a draw (`drawn_of_undying`), although the warriors
run over each other: all that an imp writes is an imp, so whoever is run over goes on as an imp.

The invariant speaks of the cells under the two pointers only (`Machine.Fetches`). What else is in
the core does not matter, because nobody ever gets there but in the wake of an imp.
-/

namespace CoreWar

variable {size : CoreSize}

/-! ### The instructions -/

namespace Cell

/-- The instruction `MOV $0, $1`, which copies itself to the next cell. -/
def imp : Cell :=
  ⟨.ofOperation .mov, ⟨.ofAddressing .relative, 0⟩, ⟨.ofAddressing .relative, 1⟩, .nobody⟩

/-- The instruction `JMP $0, $0`, which jumps to itself. -/
def spin : Cell :=
  ⟨.ofOperation .jmp, ⟨.ofAddressing .relative, 0⟩, ⟨.ofAddressing .relative, 0⟩, .nobody⟩

/-- The cell is an imp, whoever owns it. -/
def IsImp (c : Cell) : Prop := imp.SameCode c

/-- The cell jumps to itself, whoever owns it. -/
def IsSpin (c : Cell) : Prop := spin.SameCode c

/-- The cell is one of the two instructions that never fail. -/
def Undying (c : Cell) : Prop := c.IsImp ∨ c.IsSpin

/-- A kind of undying cells: what belongs to it does not depend on the owner of a cell. -/
structure UndyingKind (P : Cell → Prop) : Prop where
  undying : ∀ c, P c → c.Undying
  withOwner : ∀ c owner, P c → P { c with owner := owner }

lemma undyingKind_isImp : UndyingKind IsImp where
  undying _ hc := .inl hc
  withOwner _ _ hc := ⟨hc.opcode, hc.a, hc.b⟩

lemma undyingKind_isSpin : UndyingKind IsSpin where
  undying _ hc := .inr hc
  withOwner _ _ hc := ⟨hc.opcode, hc.a, hc.b⟩

lemma undyingKind_undying : UndyingKind Undying where
  undying _ hc := hc
  withOwner c owner hc :=
    hc.imp (undyingKind_isImp.withOwner c owner) (undyingKind_isSpin.withOwner c owner)

end Cell

/-! ### Turns -/

namespace Address

lemma wrap_word_add_one (x : Address size) : wrap (x.word + 1) = x.advance 1 := by
  have hlt := size.lt
  rw [wrap_word_add x (by rw [Int64.toInt_one]; omega), Int64.toInt_one, advance_eq_ofInt]
  rfl

end Address

namespace Machine

section

variable {core : Core size} {ip : Address size} (p : Player)

lemma turn_of_isImp (h : (core.get ip).IsImp) :
    turn core p ip = .ok ⟨some (ip.advance 1, { core.get ip with owner := .ofPlayer p }),
      ip.advance 1⟩ := by
  have ha : resolve core ip.word (core.get ip).a = some ip := by
    simp [h.a, Cell.imp, resolve]
  have hb : resolve core ip.word (core.get ip).b = some (ip.advance 1) := by
    simp only [h.b, Cell.imp, resolve, Mode.addressing?_ofAddressing]
    exact congrArg some ip.wrap_word_add_one
  rw [turn_of_resolve ha hb]
  simp only [effect, h.opcode, h.a, h.b, Cell.imp, Opcode.operation?_ofOperation, moved,
    Mode.isImmediate_ofAddressing, Address.wrap_word_add_one]
  rfl

lemma turn_of_isSpin (h : (core.get ip).IsSpin) : turn core p ip = .ok ⟨none, ip⟩ := by
  have ha : resolve core ip.word (core.get ip).a = some ip := by
    simp [h.a, Cell.spin, resolve]
  have hb : resolve core ip.word (core.get ip).b = some ip := by
    simp [h.b, Cell.spin, resolve]
  rw [turn_of_resolve ha hb]
  simp only [effect, h.opcode, h.a, Cell.spin, Opcode.operation?_ofOperation, jumpTarget,
    Mode.isImmediate_ofAddressing]
  rfl

end

/-- The cells under both pointers are of a kind. -/
def Fetches (P : Cell → Prop) (m : Machine size) : Prop :=
  ∀ q, P (m.fetched q)

section

variable {m : Machine size} {p : Player}

lemma step_of_isImp (h : (m.fetched p).IsImp) :
    m.step p = (⟨m.core.set ((m.fetchAddress p).advance 1)
        { m.fetched p with owner := .ofPlayer p },
      m.ip.set p ((m.fetchAddress p).advance 1).word, m.last.set p (m.fetched p)⟩, none) :=
  step_of_ok (turn_of_isImp p h)

lemma step_of_isSpin (h : (m.fetched p).IsSpin) :
    m.step p =
      (⟨m.core, m.ip.set p (m.fetchAddress p).word, m.last.set p (m.fetched p)⟩, none) :=
  step_of_ok (turn_of_isSpin p h)

lemma fault_step_of_undying (h : (m.fetched p).Undying) : (m.step p).2 = none := by
  rcases h with h | h
  · rw [step_of_isImp h]
  · rw [step_of_isSpin h]

lemma fetchAddress_step_of_isImp (h : (m.fetched p).IsImp) :
    (m.step p).1.fetchAddress p = (m.fetchAddress p).advance 1 := by
  rw [step_of_isImp h, fetchAddress, Sides.get_set_self, Address.wrap_word]

lemma fetchAddress_step_of_isSpin (h : (m.fetched p).IsSpin) (q : Player) :
    (m.step p).1.fetchAddress q = m.fetchAddress q := by
  by_cases hpq : p = q
  · subst hpq
    rw [step_of_isSpin h, fetchAddress, Sides.get_set_self, Address.wrap_word]
  · exact fetchAddress_step_of_ne hpq m

lemma core_step_of_isSpin (h : (m.fetched p).IsSpin) : (m.step p).1.core = m.core := by
  rw [step_of_isSpin h]

/-- An imp goes to its copy. The other player finds such a copy as well, or what was there
before. -/
lemma fetched_step_of_isImp (h : (m.fetched p).IsImp) (q : Player) :
    (m.step p).1.fetched q = { m.fetched p with owner := .ofPlayer p } ∨
      (m.step p).1.fetched q = m.fetched q := by
  have hcore : (m.step p).1.core = m.core.set ((m.fetchAddress p).advance 1)
      { m.fetched p with owner := .ofPlayer p } := by
    rw [step_of_isImp h]
  rw [fetched, hcore, Core.get_set]
  by_cases hpq : p = q
  · subst hpq
    exact .inl (if_pos (fetchAddress_step_of_isImp h))
  · rw [fetchAddress_step_of_ne hpq]
    split_ifs
    · exact .inl rfl
    · exact .inr rfl

lemma Fetches.step {P : Cell → Prop} (hP : Cell.UndyingKind P) (h : m.Fetches P) (p : Player) :
    (m.step p).1.Fetches P := by
  intro q
  rcases hP.undying _ (h p) with himp | hspin
  · rcases fetched_step_of_isImp himp q with hq | hq
    · rw [hq]
      exact hP.withOwner _ _ (h p)
    · rw [hq]
      exact h q
  · rw [fetched, core_step_of_isSpin hspin, fetchAddress_step_of_isSpin hspin]
    exact h q

lemma Fetches.atTurnOf {P : Cell → Prop} (hP : Cell.UndyingKind P) (h : m.Fetches P)
    (p : Player) : (m.atTurnOf p).Fetches P :=
  atTurnOf_induction (fun _ p hm => hm.step hP p) h p

/-- In a cycle of two imps both go on by a cell. -/
lemma fetchAddress_step_step_of_isImp (h : m.Fetches Cell.IsImp) (q : Player) :
    ((m.step .a).1.step .b).1.fetchAddress q = (m.fetchAddress q).advance 1 := by
  have hb := h.step Cell.undyingKind_isImp .a .b
  cases q with
  | a => rw [fetchAddress_step_of_ne (by decide), fetchAddress_step_of_isImp (h .a)]
  | b => rw [fetchAddress_step_of_isImp hb, fetchAddress_step_of_ne (by decide)]

end

end Machine

/-! ### Matches -/

namespace Battle

lemma status_draw_ne_aborted (b : Battle size) : b.draw.status ≠ .aborted := by
  change Status.drawn ≠ .aborted
  decide

/-- A match in which both players are on cells of a kind and nobody has failed. -/
structure Peaceful (P : Cell → Prop) (b : Battle size) : Prop where
  fetches : b.machine.Fetches P
  consistent : b.Consistent
  status_ne : b.status ≠ .aborted

section

variable {P : Cell → Prop} {b b' : Battle size}

lemma Peaceful.not_fails (hP : Cell.UndyingKind P) (h : b.Peaceful P) (p : Player) (f : Fault) :
    ¬b.Fails p f := by
  intro hfails
  have hfault := Machine.fault_step_of_undying
    (hP.undying _ (h.fetches.atTurnOf hP p p))
  cases hfault.symm.trans hfails.fault

lemma Peaceful.of_ticked (hP : Cell.UndyingKind P) (h : b.Peaceful P) (ht : Ticked b b') :
    b'.Peaceful P := by
  refine ⟨ht.machine_induction (fun _ p hm => hm.step hP p) h.fetches,
    h.consistent.of_ticked ht, ?_⟩
  cases ht with
  | ended => exact h.status_ne
  | capped => exact b.status_draw_ne_aborted
  | aborted hfails => exact absurd hfails (h.not_fails hP _ _)
  | completed =>
    unfold completeCycle
    split_ifs
    · exact status_draw_ne_aborted _
    · exact h.status_ne

lemma Peaceful.iterate_tick (hP : Cell.UndyingKind P) (h : b.Peaceful P) (k : Nat) :
    (tick^[k] b).Peaceful P :=
  Function.Iterate.rec (Peaceful P) h (fun b hb => hb.of_ticked hP (ticked_tick b)) k

/-- A match in which nobody fails is over only when it is drawn. -/
lemma Peaceful.cycle_of_over (h : b.Peaceful P) (hover : b.status ≠ .running) :
    b.status = .drawn ∧ b.cycle.toInt = max b.maxCycle.toInt 0 := by
  have hdrawn := (h.consistent.status.resolve_left hover).resolve_left h.status_ne
  exact ⟨hdrawn, (h.consistent.drawn hdrawn).2.2⟩

/-- One more cycle counts until all of them are used up. -/
lemma Peaceful.cycle_tick (hP : Cell.UndyingKind P) (h : b.Peaceful P) :
    b.tick.cycle.toInt = min (b.cycle.toInt + 1) (max b.maxCycle.toInt 0) := by
  by_cases hrun : b.status = .running
  · by_cases hleft : b.cycle < b.maxCycle
    · have ha := Machine.fault_step_of_undying (hP.undying _ (h.fetches .a))
      have hb := Machine.fault_step_of_undying (hP.undying _ (h.fetches.step hP .a .b))
      have hlt := Int64.lt_iff_toInt_lt.mp hleft
      rw [tick_of_completed hrun hleft ha hb, (completeCycle_parts _).2.1]
      change (b.cycle + 1).toInt = _
      rw [(toInt_cycle_add_one (Int64.not_le.mpr hleft)).1]
      omega
    · have hcap : b.maxCycle ≤ b.cycle := Int64.not_lt.mp hleft
      have hcycle : b.cycle.toInt = max b.maxCycle.toInt 0 :=
        ((h.consistent.draw hrun hcap).drawn rfl).2.2
      rw [tick_of_capped hrun hcap]
      change b.cycle.toInt = _
      omega
  · have hcycle := (h.cycle_of_over hrun).2
    rw [tick_of_over hrun]
    omega

lemma Peaceful.cycle_iterate_tick (hP : Cell.UndyingKind P) (h : b.Peaceful P) (k : Nat) :
    (tick^[k] b).cycle.toInt = min (b.cycle.toInt + k) (max b.maxCycle.toInt 0) := by
  induction k generalizing b with
  | zero =>
    have hle := h.consistent.cycle_le
    change b.cycle.toInt = _
    omega
  | succ k ih =>
    have hnext := ih (h.of_ticked hP (ticked_tick b))
    rw [h.cycle_tick hP, (ticked_tick b).maxCycle_eq] at hnext
    rw [Function.iterate_succ_apply, hnext]
    omega

end

/-! ### Imps -/

/-- A match between imps, each of which is as far from its origin as cycles are over. -/
structure Marching (b : Battle size) : Prop where
  peaceful : b.Peaceful Cell.IsImp
  position : ∀ p, b.machine.fetchAddress p = .ofInt ((b.origin.get p).toInt + b.cycle.toInt)

lemma Marching.of_ticked {b b' : Battle size} (h : b.Marching) (ht : Ticked b b') :
    b'.Marching := by
  refine ⟨h.peaceful.of_ticked Cell.undyingKind_isImp ht, ?_⟩
  cases ht with
  | ended | capped => exact h.position
  | aborted hfails => exact absurd hfails (h.peaceful.not_fails Cell.undyingKind_isImp _ _)
  | completed _ hleft =>
    intro p
    obtain ⟨hmachine, hcycle, horigin⟩ :=
      completeCycle_parts (withMachine b.toCourse ((b.machine.step .a).1.step .b).1)
    have hsucc := (toInt_cycle_add_one (Int64.not_le.mpr hleft)).1
    rw [hmachine, hcycle, horigin]
    change ((b.machine.step .a).1.step .b).1.fetchAddress p =
      .ofInt ((b.origin.get p).toInt + (b.cycle + 1).toInt)
    rw [Machine.fetchAddress_step_step_of_isImp h.peaceful.fetches, h.position p,
      Address.advance_ofInt, hsucc, Int.add_assoc]
    rfl

lemma Marching.iterate_tick {b : Battle size} (h : b.Marching) (k : Nat) :
    (tick^[k] b).Marching :=
  Function.Iterate.rec Marching h (fun b hb => hb.of_ticked (ticked_tick b)) k

/-- The pointer of a consistent match is the address that it stands for. -/
lemma Marching.toInt_ip {b : Battle size} (h : b.Marching) (p : Player) :
    (b.machine.ip.get p).toInt =
      ((b.origin.get p).toInt + b.cycle.toInt) % size.count := by
  obtain ⟨hnonneg, hlt⟩ := h.peaceful.consistent.ip p
  have hval := congrArg (fun x : Address size => (x.val : Int)) (h.position p)
  simp only [Machine.fetchAddress, Address.wrap, Address.val_ofInt] at hval
  rw [← hval, Int.emod_eq_of_lt hnonneg hlt]

/-! ### Cells that jump to themselves -/

/-- Where both players jump on the spot, nothing is written. -/
lemma core_iterate_tick_of_isSpin {b : Battle size} (h : b.machine.Fetches Cell.IsSpin) (k : Nat) :
    (tick^[k] b).machine.core = b.machine.core := by
  induction k generalizing b with
  | zero => rfl
  | succ k ih =>
    have htick : b.tick.machine.Fetches Cell.IsSpin ∧ b.tick.machine.core = b.machine.core := by
      refine (ticked_tick b).machine_induction
        (P := fun m => m.Fetches Cell.IsSpin ∧ m.core = b.machine.core) ?_ ⟨h, rfl⟩
      rintro m p ⟨hm, hcore⟩
      exact ⟨hm.step Cell.undyingKind_isSpin p, (Machine.core_step_of_isSpin (hm p)).trans hcore⟩
    rw [Function.iterate_succ_apply, ih htick.1, htick.2]

/-! ### Loads -/

section

variable {b loaded : Battle size} {first second : List Cell} {start : Address size} {gap : Nat}

/-- After a load each player is on the first cell of the player's warrior. -/
lemma Loaded.fetches (h : b.Loaded first second start gap loaded) (hfirst : first ≠ [])
    (hsecond : second ≠ []) {P : Cell → Prop} (hcells : ∀ c ∈ first ++ second, P c) :
    loaded.machine.Fetches P := by
  intro p
  rw [Machine.fetched, h.fetchAddress]
  cases p with
  | a =>
    have hget := h.firstCells 0 (List.length_pos_iff.mpr hfirst)
    rw [Address.advance_zero] at hget
    exact hget ▸ hcells _ (List.mem_append_left _ (List.getElem_mem _))
  | b =>
    have hget := h.secondCells 0 (List.length_pos_iff.mpr hsecond)
    rw [Address.advance_zero] at hget
    exact hget ▸ hcells _ (List.mem_append_right _ (List.getElem_mem _))

lemma Loaded.peaceful (h : b.Loaded first second start gap loaded)
    (hconsistent : loaded.Consistent) (hfirst : first ≠ []) (hsecond : second ≠ [])
    {P : Cell → Prop} (hcells : ∀ c ∈ first ++ second, P c) : loaded.Peaceful P := by
  refine ⟨h.fetches hfirst hsecond hcells, hconsistent, ?_⟩
  rw [h.status]
  decide

lemma Loaded.marching (h : b.Loaded first second start gap loaded)
    (hpeaceful : loaded.Peaceful Cell.IsImp) : loaded.Marching := by
  refine ⟨hpeaceful, fun p => ?_⟩
  rw [h.cycle, Int64.toInt_zero, Int.add_zero, Machine.fetchAddress, h.ip]
  rfl

end

/-- A match between warriors that consist of imps and of cells that jump to themselves is a draw,
wherever they are placed and however long it lasts: nobody loses, all cycles are used up, and when
either player moves both are on such cells. Imps go on by a cell in each cycle, and cells that jump
to themselves leave the core as it is. -/
theorem drawn_of_undying {b loaded : Battle size} {first second : List Cell}
    (hload : b.LoadsTo first second loaded) (hfirst : first ≠ []) (hsecond : second ≠ [])
    (hcells : ∀ c ∈ first ++ second, c.Undying) :
    (loaded.run.status = .drawn ∧ loaded.run.snapshot.loser = .nobody ∧
      loaded.run.cycle.toInt = max b.maxCycle.toInt 0) ∧
    (∀ k, (tick^[k] loaded).cycle.toInt = min (k : Int) (max b.maxCycle.toInt 0)) ∧
    (∀ k p q, (((tick^[k] loaded).machine.atTurnOf q).fetched p).Undying) ∧
    ((∀ c ∈ first ++ second, c.IsImp) → ∀ k p, ((tick^[k] loaded).machine.ip.get p).toInt =
      ((loaded.origin.get p).toInt + (tick^[k] loaded).cycle.toInt) % size.count) ∧
    ((∀ c ∈ first ++ second, c.IsSpin) →
      ∀ k q, ((tick^[k] loaded).machine.atTurnOf q).core = loaded.machine.core) := by
  obtain ⟨hfit, start, gap, generator, hgap, rfl⟩ := hload
  have hloaded := b.loaded_place hfit start hgap generator
  have hconsistent := b.consistent_place first second start gap generator
  set loaded : Battle size := { b.place first second start gap with generator := generator }
  have hkind := Cell.undyingKind_undying
  have hpeaceful := hloaded.peaceful hconsistent hfirst hsecond hcells
  refine ⟨?_, ?_, ?_, ?_, ?_⟩
  · have hrun : loaded.run.Peaceful Cell.Undying ∧ loaded.run.maxCycle = b.maxCycle := by
      refine run_induction (P := fun b' => b'.Peaceful Cell.Undying ∧ b'.maxCycle = b.maxCycle)
        ?_ ⟨hpeaceful, hloaded.maxCycle⟩
      rintro b' ⟨hb', hmax⟩
      exact ⟨hb'.of_ticked hkind (ticked_tick b'), (ticked_tick b').maxCycle_eq.trans hmax⟩
    obtain ⟨hend, hmax⟩ := hrun
    obtain ⟨hdrawn, hcycle⟩ := hend.cycle_of_over loaded.status_run_ne_running
    refine ⟨hdrawn, ?_, hmax ▸ hcycle⟩
    exact not_not.mp fun hloser => hend.status_ne (hend.consistent.loser_ne_nobody_iff.mp hloser)
  · intro k
    rw [hpeaceful.cycle_iterate_tick hkind, hloaded.cycle, hloaded.maxCycle, Int64.toInt_zero,
      Int.zero_add]
  · intro k p q
    exact (hpeaceful.iterate_tick hkind k).fetches.atTurnOf hkind q p
  · intro himps k p
    have hmarching := hloaded.marching (hloaded.peaceful hconsistent hfirst hsecond himps)
    rw [(hmarching.iterate_tick k).toInt_ip, origin_iterate_tick]
  · intro hspins k q
    have hspinning := hloaded.peaceful hconsistent hfirst hsecond hspins
    have hcore := core_iterate_tick_of_isSpin hspinning.fetches k
    cases q with
    | a => exact hcore
    | b =>
      have hfetches := (hspinning.iterate_tick Cell.undyingKind_isSpin k).fetches
      exact (Machine.core_step_of_isSpin (hfetches .a)).trans hcore

/-- An imp behind a cell that jumps to itself, and two imps that go round the end of the core. -/
theorem drawn_of_undying_overrun :
    let b : Battle ⟨3, by decide, by decide⟩ :=
      { (blank ⟨0⟩ : Battle ⟨3, by decide, by decide⟩) with maxCycle := 4 }
    let mixed := b.place [Cell.imp] [Cell.spin] 0 0
    let imps := b.place [Cell.imp] [Cell.imp] 1 1
    (∀ c ∈ [Cell.imp] ++ [Cell.spin], c.Undying) ∧
      (mixed.run.status = .drawn ∧ mixed.run.cycle.toInt = 4) ∧
      (mixed.machine.fetched .b).IsSpin ∧ ((tick^[1] mixed).machine.fetched .b).IsImp ∧
      (∀ c ∈ [Cell.imp] ++ [Cell.imp], c.IsImp) ∧
      ((tick^[3] imps).machine.ip.get .a).toInt = (1 + 3) % 3 ∧
      ((tick^[3] imps).machine.ip.get .b).toInt = (0 + 3) % 3 := by
  intro b mixed imps
  have hmixed : ∀ c ∈ [Cell.imp] ++ [Cell.spin], c.Undying := by
    intro c hc
    rcases List.mem_pair.mp hc with rfl | rfl
    · exact .inl (.refl _)
    · exact .inr (.refl _)
  have himps : ∀ c ∈ [Cell.imp] ++ [Cell.imp], c.IsImp := by
    intro c hc
    rcases List.mem_pair.mp hc with rfl | rfl <;> exact .refl _
  have hmixedLoad : b.LoadsTo [Cell.imp] [Cell.spin] mixed :=
    ⟨by decide, 0, 0, ⟨0⟩, by decide, rfl⟩
  have himpsLoad : b.LoadsTo [Cell.imp] [Cell.imp] imps :=
    ⟨by decide, 1, 1, ⟨0⟩, by decide, rfl⟩
  obtain ⟨⟨hdrawn, -, hcycle⟩, -⟩ := drawn_of_undying hmixedLoad (by decide) (by decide) hmixed
  obtain ⟨-, hcount, -, hip, -⟩ :=
    drawn_of_undying himpsLoad (by decide) (by decide) fun c hc => .inl (himps c hc)
  refine ⟨hmixed, ⟨hdrawn, hcycle⟩, .refl _, ?_, himps, ?_, ?_⟩
  · exact ⟨by decide +kernel, by decide +kernel, by decide +kernel⟩
  · rw [hip himps 3 .a, hcount 3]
    rfl
  · rw [hip himps 3 .b, hcount 3]
    rfl

end Battle

end CoreWar
