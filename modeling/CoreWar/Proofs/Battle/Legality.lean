import CoreWar.Proofs.Assembler.Legal
import CoreWar.Proofs.Battle.Load
import CoreWar.Proofs.Battle.Tick
import CoreWar.Script.Interpreter

/-!
# Legal cores

A turn writes nothing but B fields and copies of cells, so it cannot make a cell illegal, however
long the warriors write over themselves and each other. In a core of legal cells the only fault is
to execute data. A match between assembled warriors starts in such a core, and is therefore drawn or
lost by whoever executes data (`legal_of_assembled`).
-/

namespace CoreWar

variable {size : CoreSize}

/-! ### Cores -/

namespace Core

/-- Every cell is legal. -/
def Legal (core : Core size) : Prop :=
  ∀ x, (core.get x).isLegal = true

lemma legal_blank : (blank : Core size).Legal := by
  intro x
  rw [get_blank]
  exact Cell.isLegal_empty

lemma Legal.set {core : Core size} (h : core.Legal) (x : Address size) {c : Cell}
    (hc : c.isLegal = true) : (core.set x c).Legal := by
  intro y
  rw [get_set]
  split_ifs
  · exact hc
  · exact h y

lemma Legal.setFrom {core : Core size} (h : core.Legal) (x : Address size) {cells : List Cell}
    (hcells : ∀ c ∈ cells, c.isLegal = true) : (core.setFrom x cells).Legal := by
  induction cells generalizing core x with
  | nil => exact h
  | cons c cells ih =>
    exact ih (h.set x (hcells c List.mem_cons_self)) (x.advance 1)
      fun c' hc' => hcells c' (List.mem_cons_of_mem c hc')

end Core

/-! ### Turns -/

namespace Machine

variable {m : Machine size} {p : Player}

/-- A turn in a legal core is the effect of its instruction. -/
lemma exists_turn_eq_effect {core : Core size} (h : core.Legal) (p : Player) (ip : Address size) :
    ∃ x y, turn core p ip = effect core p (core.get ip) ip x y := by
  obtain ⟨-, ha, hb⟩ := Cell.isLegal_iff.mp (h ip)
  exact exists_turn_of_modes p ha hb

lemma legal_of_effect {core : Core size} (h : core.Legal) {ins : Cell} {ip x y : Address size}
    {e : Effect size} (he : effect core p ins ip x y = .ok e) : (e.apply core).Legal := by
  obtain ⟨op, hop, -⟩ := exists_operation_of_effect he
  rcases effect_cases hop he with ⟨-, hw⟩ | ⟨-, f, hw⟩ | ⟨-, -, -, hw⟩
  · rw [Effect.apply_of_none hw]
    exact h
  · rw [Effect.apply_of_some hw]
    exact h.set y (h y)
  · rw [Effect.apply_of_some hw]
    exact h.set y (h x)

/-- A legal instruction fails only if it holds data. -/
lemma eq_datExecuted_of_effect {core : Core size} {ins : Cell} (hins : ins.isLegal = true)
    {ip x y : Address size} {f : Fault} (h : effect core p ins ip x y = .error f) :
    f = .datExecuted := by
  obtain ⟨op, hop⟩ := Opcode.isLegal_iff.mp (Cell.isLegal_iff.mp hins).1
  unfold effect at h
  simp only [hop, Opcode.operation?_ofOperation] at h
  cases op with
  | dat =>
    cases h
    rfl
  | mov | add | sub | jmp | jmz | djz | cmp => cases h

lemma legal_step (h : m.core.Legal) (p : Player) : (m.step p).1.core.Legal := by
  rcases step_cases m p with ⟨f, -, hstep⟩ | ⟨e, hturn, hstep⟩
  · rw [hstep]
    exact h
  · obtain ⟨x, y, hxy⟩ := exists_turn_eq_effect h p (m.fetchAddress p)
    rw [hstep]
    exact legal_of_effect h (hxy.symm.trans hturn)

lemma eq_datExecuted_of_step (h : m.core.Legal) {f : Fault} (hf : (m.step p).2 = some f) :
    f = .datExecuted := by
  rcases step_cases m p with ⟨g, hturn, hstep⟩ | ⟨e, -, hstep⟩
  · obtain ⟨x, y, hxy⟩ := exists_turn_eq_effect h p (m.fetchAddress p)
    rw [hstep] at hf
    cases hf
    exact eq_datExecuted_of_effect (h _) (hxy.symm.trans hturn)
  · rw [hstep] at hf
    cases hf

def stepAll (m : Machine size) (ps : List Player) : Machine size :=
  ps.foldl (fun m p => (m.step p).1) m

lemma legal_stepAll (h : m.core.Legal) (ps : List Player) : (m.stepAll ps).core.Legal := by
  induction ps generalizing m with
  | nil => exact h
  | cons p ps ih => exact ih (legal_step h p)

end Machine

/-! ### Matches -/

namespace Battle

/-- The core is legal, and the match goes on, is drawn, or was lost by executing data. -/
structure Lawful (b : Battle size) : Prop where
  core : b.machine.core.Legal
  verdict : b.status = .running ∨ b.status = .drawn ∨
    b.status = .aborted ∧ b.reason = .ofFault .datExecuted

lemma Lawful.of_ticked {b b' : Battle size} (h : b.Lawful) (ht : Ticked b b') : b'.Lawful := by
  have hstep : ∀ (m : Machine size) (p : Player), m.core.Legal → (m.step p).1.core.Legal :=
    fun m p hm => Machine.legal_step hm p
  refine ⟨ht.machine_induction (P := fun m => m.core.Legal) hstep h.core, ?_⟩
  cases ht with
  | ended _ => exact h.verdict
  | capped _ _ => exact Or.inr (Or.inl rfl)
  | @aborted p f hfails =>
    have hturn : (b.machine.atTurnOf p).core.Legal :=
      Machine.atTurnOf_induction (P := fun m => m.core.Legal) hstep h.core p
    obtain rfl := Machine.eq_datExecuted_of_step hturn hfails.fault
    exact Or.inr (Or.inr ⟨rfl, rfl⟩)
  | completed hrun _ _ _ =>
    unfold completeCycle
    split_ifs
    · exact Or.inr (Or.inl rfl)
    · exact Or.inl hrun

lemma Lawful.iterate_tick {b : Battle size} (h : b.Lawful) (n : Nat) : (tick^[n] b).Lawful :=
  Function.Iterate.rec Lawful h (fun b hb => hb.of_ticked (ticked_tick b)) n

/-- A load of legal warriors starts a lawful match. -/
lemma lawful_of_loadsTo {b loaded : Battle size} {first second : List Cell}
    (h : b.LoadsTo first second loaded) (hfirst : ∀ c ∈ first, c.isLegal = true)
    (hsecond : ∀ c ∈ second, c.isLegal = true) : loaded.Lawful := by
  obtain ⟨-, start, gap, generator, -, rfl⟩ := h
  exact ⟨(Core.legal_blank.setFrom _ hfirst).setFrom _ hsecond, Or.inl rfl⟩

/-- In a match between assembled warriors every cell stays legal, wherever they are placed and
however long they fight. Nobody ever meets an illegal mode or opcode, and the match ends in a draw
or with the execution of data. -/
theorem legal_of_assembled (I : Interpreter) (asmA asmB : Assembler) (ownerA ownerB : Owner)
    (sourceA sourceB : Source) {b loaded : Battle size}
    (h : b.LoadsTo (asmA.assemble I ownerA sourceA).1.program.cells
      (asmB.assemble I ownerB sourceB).1.program.cells loaded) :
    (∀ n x, ((tick^[n] loaded).machine.core.get x).isLegal = true) ∧
      (∀ n ps p, (((tick^[n] loaded).machine.stepAll ps).step p).2 ≠ some .illegalMode ∧
        (((tick^[n] loaded).machine.stepAll ps).step p).2 ≠ some .illegalOpcode) ∧
      (loaded.run.status = .drawn ∨
        loaded.run.status = .aborted ∧ loaded.run.reason = .ofFault .datExecuted) := by
  have hlawful : loaded.Lawful := lawful_of_loadsTo h
    (fun _ hc => asmA.isLegal_of_mem_cells ownerA sourceA hc)
    (fun _ hc => asmB.isLegal_of_mem_cells ownerB sourceB hc)
  refine ⟨fun n x => (hlawful.iterate_tick n).core x, ?_, ?_⟩
  · intro n ps p
    have hcore := Machine.legal_stepAll (hlawful.iterate_tick n).core ps
    constructor
    · intro hf
      cases Machine.eq_datExecuted_of_step hcore hf
    · intro hf
      cases Machine.eq_datExecuted_of_step hcore hf
  · have hrun : loaded.run.Lawful :=
      run_induction (fun b hb => hb.of_ticked (ticked_tick b)) hlawful
    exact hrun.verdict.resolve_left loaded.status_run_ne_running

/-- A match between an imp and a warrior with a line that is skipped. -/
theorem legal_of_assembled_imp :
    let first := (Assembler.new.assemble Script.standard (.ofPlayer .a)
      ⟨"MOV 0, 1", none⟩).1.program.cells
    let second := (Assembler.new.assemble Script.standard (.ofPlayer .b)
      ⟨"add #4, 3\nJMP %1\nJMP @-1", none⟩).1.program.cells
    ∃ loaded : Battle ⟨8, by decide, by decide⟩, first.length = 1 ∧ second.length = 2 ∧
      (blank ⟨0⟩).load first second = (loaded, none) ∧
      (loaded.run.status = .drawn ∨
        loaded.run.status = .aborted ∧ loaded.run.reason = .ofFault .datExecuted) := by
  intro first second
  have hfirst : first.length = 1 := by decide +kernel
  have hsecond : second.length = 2 := by decide +kernel
  have hfit : first.length + second.length ≤ 8 := by omega
  obtain ⟨loaded, hload⟩ :=
    (blank ⟨0⟩ : Battle ⟨8, by decide, by decide⟩).exists_load_of_fits hfit
  have hend := (legal_of_assembled Script.standard _ _ _ _ _ _ (loadsTo_of_load hload)).2.2
  exact ⟨loaded, hfirst, hsecond, hload, hend⟩

end Battle

end CoreWar
