import CoreWar.Proofs.Machine.Step

/-!
# When a turn fails

Modes and opcodes are any words. A turn finds out about them one after the other: the mode of
operand A, then that of operand B, when A may have been resolved already, and the opcode last. All
the same the fault of a turn can be read off the cell that it fetches (`fault_step`), and a turn
that fails has only taken note of where and what it has fetched (`step_fault_exact`).
-/

namespace CoreWar

variable {size : CoreSize}

/-! ### Cells -/

namespace Cell

def ModesInRange (c : Cell) : Prop :=
  (0 ≤ c.a.mode.code.toInt ∧ c.a.mode.code.toInt < 3) ∧
    (0 ≤ c.b.mode.code.toInt ∧ c.b.mode.code.toInt < 3)

def OpcodeInRange (c : Cell) : Prop :=
  0 ≤ c.opcode.code.toInt ∧ c.opcode.code.toInt < 8

instance (c : Cell) : Decidable c.ModesInRange :=
  inferInstanceAs (Decidable (_ ∧ _))

instance (c : Cell) : Decidable c.OpcodeInRange :=
  inferInstanceAs (Decidable (_ ∧ _))

/-- Why a cell cannot be executed, if it cannot. Its modes are looked at before its opcode. -/
def fault? (c : Cell) : Option Fault :=
  if c.ModesInRange then
    if c.opcode = .ofOperation .dat then some .datExecuted
    else if c.OpcodeInRange then none
    else some .illegalOpcode
  else some .illegalMode

lemma modesInRange_iff {c : Cell} :
    c.ModesInRange ↔ c.a.mode.isLegal = true ∧ c.b.mode.isLegal = true := by
  rw [ModesInRange, Mode.isLegal_iff_code, Mode.isLegal_iff_code]

lemma opcodeInRange_iff {c : Cell} : c.OpcodeInRange ↔ ∃ op, c.opcode = .ofOperation op := by
  rw [OpcodeInRange, ← Opcode.isLegal_iff_code, Opcode.isLegal_iff]

lemma opcodeInRange_of_dat {c : Cell} (h : c.opcode = .ofOperation .dat) : c.OpcodeInRange :=
  opcodeInRange_iff.mpr ⟨.dat, h⟩

lemma fault?_eq_illegalMode_iff {c : Cell} :
    c.fault? = some .illegalMode ↔ ¬c.ModesInRange := by
  unfold fault?
  split_ifs with hmodes <;> simp [hmodes]

lemma fault?_eq_datExecuted_iff {c : Cell} :
    c.fault? = some .datExecuted ↔ c.ModesInRange ∧ c.opcode = .ofOperation .dat := by
  unfold fault?
  split_ifs with hmodes hdat hop
  · simp [hmodes, hdat]
  · simp [hdat]
  · simp [hdat]
  · simp [hmodes]

lemma fault?_eq_illegalOpcode_iff {c : Cell} :
    c.fault? = some .illegalOpcode ↔ c.ModesInRange ∧ ¬c.OpcodeInRange := by
  unfold fault?
  split_ifs with hmodes hdat hop
  · simp [opcodeInRange_of_dat hdat]
  · simp [hop]
  · simp [hmodes, hop]
  · simp [hmodes]

lemma fault?_eq_none_iff {c : Cell} :
    c.fault? = none ↔ c.ModesInRange ∧ c.OpcodeInRange ∧ c.opcode ≠ .ofOperation .dat := by
  unfold fault?
  split_ifs with hmodes hdat hop
  · simp [hdat]
  · simp [hmodes, hop, hdat]
  · simp [hop]
  · simp [hmodes]

end Cell

/-! ### Turns -/

namespace Machine

lemma resolve_of_illegal (core : Core size) (ip : Int64) {o : Operand}
    (ho : ¬o.mode.isLegal = true) : resolve core ip o = none := by
  have hnone : o.mode.addressing? = none := Option.not_isSome_iff_eq_none.mp ho
  simp only [resolve, hnone]

lemma turn_of_illegal_mode {core : Core size} {ip : Address size} (p : Player)
    (h : ¬(core.get ip).ModesInRange) : turn core p ip = .error .illegalMode := by
  rw [Cell.modesInRange_iff, not_and_or] at h
  have hnone : ∀ {o : Operand}, ¬o.mode.isLegal = true → resolve core ip.word o = none :=
    resolve_of_illegal core ip.word
  exact turn_of_unresolved (h.imp hnone hnone)

lemma effect_of_illegal_opcode (core : Core size) (p : Player) {ins : Cell}
    (h : ¬ins.OpcodeInRange) (ip x y : Address size) :
    effect core p ins ip x y = .error .illegalOpcode := by
  have hnone : ins.opcode.operation? = none := by
    rw [← Option.not_isSome_iff_eq_none]
    exact fun hsome => h (Opcode.isLegal_iff_code.mp hsome)
  simp only [effect, hnone]

lemma effect_of_dat (core : Core size) (p : Player) {ins : Cell}
    (h : ins.opcode = .ofOperation .dat) (ip x y : Address size) :
    effect core p ins ip x y = .error .datExecuted := by
  simp only [effect, h, Opcode.operation?_ofOperation]

lemma exists_effect_of_opcode (core : Core size) (p : Player) {ins : Cell}
    (h : ins.OpcodeInRange) (hdat : ins.opcode ≠ .ofOperation .dat) (ip x y : Address size) :
    ∃ e, effect core p ins ip x y = .ok e := by
  obtain ⟨op, hop⟩ := Cell.opcodeInRange_iff.mp h
  simp only [effect, hop, Opcode.operation?_ofOperation]
  cases op with
  | dat => exact absurd hop hdat
  | mov | add | sub | jmp | jmz | djz | cmp => exact ⟨_, rfl⟩

/-- A turn fails as the cell that it fetches says. -/
lemma turn_eq_error_iff {core : Core size} {p : Player} {ip : Address size} {f : Fault} :
    turn core p ip = .error f ↔ (core.get ip).fault? = some f := by
  unfold Cell.fault?
  by_cases hmodes : (core.get ip).ModesInRange
  · obtain ⟨ha, hb⟩ := Cell.modesInRange_iff.mp hmodes
    obtain ⟨x, y, hturn⟩ := exists_turn_of_modes p ha hb
    rw [hturn, if_pos hmodes]
    split_ifs with hdat hop
    · rw [effect_of_dat core p hdat, Except.error.injEq, Option.some.injEq]
    · obtain ⟨e, he⟩ := exists_effect_of_opcode core p hop hdat ip x y
      simp [he]
    · rw [effect_of_illegal_opcode core p hop, Except.error.injEq, Option.some.injEq]
  · rw [turn_of_illegal_mode p hmodes, if_neg hmodes, Except.error.injEq, Option.some.injEq]

/-- The fault of a turn is that of the cell that it fetches. -/
lemma fault_step (m : Machine size) (p : Player) : (m.step p).2 = (m.fetched p).fault? := by
  rcases step_cases m p with ⟨f, hturn, hstep⟩ | ⟨e, hturn, hstep⟩
  · rw [hstep]
    exact (turn_eq_error_iff.mp hturn).symm
  · rw [hstep]
    refine (Option.eq_none_iff_forall_ne_some.mpr fun f hf => ?_).symm
    cases hturn.symm.trans (turn_eq_error_iff.mpr hf)

/-- A turn that fails has only taken note of where and what it has fetched. -/
lemma step_of_fault {m : Machine size} {p : Player} (h : (m.step p).2 ≠ none) :
    (m.step p).1 = ⟨m.core, m.ip.set p (m.fetchAddress p).word, m.last.set p (m.fetched p)⟩ := by
  rcases step_cases m p with ⟨f, -, hstep⟩ | ⟨e, -, hstep⟩
  · rw [hstep]
  · rw [hstep] at h
    exact absurd rfl h

/-- A turn fails because of a mode exactly if one of the two modes of the cell under the pointer is
illegal, whatever its opcode is; else because of data exactly if it holds data; and else because of
the opcode exactly if that is illegal. It never fails for any other reason, and a turn that fails
leaves everything as it was but for the pointer, which it puts on the address of the cell, and the
cell, which it records. -/
theorem step_fault_exact (m : Machine size) (p : Player) :
    let ins := m.core.get (.ofInt (m.ip.get p).toInt)
    let m' := (m.step p).1
    ((m.step p).2 = some .illegalMode ↔ ¬ins.ModesInRange) ∧
    ((m.step p).2 = some .datExecuted ↔ ins.ModesInRange ∧ ins.opcode = .ofOperation .dat) ∧
    ((m.step p).2 = some .illegalOpcode ↔ ins.ModesInRange ∧ ¬ins.OpcodeInRange) ∧
    ((m.step p).2 = none ↔
      ins.ModesInRange ∧ ins.OpcodeInRange ∧ ins.opcode ≠ .ofOperation .dat) ∧
    ((m.step p).2 ≠ none →
      m'.core = m.core ∧
      (m'.ip.get p.other = m.ip.get p.other ∧ m'.last.get p.other = m.last.get p.other) ∧
      (m'.ip.get p).toInt = (m.ip.get p).toInt % size.count ∧ m'.last.get p = ins) := by
  intro ins m'
  have hfault : (m.step p).2 = ins.fault? := fault_step m p
  refine ⟨?_, ?_, ?_, ?_, ?_⟩
  · rw [hfault, Cell.fault?_eq_illegalMode_iff]
  · rw [hfault, Cell.fault?_eq_datExecuted_iff]
  · rw [hfault, Cell.fault?_eq_illegalOpcode_iff]
  · rw [hfault, Cell.fault?_eq_none_iff]
  · intro h
    have hstep : m' = ⟨m.core, m.ip.set p (m.fetchAddress p).word, m.last.set p ins⟩ :=
      step_of_fault h
    rw [hstep, Sides.get_set_self, Sides.get_set_self, Sides.get_set_other, Sides.get_set_other,
      Address.toInt_word, fetchAddress, Address.wrap, Address.val_ofInt]
    exact ⟨rfl, ⟨rfl, rfl⟩, rfl, rfl⟩

/-- An illegal opcode with an operand A that is resolved before the mode of operand B is found to be
illegal. -/
theorem step_fault_exact_second_mode :
    let ins : Cell := ⟨⟨9⟩, ⟨.ofAddressing .indirect, 1⟩, ⟨⟨-7⟩, 0⟩, .nobody⟩
    let m : Machine ⟨3, by decide, by decide⟩ := ⟨.fill ins, ⟨-1, 5⟩, .both .zero⟩
    (m.step .a).2 ≠ none ∧ (m.step .a).2 = some .illegalMode ∧ (m.step .a).1.core = m.core ∧
      ((m.step .a).1.ip.get .a).toInt = 2 ∧ (m.step .a).1.last.get .a = ins := by
  intro ins m
  have hmodes : ¬ins.ModesInRange := by decide
  have hfails : (m.step .a).2 ≠ none := by decide
  obtain ⟨hmode, -, -, -, hframe⟩ := step_fault_exact m .a
  obtain ⟨hcore, -, hip, hlast⟩ := hframe hfails
  exact ⟨hfails, hmode.mpr hmodes, hcore, hip, hlast⟩

end Machine

end CoreWar
