import CoreWar.Proofs.Assembler.Progress
import CoreWar.Proofs.Cell.Legal

/-!
# Assembled cells are legal

No line of a source can be assembled to a cell with an illegal opcode or mode: a sigil that names no
way of addressing is no part of an operand, and a word that names no operation starts no
instruction. Every assembled cell belongs to the player that the source is assembled for.
-/

namespace CoreWar

namespace Assembler

lemma isLegal_of_operand {w : Line.Written} {o : Operand} (h : kept (operand w) = .ok o) :
    o.mode.isLegal = true := by
  unfold operand at h
  split at h
  · cases h
    exact Mode.isLegal_ofAddressing w.addressing
  · cases h

/-- Operands that can be read give a cell of their operation with legal modes. -/
lemma exists_of_assembleOperands {owner : Owner} {op : Operation} {t : Text} {c : Cell}
    (h : assembleOperands owner op t = .ok c) :
    ∃ x y : Operand, x.mode.isLegal = true ∧ y.mode.isLegal = true ∧
      c = ⟨.ofOperation op, x, y, owner⟩ := by
  rw [assembleOperands_eq] at h
  split_ifs at h
  split at h
  · cases h
  · rename_i a b _
    cases hx : kept (operand a) with
    | error cause =>
      rw [hx] at h
      cases h
    | ok x =>
      cases hy : kept (operand (b.getD a)) with
      | error cause =>
        rw [hx, hy] at h
        cases h
      | ok y =>
        rw [hx, hy] at h
        cases h
        exact ⟨x, y, isLegal_of_operand hx, isLegal_of_operand hy, rfl⟩

variable {I : Interpreter}

/-- The cell of a line is one that operands give. -/
lemma exists_assembleOperands_of_assembleLine {owner : Owner} {equate? : Text → Option Int64}
    {lineNo : Nat} {line : Text} {t : Trace}
    (h : assembleLine I owner equate? lineNo line = some t) {c : Cell} (hc : t.outcome = .ok c) :
    ∃ op operands, assembleOperands owner op operands = .ok c := by
  rw [assembleLine_eq] at h
  obtain ⟨⟨mnemonic, rest⟩, -, h⟩ := Option.bind_eq_some_iff.mp h
  obtain ⟨op, -, h⟩ := Option.bind_eq_some_iff.mp h
  split at h
  · cases h
    cases hc
  · rename_i operands _
    cases h
    rw [Trace.outcome_ofOutcome] at hc
    exact ⟨op, operands, hc⟩

/-- Every cell of an assembled warrior is one that operands give. -/
lemma exists_assembleOperands_of_mem_cells (asm : Assembler) (owner : Owner) (s : Source) {c : Cell}
    (h : c ∈ (asm.assemble I owner s).1.program.cells) :
    ∃ op operands, assembleOperands owner op operands = .ok c := by
  rw [program_assemble, traces_assemble] at h
  obtain ⟨i, hi, rfl⟩ := List.mem_map.mp h
  obtain ⟨t, ht, hti⟩ := List.mem_filterMap.mp hi
  obtain ⟨line, -, hline⟩ := List.mem_filterMap.mp ht
  have hc : t.outcome = .ok i.cell := by
    unfold Trace.instruction? at hti
    split at hti
    · rename_i c hc
      cases hti
      exact hc
    · cases hti
  exact exists_assembleOperands_of_assembleLine hline hc

/-- Every cell of an assembled warrior is legal. -/
lemma isLegal_of_mem_cells (asm : Assembler) (owner : Owner) (s : Source) {c : Cell}
    (h : c ∈ (asm.assemble I owner s).1.program.cells) : c.isLegal = true := by
  obtain ⟨op, operands, hop⟩ := exists_assembleOperands_of_mem_cells asm owner s h
  obtain ⟨x, y, hx, hy, rfl⟩ := exists_of_assembleOperands hop
  exact Cell.isLegal_iff.mpr ⟨Opcode.isLegal_ofOperation op, hx, hy⟩

/-- Every cell of an assembled warrior belongs to the player that it was assembled for. -/
lemma owner_of_mem_cells (asm : Assembler) (owner : Owner) (s : Source) {c : Cell}
    (h : c ∈ (asm.assemble I owner s).1.program.cells) : c.owner = owner := by
  obtain ⟨op, operands, hop⟩ := exists_assembleOperands_of_mem_cells asm owner s h
  obtain ⟨x, y, -, -, rfl⟩ := exists_of_assembleOperands hop
  rfl

end Assembler

end CoreWar
