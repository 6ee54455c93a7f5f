import CoreWar.Proofs.Assembler.Legal
import CoreWar.Proofs.Source.Expansion
import CoreWar.Proofs.Source.Lines
import CoreWar.Script.Interpreter

/-!
# Disassembly

Cells that are written one to a line are assembled to the legal ones among them: what stands for an
illegal opcode is no mnemonic, and what stands for an illegal mode is no operand. The cells that any
source is assembled to are assembled again from what they are written as (`assemble_disassembly`).
-/

namespace CoreWar

lemma field?_toInt (f : Int32) : field? f.toInt = some f := by
  rw [field?, if_pos ⟨f.minValue_le_toInt, f.toInt_le⟩, Int32.ofInt_toInt]

/-! ### A cell as a line -/

lemma Cell.readable_render (c : Cell) : Source.Readable c.render where
  ne_nil := by simp [Line.render_eq_append_operandText, Line.operandText]
  notMem_feed := notMem_render (by decide) (by decide) c
  getLast?_ne_return := fun h =>
    notMem_render (by decide) (by decide) c (List.mem_of_getLast? h)
  fits := decide_eq_true (Nat.lt_of_le_of_lt c.length_render_le (by decide))

namespace Line

lemma withoutComment_render (c : Cell) : withoutComment c.render = c.render := by
  have hsemicolon : ';'.toUInt8 ∉ c.render := Cell.notMem_render (by decide) (by decide) c
  exact List.takeWhile_eq_self_iff.mpr fun b hb => Text.bne_of_mem hsemicolon hb

lemma word?_mnemonic_append (op : Operation) (a b : Operand) :
    word? (op.mnemonic ++ operandText a b) = some (op.mnemonic, operandText a b) := by
  cases op <;> rfl

/-- What stands for an illegal opcode starts with a word. -/
lemma word?_render_of_illegal {o : Opcode} (ho : o.operation? = none) (rest : Text) :
    ∃ rest', word? (o.render ++ rest) = some (("Opcode" : Text), rest') := by
  simp only [Opcode.render, ho, List.append_assoc]
  exact ⟨_, rfl⟩

end Line

lemma Operation.ofMnemonic?_mnemonic (op : Operation) : ofMnemonic? op.mnemonic = some op := by
  cases op <;> rfl

namespace Assembler

variable (I : Interpreter) (owner : Owner) (equate? : Text → Option Int64) (lineNo : Nat)

lemma any_isDigit_operandText (a b : Operand) :
    (Line.operandText a b).any Text.isDigit = true := by
  obtain ⟨d, hd, hdigit⟩ := Text.exists_isDigit_mem_ofInt b.field.toInt
  refine List.any_eq_true.mpr ⟨d, ?_, hdigit⟩
  simp [Line.operandText, Operand.render, hd]

/-- The operands of a cell with legal modes are assembled to themselves. -/
lemma assembleOperands_of_legal (op : Operation) {a b : Operand} {α β : Addressing}
    (ha : a.mode = .ofAddressing α) (hb : b.mode = .ofAddressing β) :
    assembleOperands owner op (Line.operandText a b) = .ok ⟨.ofOperation op, a, b, owner⟩ := by
  obtain ⟨modeA, fieldA⟩ := a
  obtain ⟨modeB, fieldB⟩ := b
  cases ha
  cases hb
  rw [assembleOperands_eq, any_isDigit_operandText, Line.operands?_operandText_of_legal rfl rfl]
  simp only [operand, Option.getD_some, field?_toInt]
  rfl

lemma assembleOperands_of_illegal (op : Operation) {a b : Operand}
    (h : a.mode.addressing? = none ∨ b.mode.addressing? = none) :
    assembleOperands owner op (Line.operandText a b) = .error .operandSyntax := by
  rw [assembleOperands_eq, any_isDigit_operandText, Line.operands?_operandText_of_illegal h]
  rfl

lemma assembleLine_of_illegal {c : Cell} (hc : c.opcode.operation? = none) :
    assembleLine I owner equate? lineNo c.render = none := by
  obtain ⟨rest, hword⟩ := Line.word?_render_of_illegal hc (Line.operandText c.a c.b)
  rw [assembleLine_eq, Line.render_eq_append_operandText, hword]
  rfl

/-- A cell with a legal opcode is assembled as its operands are. -/
lemma assembleLine_of_operation {c : Cell} {op : Operation} (hc : c.opcode.operation? = some op) :
    ∃ t, assembleLine I owner equate? lineNo c.render = some t ∧ t.lineNo = lineNo ∧
      t.outcome = assembleOperands owner op (Line.operandText c.a c.b) := by
  have hrender : c.render = op.mnemonic ++ Line.operandText c.a c.b := by
    rw [Line.render_eq_append_operandText, Opcode.render, hc]
  have hplain := Expansion.expand_of_plain I equate? (Expansion.plain_operandText c.a c.b)
  rw [assembleLine_eq, hrender, Line.word?_mnemonic_append]
  simp only [Option.bind_some, Operation.ofMnemonic?_mnemonic, hplain]
  exact ⟨_, rfl, Trace.lineNo_ofOutcome .., Trace.outcome_ofOutcome ..⟩

/-- The line of a legal cell gives this cell. -/
lemma assembleLine_of_isLegal {c : Cell} (hc : c.isLegal = true) :
    ∃ t, assembleLine I owner equate? lineNo c.render = some t ∧ t.lineNo = lineNo ∧
      t.outcome = .ok { c with owner := owner } := by
  obtain ⟨hop, ha, hb⟩ := Cell.isLegal_iff.mp hc
  obtain ⟨op, hop⟩ := Opcode.isLegal_iff.mp hop
  obtain ⟨α, ha⟩ := Mode.isLegal_iff.mp ha
  obtain ⟨β, hb⟩ := Mode.isLegal_iff.mp hb
  obtain ⟨t, ht, hlineNo, houtcome⟩ := assembleLine_of_operation I owner equate? lineNo
    (Opcode.operation?_eq_some_iff.mpr hop)
  refine ⟨t, ht, hlineNo, ?_⟩
  rw [houtcome, assembleOperands_of_legal owner op ha hb, ← hop]

/-- The line of an illegal cell gives none. -/
lemma outcome_of_not_isLegal {c : Cell} (hc : ¬c.isLegal = true) {t : Trace}
    (ht : assembleLine I owner equate? lineNo c.render = some t) :
    ∃ cause, t.outcome = .error cause := by
  cases hop : c.opcode.operation? with
  | none => simp [assembleLine_of_illegal I owner equate? lineNo hop] at ht
  | some op =>
    obtain ⟨t', ht', -, houtcome⟩ := assembleLine_of_operation I owner equate? lineNo hop
    cases ht.symm.trans ht'
    -- the opcode is legal, so it is a mode that is not
    refine ⟨.operandSyntax, houtcome.trans (assembleOperands_of_illegal owner op ?_)⟩
    by_contra! hmodes
    refine hc (Cell.isLegal_iff.mpr ⟨?_, Option.isSome_iff_ne_none.mpr hmodes.1,
      Option.isSome_iff_ne_none.mpr hmodes.2⟩)
    rw [Opcode.isLegal, hop]
    rfl

/-- What the line of a cell adds to the instructions. -/
lemma instruction?_of_render (c : Cell) :
    ((assembleLine I owner equate? lineNo c.render).bind Trace.instruction?).map
        (fun i => (i.cell, i.lineNo)) =
      if c.isLegal then some ({ c with owner := owner }, lineNo) else none := by
  split
  · rename_i hc
    obtain ⟨t, ht, hlineNo, houtcome⟩ := assembleLine_of_isLegal I owner equate? lineNo hc
    simp only [ht, Option.bind_some, Trace.instruction?, houtcome, Option.map_some, hlineNo]
  · rename_i hc
    cases ht : assembleLine I owner equate? lineNo c.render with
    | none => rfl
    | some t =>
      obtain ⟨cause, houtcome⟩ := outcome_of_not_isLegal I owner equate? lineNo hc ht
      simp only [Option.bind_some, Trace.instruction?, houtcome, Option.map_none]

/-- The line of a legal cell adds nothing to the errors. -/
lemma error?_of_render {c : Cell} (hc : c.isLegal = true) :
    (assembleLine I owner equate? lineNo c.render).bind Trace.error? = none := by
  obtain ⟨t, ht, -, houtcome⟩ := assembleLine_of_isLegal I owner equate? lineNo hc
  simp only [ht, Option.bind_some, Trace.error?, houtcome]

/-! ### Cells as a source -/

section

variable {I} {owner} {cells : List Cell} {s : Source}

lemma traces_of_listing (hs : Source.Listing (cells.map Cell.render) s.bytes) (asm : Assembler) :
    (asm.assemble I owner s).1.traces = (cells.zipIdx 1).filterMap fun (c, n) =>
      assembleLine I owner (equatesAt asm.predefined n).value? n c.render := by
  have hlines : s.lines = cells.map Cell.render :=
    Source.lines_of_listing hs (List.forall_mem_map.mpr fun c _ => c.readable_render)
  rw [traces_assemble, hlines, List.zipIdx_map, List.filterMap_map]
  refine congrArg (List.filterMap · (cells.zipIdx 1)) (funext fun p => ?_)
  simp [Line.withoutComment_render]

lemma instructions_of_listing (hs : Source.Listing (cells.map Cell.render) s.bytes)
    (asm : Assembler) :
    (asm.assemble I owner s).1.program.instructions.map (fun i => (i.cell, i.lineNo)) =
      ((cells.zipIdx 1).filter fun p => p.1.isLegal).map
        fun p => ({ p.1 with owner := owner }, p.2) := by
  rw [program_assemble, Program.ofTraces, traces_of_listing hs, List.filterMap_filterMap,
    List.map_filterMap, ← List.filterMap_eq_filter, List.map_filterMap]
  refine congrArg (List.filterMap · (cells.zipIdx 1)) (funext fun p => ?_)
  rw [instruction?_of_render, Option.guard]
  split <;> rfl

lemma errors_of_listing (hs : Source.Listing (cells.map Cell.render) s.bytes)
    (hcells : ∀ c ∈ cells, c.isLegal = true) (asm : Assembler) :
    (asm.assemble I owner s).1.program.errors = [] := by
  rw [program_assemble, Program.ofTraces, traces_of_listing hs]
  dsimp only
  rw [List.filterMap_filterMap, List.filterMap_eq_nil_iff]
  intro p hp
  exact error?_of_render I owner _ _ (hcells p.1 (List.fst_mem_of_mem_zipIdx hp))

lemma readError?_of_listing {t : Text} (ht : Source.Listing (cells.map Cell.render) t)
    (asm : Assembler) : (asm.assemble I owner ⟨t, none⟩).1.readError? = none :=
  Source.readError?_of_listing ht (List.forall_mem_map.mpr fun c _ => c.readable_render)

/-- Legal cells of a player are assembled to themselves. -/
lemma cells_of_listing (hs : Source.Listing (cells.map Cell.render) s.bytes)
    (hlegal : ∀ c ∈ cells, c.isLegal = true) (howner : ∀ c ∈ cells, c.owner = owner)
    (asm : Assembler) : (asm.assemble I owner s).1.program.cells = cells := by
  have hfilter : (cells.zipIdx 1).filter (fun p => p.1.isLegal) = cells.zipIdx 1 :=
    List.filter_eq_self.mpr fun p hp => hlegal p.1 (List.fst_mem_of_mem_zipIdx hp)
  have hsame : ∀ p ∈ cells.zipIdx 1, ({ p.1 with owner := owner }, p.2) = p := by
    intro p hp
    rw [← howner p.1 (List.fst_mem_of_mem_zipIdx hp)]
  calc
    (asm.assemble I owner s).1.program.cells
      = ((asm.assemble I owner s).1.program.instructions.map fun i => (i.cell, i.lineNo)).map
          Prod.fst := by
        rw [List.map_map]
        rfl
    _ = (cells.zipIdx 1).map Prod.fst := by
        rw [instructions_of_listing hs, hfilter, List.map_congr_left hsame, List.map_id']
    _ = cells := List.zipIdx_map_fst 1 cells

end

/-- Disassembly and assembly are inverse. Of cells that are written one to a line, whatever their
opcodes, modes and fields, exactly the legal ones are assembled, in order and each with the number
of its line; and the cells that any source is assembled to are assembled again from what they are
written as, without an error. -/
theorem assemble_disassembly (I : Interpreter) (asm : Assembler) (owner : Owner) :
    (∀ (cells : List Cell) (t : Text), Source.Listing (cells.map Cell.render) t →
      (asm.assemble I owner ⟨t, none⟩).1.readError? = none ∧
      (asm.assemble I owner ⟨t, none⟩).1.program.instructions.map (fun i => (i.cell, i.lineNo)) =
        ((cells.zipIdx 1).filter fun p => p.1.isLegal).map
          fun p => ({ p.1 with owner := owner }, p.2)) ∧
    ∀ (first : Assembler) (s : Source) (t : Text),
      Source.Listing ((first.assemble I owner s).1.program.cells.map Cell.render) t →
      (asm.assemble I owner ⟨t, none⟩).1.readError? = none ∧
      (asm.assemble I owner ⟨t, none⟩).1.program.errors = [] ∧
      (asm.assemble I owner ⟨t, none⟩).1.program.cells =
        (first.assemble I owner s).1.program.cells := by
  constructor
  · intro cells t ht
    exact ⟨readError?_of_listing ht asm, instructions_of_listing ht asm⟩
  · intro first s t ht
    have hlegal : ∀ c ∈ (first.assemble I owner s).1.program.cells, c.isLegal = true :=
      fun c hc => first.isLegal_of_mem_cells owner s hc
    have howner : ∀ c ∈ (first.assemble I owner s).1.program.cells, c.owner = owner :=
      fun c hc => first.owner_of_mem_cells owner s hc
    exact ⟨readError?_of_listing ht asm, errors_of_listing ht hlegal asm,
      cells_of_listing ht hlegal howner asm⟩

/-- Illegal cells between legal ones with the least and the greatest field, and a single operand
that is written twice. -/
theorem assemble_disassembly_between_illegal :
    let asm : Assembler := new.predefine "LINENO" "x"
    let cell (opcode mode : Int64) (owner : Owner) : Cell :=
      ⟨⟨opcode⟩, ⟨⟨mode⟩, Int32.minValue⟩, ⟨⟨1⟩, Int32.maxValue⟩, owner⟩
    let cells := [cell 0 0 .nobody, cell 8 1 .nobody, cell 7 (-1) .nobody, cell 7 2 .nobody]
    let t : Text := "DAT #-2147483648, $2147483647\nOpcode(8) $-2147483648, $2147483647\n" ++
      "CMP Mode(-1)-2147483648, $2147483647\nCMP @-2147483648, $2147483647"
    let s : Source := ⟨"jmp @-1 ; back\nJMP %1\nadd #4, 3", none⟩
    let t' : Text := "JMP @-1, @-1\nADD #4, $3\n"
    (Source.Listing (cells.map Cell.render) t ∧
      (asm.assemble Script.standard ⟨0⟩ ⟨t, none⟩).1.program.instructions.map
          (fun i => (i.cell, i.lineNo)) =
        [(cell 0 0 ⟨0⟩, 1), (cell 7 2 ⟨0⟩, 4)]) ∧
    Source.Listing ((new.assemble Script.standard ⟨0⟩ s).1.program.cells.map Cell.render) t' ∧
      (asm.assemble Script.standard ⟨0⟩ ⟨t', none⟩).1.program.cells =
        (new.assemble Script.standard ⟨0⟩ s).1.program.cells := by
  intro asm cell cells t s t'
  have ht : Source.Listing (cells.map Cell.render) t := Or.inr (by decide +kernel)
  have ht' :
      Source.Listing ((new.assemble Script.standard ⟨0⟩ s).1.program.cells.map Cell.render) t' :=
    Or.inl (by decide +kernel)
  have hcells := ((assemble_disassembly Script.standard asm ⟨0⟩).1 cells t ht).2
  exact ⟨⟨ht, hcells⟩, ht', ((assemble_disassembly Script.standard asm ⟨0⟩).2 new s t' ht').2.2⟩

end Assembler

end CoreWar
