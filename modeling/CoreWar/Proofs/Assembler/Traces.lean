import CoreWar.Proofs.Assembler.Grammar
import CoreWar.Proofs.Assembler.Legal

/-!
# Traces

Every line of a source that opens with a mnemonic leaves one trace, and no other line leaves any.
A trace is that of an instruction or of an error of the program, and it is the only one of its line:
no line is lost, doubled or reported as both (`traces_account_for_lines`).
-/

namespace CoreWar

/-! ### Programs -/

namespace Program

/-- An offset from the start finds the instruction at its position. -/
lemma instructionAt?_of_nonneg (p : Program) {k : Int64} (hk : 0 ≤ k.toInt) :
    p.instructionAt? k = p.instructions[k.toInt.toNat]? := by
  rw [instructionAt?, getElem?_word, if_pos hk]

lemma instructionAt?_eq_none_iff {p : Program} {k : Int64} :
    p.instructionAt? k = none ↔ ¬(0 ≤ k.toInt ∧ k.toInt < p.length) := by
  rw [← Option.not_isSome_iff_eq_none]
  exact not_congr (isSome_getElem?_word p.instructions k)

section

variable (owner : Owner) (traces : List Trace)

/-- The instructions are the traces without an error. -/
lemma instructions_ofTraces :
    (ofTraces owner traces).instructions.map (fun i => (i.lineNo, i.text, i.cell)) =
      (traces.filter fun t => t.cause?.isNone).map fun t => (t.lineNo, t.line, t.cell) := by
  induction traces with
  | nil => rfl
  | cons t traces ih =>
    obtain ⟨lineNo, line, mnemonic, operands, cell, cause?⟩ := t
    cases cause? with
    | none => exact congrArg (List.cons _) ih
    | some cause => exact ih

/-- The errors are the traces with an error. -/
lemma errors_ofTraces :
    (ofTraces owner traces).errors.map (fun e => (e.lineNo, e.line, some e.cause)) =
      (traces.filter fun t => t.cause?.isSome).map fun t => (t.lineNo, t.line, t.cause?) := by
  induction traces with
  | nil => rfl
  | cons t traces ih =>
    obtain ⟨lineNo, line, mnemonic, operands, cell, cause?⟩ := t
    cases cause? with
    | none => exact ih
    | some cause => exact congrArg (List.cons _) ih

/-- Every trace is that of an instruction or of an error, and never of both. -/
lemma count_ofTraces (n : Nat) :
    ((ofTraces owner traces).instructions.map Instruction.lineNo).count n +
      ((ofTraces owner traces).errors.map LineError.lineNo).count n =
        (traces.map Trace.lineNo).count n := by
  have hinstructions := congrArg (List.map Prod.fst) (instructions_ofTraces owner traces)
  have herrors := congrArg (List.map Prod.fst) (errors_ofTraces owner traces)
  have hsplit := (List.filter_append_perm (fun t => t.cause?.isNone) traces).map Trace.lineNo
  rw [List.map_map, List.map_map] at hinstructions herrors
  simp only [Option.not_isNone] at hsplit
  -- with and without an error, the traces are a permutation of all of them
  rw [← hsplit.count_eq, List.map_append, List.count_append]
  exact congrArg₂ (fun l l' : List Nat => l.count n + l'.count n) hinstructions herrors

end

end Program

namespace Assembler

/-! ### Lines -/

variable {I : Interpreter}

/-- A trace has the number, the text and the mnemonic of its line. -/
lemma opens_of_assembleLine {owner : Owner} {equate? : Text → Option Int64} {lineNo : Nat}
    {line : Text} {t : Trace} (h : assembleLine I owner equate? lineNo line = some t) :
    t.lineNo = lineNo ∧ t.line = line.trim ∧ ∃ op rest, Line.Opens line op t.mnemonic rest := by
  rw [assembleLine_eq] at h
  obtain ⟨⟨word, rest⟩, hword, h⟩ := Option.bind_eq_some_iff.mp h
  obtain ⟨op, hop, h⟩ := Option.bind_eq_some_iff.mp h
  have hopens : Line.Opens line op word rest := Line.opens_iff.mpr ⟨hword, hop⟩
  split at h
  all_goals
    rw [← Option.some_inj.mp h]
    simpa using ⟨op, rest, hopens⟩

/-- The trace of an error holds the zero cell, whatever has been read of the operands. -/
lemma cell_of_assembleLine {owner : Owner} {equate? : Text → Option Int64} {lineNo : Nat}
    {line : Text} {t : Trace} (h : assembleLine I owner equate? lineNo line = some t)
    (hcause : t.cause? ≠ none) : t.cell = .zero := by
  have htrace := eq_ofOutcome_of_assembleLine I h
  cases houtcome : t.outcome with
  | ok c =>
    rw [htrace, houtcome] at hcause
    exact absurd rfl hcause
  | error cause =>
    rw [htrace, houtcome]
    rfl

/-! ### Sources -/

/-- The line with the given number, counted from one, without its comment. -/
def lineAt? (s : Source) (lineNo : Nat) : Option Text :=
  if lineNo = 0 then none else (s.lines[lineNo - 1]?).map Line.withoutComment

/-- The line with the given number opens with a mnemonic. -/
def IsInstruction (s : Source) (lineNo : Nat) : Prop :=
  ∃ line ∈ lineAt? s lineNo, ∃ op word rest, Line.Opens line op word rest

section

variable (I : Interpreter) (asm : Assembler) (owner : Owner) (s : Source)

lemma mem_traces_iff {t : Trace} :
    t ∈ (asm.assemble I owner s).1.traces ↔ ∃ n, ∃ line ∈ lineAt? s n,
      assembleLine I owner (equatesAt asm.predefined n).value? n line = some t := by
  rw [traces_assemble, List.mem_filterMap]
  constructor
  · rintro ⟨⟨text, n⟩, hmem, ht⟩
    obtain ⟨hn, htext⟩ := List.mem_zipIdx_iff_le_and_getElem?_sub.mp hmem
    refine ⟨n, Line.withoutComment text, ?_, ht⟩
    rw [lineAt?, if_neg (Nat.ne_zero_of_lt hn), htext]
    rfl
  · rintro ⟨n, line, hline, ht⟩
    rw [lineAt?, Option.mem_def, Option.ite_none_left_eq_some] at hline
    obtain ⟨hn, hline⟩ := hline
    obtain ⟨text, htext, rfl⟩ := Option.map_eq_some_iff.mp hline
    refine ⟨⟨text, n⟩, ?_, ht⟩
    exact List.mem_zipIdx_iff_le_and_getElem?_sub.mpr ⟨Nat.one_le_iff_ne_zero.mpr hn, htext⟩

/-- Traces come in the order of their lines. -/
lemma pairwise_lineNo_traces :
    ((asm.assemble I owner s).1.traces.map Trace.lineNo).Pairwise (· < ·) := by
  have hnumbers : (s.lines.zipIdx 1).Pairwise fun p q => p.2 < q.2 := by
    rw [← List.pairwise_map, List.zipIdx_map_snd]
    exact List.pairwise_lt_range'
  rw [traces_assemble, List.pairwise_map]
  refine hnumbers.filterMap _ fun p q hlt t ht u hu => ?_
  rw [(opens_of_assembleLine ht).1, (opens_of_assembleLine hu).1]
  exact hlt

/-- The lines that leave a trace are those that open with a mnemonic. -/
lemma mem_lineNo_traces_iff {n : Nat} :
    n ∈ (asm.assemble I owner s).1.traces.map Trace.lineNo ↔ IsInstruction s n := by
  simp only [List.mem_map, mem_traces_iff]
  constructor
  · rintro ⟨t, ⟨n, line, hline, ht⟩, rfl⟩
    obtain ⟨hn, -, op, rest, hopens⟩ := opens_of_assembleLine ht
    exact ⟨line, hn ▸ hline, op, t.mnemonic, rest, hopens⟩
  · rintro ⟨line, hline, hopens⟩
    obtain ⟨t, ht⟩ := Option.isSome_iff_exists.mp
      ((isSome_assembleLine_iff I owner (equatesAt asm.predefined n).value? n).mpr hopens)
    exact ⟨t, ⟨n, line, hline, ht⟩, (opens_of_assembleLine ht).1⟩

/-- A line is at most once an instruction or an error, and once exactly if it opens with a
mnemonic. -/
lemma count_lineNo_program (n : Nat) :
    let program := (asm.assemble I owner s).1.program
    let count := (program.instructions.map Instruction.lineNo).count n +
      (program.errors.map LineError.lineNo).count n
    count ≤ 1 ∧ (count = 1 ↔ IsInstruction s n) := by
  have hnodup : ((asm.assemble I owner s).1.traces.map Trace.lineNo).Nodup :=
    (pairwise_lineNo_traces I asm owner s).imp Nat.ne_of_lt
  have hle := List.nodup_iff_count_le_one.mp hnodup n
  intro program count
  have htraces : count = ((asm.assemble I owner s).1.traces.map Trace.lineNo).count n := by
    rw [← Program.count_ofTraces owner, ← program_assemble]
  rw [htraces, ← mem_lineNo_traces_iff I asm owner s, ← List.count_pos_iff]
  exact ⟨hle, by omega⟩

end

/-- No line with a mnemonic is lost or counted twice. In the order of the lines, each of them leaves
one trace with its number, its text and its mnemonic, and no other line leaves any. The traces
without an error are the instructions, with cells of the player, and those with an error are the
errors, with the zero cell, so that a line is at most once in one of the two. The length, the cells
and the offsets of the program are those of its instructions. -/
theorem traces_account_for_lines (I : Interpreter) (asm : Assembler) (owner : Owner) (s : Source) :
    let traces := (asm.assemble I owner s).1.traces
    let program := (asm.assemble I owner s).1.program
    ((traces.map Trace.lineNo).Pairwise (· < ·) ∧
      (∀ n, n ∈ traces.map Trace.lineNo ↔ IsInstruction s n) ∧
      ∀ t ∈ traces, ∃ line ∈ lineAt? s t.lineNo,
        t.line = line.trim ∧ ∃ op rest, Line.Opens line op t.mnemonic rest) ∧
    (program.instructions.map (fun i => (i.lineNo, i.text, i.cell)) =
        (traces.filter fun t => t.cause?.isNone).map (fun t => (t.lineNo, t.line, t.cell)) ∧
      ∀ i ∈ program.instructions, i.cell.owner = owner) ∧
    (program.errors.map (fun e => (e.lineNo, e.line, some e.cause)) =
        (traces.filter fun t => t.cause?.isSome).map (fun t => (t.lineNo, t.line, t.cause?)) ∧
      ∀ t ∈ traces, t.cause? ≠ none → t.cell = .zero) ∧
    (∀ n, let count := (program.instructions.map Instruction.lineNo).count n +
          (program.errors.map LineError.lineNo).count n
      count ≤ 1 ∧ (count = 1 ↔ IsInstruction s n)) ∧
    program.length = program.instructions.length ∧ program.cells.length = program.length ∧
    ∀ k : Int64, (program.instructionAt? k = none ↔ ¬(0 ≤ k.toInt ∧ k.toInt < program.length)) ∧
      (0 ≤ k.toInt → program.instructionAt? k = program.instructions[k.toInt.toNat]? ∧
        program.cells[k.toInt.toNat]? = (program.instructionAt? k).map Instruction.cell) := by
  intro traces program
  have hprogram : program = .ofTraces owner traces := program_assemble I owner asm s
  refine ⟨⟨pairwise_lineNo_traces I asm owner s, fun n => mem_lineNo_traces_iff I asm owner s,
      fun t ht => ?_⟩, ⟨?_, fun i hi => ?_⟩, ⟨?_, fun t ht hcause => ?_⟩,
    count_lineNo_program I asm owner s, rfl, List.length_map _,
    fun k => ⟨Program.instructionAt?_eq_none_iff, fun hk => ?_⟩⟩
  · obtain ⟨n, line, hline, hassemble⟩ := (mem_traces_iff I asm owner s).mp ht
    obtain ⟨rfl, htext, hopens⟩ := opens_of_assembleLine hassemble
    exact ⟨line, hline, htext, hopens⟩
  · rw [hprogram, Program.instructions_ofTraces]
  · exact owner_of_mem_cells asm owner s (List.mem_map_of_mem hi)
  · rw [hprogram, Program.errors_ofTraces]
  · obtain ⟨n, line, -, hassemble⟩ := (mem_traces_iff I asm owner s).mp ht
    exact cell_of_assembleLine hassemble hcause
  · have hfound := program.instructionAt?_of_nonneg hk
    exact ⟨hfound, by rw [hfound, Program.cells, List.getElem?_map]⟩

/-- A comment and a word that names no operation leave no trace. A second operand that is out of
range leaves no cell, though the first one fits. -/
theorem traces_account_for_lines_mixed :
    let s : Source := ⟨"; imp\n mov 0, 1 ; copies\nMOV 1, 2147483648\nloop 1\njmp @-1", none⟩
    let a := (new.assemble Script.standard ⟨1⟩ s).1
    let copy : Cell := ⟨.ofOperation .mov, ⟨⟨1⟩, 0⟩, ⟨⟨1⟩, 1⟩, ⟨1⟩⟩
    let jump : Cell := ⟨.ofOperation .jmp, ⟨⟨2⟩, -1⟩, ⟨⟨2⟩, -1⟩, ⟨1⟩⟩
    a.traces.map Trace.lineNo = [2, 3, 5] ∧ a.traces.map Trace.cell = [copy, .zero, jump] ∧
    (a.program.instructions.map Instruction.lineNo = [2, 5] ∧
      a.program.errors.map LineError.lineNo = [3]) ∧
    (IsInstruction s 3 ∧ ¬IsInstruction s 4) ∧
    (a.program.instructionAt? 1).isSome = true ∧ a.program.instructionAt? 2 = none ∧
      a.program.instructionAt? (-1) = none := by
  intro s a copy jump
  have htraces : a.traces.map Trace.lineNo = [2, 3, 5] := by decide +kernel
  have hlength : a.program.length = 2 := by decide +kernel
  obtain ⟨⟨-, hmem, -⟩, -, -, -, -, -, hoffset⟩ :=
    traces_account_for_lines Script.standard new ⟨1⟩ s
  refine ⟨htraces, by decide +kernel, ⟨by decide +kernel, by decide +kernel⟩, ⟨?_, ?_⟩,
    ?_, ?_, ?_⟩
  · exact (hmem 3).mp (htraces ▸ by decide)
  · exact fun h => absurd ((hmem 4).mpr h) (htraces ▸ by decide)
  · exact Option.isSome_iff_ne_none.mpr fun h => (hoffset 1).1.mp h (hlength ▸ by decide)
  · exact (hoffset 2).1.mpr (hlength ▸ by decide)
  · exact (hoffset (-1)).1.mpr (hlength ▸ by decide)

end Assembler

end CoreWar
