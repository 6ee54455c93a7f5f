import Mathlib.Data.List.Induction
import CoreWar.Proofs.Assembler.Equates
import CoreWar.Proofs.Assembler.Outcome

/-!
# Progress through a source

The table of equates goes from line to line, but all that a line finds in it of the lines before is
their last number, and this it replaces by its own. So what comes of a line depends on its number
and its text and on the predefined equates, and a source is assembled line by line
(`records_assemble`). The lists of traces, of instructions and of errors grow with the lines, and at
every point they are what the traces of the lines so far make up (`program_assemble`).
-/

namespace CoreWar

namespace Assembler

/-- The equates that the line with the given number sees. -/
def equatesAt (predefined : Equates) (lineNo : Nat) : Equates :=
  (initialEquates predefined).insert lineNumberName (Text.ofNat lineNo)

variable (I : Interpreter)

/-- What comes of the line with the given number, by itself. -/
def recordLine (owner : Owner) (predefined : Equates) (lineNo : Nat) (text : Text) : Record :=
  ⟨lineNo, text,
    assembleLine I owner (equatesAt predefined lineNo).value? lineNo (Line.withoutComment text)⟩

/-- The equates that are left after a number of lines. -/
def equatesAfter (predefined : Equates) (lineCount : Nat) : Equates :=
  if lineCount = 0 then initialEquates predefined else equatesAt predefined lineCount

/-- The progress after given lines, the last of them first: every list is made up by their
traces. -/
def Progress.ofRecords (lineNo : Nat) (equates : Equates) (records : List Record) : Progress :=
  let traces := records.filterMap Record.trace?
  ⟨lineNo, equates, records, traces, traces.filterMap Trace.instruction?,
    traces.filterMap Trace.error?⟩

variable (owner : Owner) (predefined : Equates)

lemma equatesAfter_insert (lineCount : Nat) (t : Text) :
    (equatesAfter predefined lineCount).insert lineNumberName t =
      (initialEquates predefined).insert lineNumberName t := by
  unfold equatesAfter
  split
  · rfl
  · exact Equates.insert_insert _ _ _ _

/-- A trace that is taken note of comes to one of the two lists of a program. -/
lemma note_ofRecords {n : Nat} {r : Record} {t : Trace} (ht : r.trace? = some t)
    (hn : t.lineNo = n) (equates : Equates) (records : List Record) :
    Progress.note { Progress.ofRecords n equates records with records := r :: records } t =
      .ofRecords n equates (r :: records) := by
  subst hn
  rcases hcause : t.cause? with _ | cause <;>
    simp [Progress.note, Progress.ofRecords, ht, Trace.instruction?, Trace.error?, Trace.outcome,
      kept, hcause]

/-- The lists stay what the traces make up when one more line is read. -/
lemma next_ofRecords (n : Nat) (equates : Equates) (records : List Record) (text : Text) :
    Progress.next I owner (.ofRecords n equates records) text =
      .ofRecords (n + 1) (equates.insert lineNumberName (Text.ofNat (n + 1)))
        (⟨n + 1, text, assembleLine I owner
          (equates.insert lineNumberName (Text.ofNat (n + 1))).value? (n + 1)
          (Line.withoutComment text)⟩ :: records) := by
  generalize htrace : assembleLine I owner
    (equates.insert lineNumberName (Text.ofNat (n + 1))).value? (n + 1)
    (Line.withoutComment text) = trace?
  cases trace? with
  | none => simp [Progress.next, Progress.ofRecords, htrace]
  | some trace =>
    have hlineNo : trace.lineNo = n + 1 := by
      rw [eq_ofOutcome_of_assembleLine I htrace, Trace.lineNo_ofOutcome]
    simp only [Progress.next, Progress.ofRecords, htrace]
    exact note_ofRecords rfl hlineNo _ records

lemma next_equatesAfter (n : Nat) (records : List Record) (text : Text) :
    Progress.next I owner (.ofRecords n (equatesAfter predefined n) records) text =
      .ofRecords (n + 1) (equatesAfter predefined (n + 1))
        (recordLine I owner predefined (n + 1) text :: records) := by
  rw [next_ofRecords, equatesAfter_insert]
  rfl

/-- Lines come to what each of them comes to by itself. -/
lemma foldl_next (lines : List Text) :
    lines.foldl (Progress.next I owner) (.start predefined) =
      .ofRecords lines.length (equatesAfter predefined lines.length)
        (lines.mapIdx fun i text => recordLine I owner predefined (i + 1) text).reverse := by
  -- the last line finds the table as all the others have left it
  induction lines using List.reverseRecOn with
  | nil => rfl
  | append_singleton lines text ih =>
    rw [List.foldl_append, ih, List.foldl_cons, List.foldl_nil, next_equatesAfter]
    simp

/-- A source is assembled line by line. -/
lemma records_assemble (asm : Assembler) (s : Source) :
    (asm.assemble I owner s).1.records =
      s.lines.mapIdx fun i text => recordLine I owner asm.predefined (i + 1) text := by
  simp only [assemble, foldl_next, Progress.assembly, Progress.ofRecords, List.reverse_reverse]

lemma getElem?_records (asm : Assembler) {s : Source} {i : Nat} {line : Text}
    (hline : s.lines[i]? = some line) :
    (asm.assemble I owner s).1.records[i]? =
      some (recordLine I owner asm.predefined (i + 1) line) := by
  rw [records_assemble, List.getElem?_mapIdx, hline]
  rfl

lemma traces_eq_filterMap (asm : Assembler) (s : Source) :
    (asm.assemble I owner s).1.traces =
      (asm.assemble I owner s).1.records.filterMap Record.trace? := by
  simp only [assemble, foldl_next, Progress.assembly, Progress.ofRecords, List.filterMap_reverse,
    List.reverse_reverse]

/-- The program is made up by the traces. -/
lemma program_assemble (asm : Assembler) (s : Source) :
    (asm.assemble I owner s).1.program = .ofTraces owner (asm.assemble I owner s).1.traces := by
  simp only [assemble, foldl_next, Progress.assembly, Progress.ofRecords, Program.ofTraces,
    List.filterMap_reverse, List.reverse_reverse]

/-- The traces of a source are those of its lines, which are counted from one. -/
lemma traces_assemble (asm : Assembler) (s : Source) :
    (asm.assemble I owner s).1.traces = (s.lines.zipIdx 1).filterMap fun (text, n) =>
      assembleLine I owner (equatesAt asm.predefined n).value? n (Line.withoutComment text) := by
  simp only [traces_eq_filterMap, records_assemble, List.mapIdx_eq_zipIdx_map, List.zipIdx_succ,
    List.filterMap_map]
  rfl

end Assembler

end CoreWar
