import CoreWar.Proofs.Assembler.Reading

/-!
# Line endings

A line may end with a line feed or with a carriage return and a line feed, and the last line may
have no ending at all. Whichever is chosen for each line, the same lines are read, but for a last
one that is empty and has no ending (`exists_eq_lines_append`). That one leaves no trace, so all
spellings of the same lines assemble to the same program (`program_of_spelling`).
-/

namespace CoreWar

namespace Source

/-- The text consists of the given lines. Each of them ends with a line feed, in front of which a
carriage return may stand; the last one may go without an ending. -/
inductive Spelling : List Text → Text → Prop where
  | empty : Spelling [] []
  | unended (l : Text) : Spelling [l] l
  | feed (l : Text) {ls : List Text} {t : Text} (h : Spelling ls t) :
      Spelling (l :: ls) (l ++ '\n'.toUInt8 :: t)
  | returnFeed (l : Text) {ls : List Text} {t : Text} (h : Spelling ls t) :
      Spelling (l :: ls) (l ++ '\r'.toUInt8 :: '\n'.toUInt8 :: t)

/-- A line that is read back whichever ending it has: it fits the buffer with both characters of the
longer one. -/
structure TakesEnding (l : Text) : Prop where
  length_le : l.length ≤ 65534
  notMem_feed : '\n'.toUInt8 ∉ l
  getLast?_ne_return : l.getLast? ≠ some '\r'.toUInt8

namespace TakesEnding

variable {l : Text}

lemma fits (h : TakesEnding l) : fits l = true := by
  have hlength := h.length_le
  rw [fits_iff, bufferSize]
  omega

lemma fits_return (h : TakesEnding l) : Source.fits (l ++ ['\r'.toUInt8]) = true := by
  have hlength := h.length_le
  rw [fits_iff, List.length_append, List.length_singleton, bufferSize]
  omega

lemma notMem_return (h : TakesEnding l) : '\n'.toUInt8 ∉ l ++ ['\r'.toUInt8] := by
  rw [List.mem_append, not_or]
  exact ⟨h.notMem_feed, by decide⟩

lemma dropReturn_eq (h : TakesEnding l) : dropReturn l = l :=
  if_neg h.getLast?_ne_return

end TakesEnding

lemma dropReturn_append_return (l : Text) : dropReturn (l ++ ['\r'.toUInt8]) = l := by
  rw [dropReturn, List.getLast?_concat, if_pos rfl, List.dropLast_concat]

/-- A carriage return in front of a line feed belongs to its line until it is dropped. -/
lemma rawLines_returnFeed {l : Text} (hl : TakesEnding l) (t : Text) :
    rawLines (l ++ '\r'.toUInt8 :: '\n'.toUInt8 :: t) = (l ++ ['\r'.toUInt8]) :: rawLines t := by
  rw [← rawLines_append_cons hl.notMem_return, List.append_assoc, List.singleton_append]

namespace Spelling

variable {ls : List Text} {t : Text}

lemma forall_fits (h : Spelling ls t) (hls : ∀ l ∈ ls, TakesEnding l) :
    ∀ l ∈ rawLines t, fits l = true := by
  induction h with
  | empty =>
    intro l hl
    exact absurd (hl : l ∈ []) List.not_mem_nil
  | unended l =>
    have hl := List.forall_mem_singleton.mp hls
    intro l' hl'
    rw [eq_of_mem_rawLines hl.notMem_feed hl']
    exact hl.fits
  | feed l _ ih =>
    obtain ⟨hl, hrest⟩ := List.forall_mem_cons.mp hls
    rw [rawLines_append_cons hl.notMem_feed]
    exact List.forall_mem_cons.mpr ⟨hl.fits, ih hrest⟩
  | returnFeed l _ ih =>
    obtain ⟨hl, hrest⟩ := List.forall_mem_cons.mp hls
    rw [rawLines_returnFeed hl]
    exact List.forall_mem_cons.mpr ⟨hl.fits_return, ih hrest⟩

/-- All lines are told apart and lose their endings, but for an empty last one without an ending. -/
lemma exists_eq_map_append (h : Spelling ls t) (hls : ∀ l ∈ ls, TakesEnding l) :
    ∃ blanks, ls = (rawLines t).map dropReturn ++ blanks ∧ ∀ l ∈ blanks, l = [] := by
  induction h with
  | empty => exact ⟨[], rfl, by simp⟩
  | unended l =>
    have hl := List.forall_mem_singleton.mp hls
    rw [rawLines_of_notMem hl.notMem_feed]
    -- the only line that can get lost
    split_ifs with hnil
    · exact ⟨[l], rfl, by simpa using hnil⟩
    · exact ⟨[], by simp [hl.dropReturn_eq], by simp⟩
  | feed l _ ih =>
    obtain ⟨hl, hrest⟩ := List.forall_mem_cons.mp hls
    obtain ⟨blanks, heq, hblank⟩ := ih hrest
    refine ⟨blanks, ?_, hblank⟩
    rw [rawLines_append_cons hl.notMem_feed, List.map_cons, hl.dropReturn_eq, List.cons_append,
      ← heq]
  | returnFeed l _ ih =>
    obtain ⟨hl, hrest⟩ := List.forall_mem_cons.mp hls
    obtain ⟨blanks, heq, hblank⟩ := ih hrest
    refine ⟨blanks, ?_, hblank⟩
    rw [rawLines_returnFeed hl, List.map_cons, dropReturn_append_return, List.cons_append, ← heq]

lemma exists_eq_lines_append {s : Source} (h : Spelling ls s.bytes)
    (hls : ∀ l ∈ ls, TakesEnding l) :
    ∃ blanks, ls = s.lines ++ blanks ∧ ∀ l ∈ blanks, l = [] := by
  rw [lines_of_fits (h.forall_fits hls)]
  exact h.exists_eq_map_append hls

end Spelling

end Source

namespace Assembler

open Source (Spelling TakesEnding)

/-- The traces that lines leave, which are counted from one. -/
def tracesOf (I : Interpreter) (owner : Owner) (predefined : Equates) (ls : List Text) :
    List Trace :=
  (ls.zipIdx 1).filterMap fun (text, n) => (recordLine I owner predefined n text).trace?

variable {I : Interpreter} {owner : Owner} {predefined : Equates}

lemma recordLine_nil (n : Nat) : (recordLine I owner predefined n []).trace? = none := rfl

/-- Empty lines at the end leave no trace. -/
lemma tracesOf_append_blanks (ls : List Text) {blanks : List Text} (h : ∀ l ∈ blanks, l = []) :
    tracesOf I owner predefined (ls ++ blanks) = tracesOf I owner predefined ls := by
  have hnone : ((blanks.zipIdx (1 + ls.length)).filterMap fun (text, n) =>
      (recordLine I owner predefined n text).trace?) = [] := by
    rw [List.filterMap_eq_nil_iff]
    rintro ⟨l, n⟩ hmem
    obtain rfl := h l (List.fst_mem_of_mem_zipIdx hmem)
    exact recordLine_nil n
  rw [tracesOf, List.zipIdx_append, List.filterMap_append, hnone, List.append_nil, tracesOf]

/-- A source leaves the traces of the lines that it spells. -/
lemma traces_of_spelling {ls : List Text} (hls : ∀ l ∈ ls, TakesEnding l) {s : Source}
    (hs : Spelling ls s.bytes) (I : Interpreter) (asm : Assembler) (owner : Owner) :
    (asm.assemble I owner s).1.traces = tracesOf I owner asm.predefined ls := by
  obtain ⟨blanks, rfl, hblank⟩ := hs.exists_eq_lines_append hls
  rw [tracesOf_append_blanks _ hblank, traces_assemble]
  rfl

/-- Line endings do not matter. All spellings of the same lines assemble to the same program under
the same predefined equates: that of the traces that the lines leave by themselves. Each of them is
read to its end, unless its reader fails. -/
theorem program_of_spelling {ls : List Text} (hls : ∀ l ∈ ls, TakesEnding l) {s s' : Source}
    (hs : Spelling ls s.bytes) (hs' : Spelling ls s'.bytes) {asm asm' : Assembler}
    (hpredefined : asm'.predefined = asm.predefined) (I : Interpreter) (owner : Owner) :
    (asm'.assemble I owner s').1.program = (asm.assemble I owner s).1.program ∧
      (asm.assemble I owner s).1.program =
        .ofTraces owner (tracesOf I owner asm.predefined ls) ∧
      (asm.assemble I owner s).1.readError? = s.failure?.map .readFailed := by
  have htraces := traces_of_spelling hls hs I asm owner
  have htraces' := traces_of_spelling hls hs' I asm' owner
  refine ⟨?_, ?_, ?_⟩
  · rw [program_assemble, program_assemble, htraces, htraces', hpredefined]
  · rw [program_assemble, htraces]
  · exact Source.readError?_of_fits (hs.forall_fits hls)

/-- A line with a carriage return inside, an empty line in between and an empty one at the end,
which is read in one spelling and not in the other. -/
theorem program_of_spelling_mixed :
    let ls : List Text := ["MOV 0,\r1 ; imp", "", "JMP x", ""]
    let s : Source := ⟨"MOV 0,\r1 ; imp\r\n\nJMP x\r\n", none⟩
    let s' : Source := ⟨"MOV 0,\r1 ; imp\n\r\nJMP x\n\r\n", none⟩
    Spelling ls s.bytes ∧ Spelling ls s'.bytes ∧
      (new.assemble Script.standard ⟨0⟩ s').1.program =
        (new.assemble Script.standard ⟨0⟩ s).1.program ∧
      (new.assemble Script.standard ⟨0⟩ s).1.program.instructions.map Instruction.lineNo = [1] ∧
      (new.assemble Script.standard ⟨0⟩ s).1.program.errors.map LineError.lineNo = [3] ∧
      (new.assemble Script.standard ⟨0⟩ s).1.records.length = 3 ∧
      (new.assemble Script.standard ⟨0⟩ s').1.records.length = 4 := by
  intro ls s s'
  have hls : ∀ l ∈ ls, TakesEnding l := by
    intro l hl
    constructor <;> revert l <;> decide
  have hs : Spelling ls s.bytes :=
    .returnFeed "MOV 0,\r1 ; imp" (.feed "" (.returnFeed "JMP x" (.unended "")))
  have hs' : Spelling ls s'.bytes :=
    .feed "MOV 0,\r1 ; imp" (.returnFeed "" (.feed "JMP x" (.returnFeed "" .empty)))
  obtain ⟨hprogram, -⟩ := program_of_spelling hls hs hs' rfl Script.standard ⟨0⟩
  refine ⟨hs, hs', hprogram, ?_, ?_, ?_, ?_⟩ <;> decide +kernel

end Assembler

end CoreWar
