import CoreWar.Proofs.Assembler.Progress
import CoreWar.Proofs.Source.Lines
import CoreWar.Script.Interpreter

/-!
# Sources that are not read to their end

A source breaks at its first line that does not fit the buffer, wherever this is and whatever the
lines say (`fits_or_breaksAfter`). Then the program is that of the lines before; and where it is the
reader that fails, the program is that of all it has delivered (`assemble_of_failed_read`).
-/

namespace CoreWar

namespace Source

/-! ### Where a source breaks -/

/-- The text of lines that all end with a line feed. -/
def terminated (ls : List Text) : Text :=
  ls.flatMap (· ++ ['\n'.toUInt8])

/-- The given lines fit the buffer, and the one after them in the text does not. -/
structure BreaksAfter (ls : List Text) (t : Text) : Prop where
  notMem_feed : ∀ l ∈ ls, '\n'.toUInt8 ∉ l
  length_lt : ∀ l ∈ ls, l.length < bufferSize
  exists_long : ∃ long rest, t = terminated ls ++ (long ++ rest) ∧ '\n'.toUInt8 ∉ long ∧
    bufferSize ≤ long.length ∧ (rest = [] ∨ rest.head? = some '\n'.toUInt8)

lemma fits_iff (l : Text) : fits l = true ↔ l.length < bufferSize :=
  decide_eq_true_iff

lemma rawLines_terminated_append {ls : List Text} (hls : ∀ l ∈ ls, '\n'.toUInt8 ∉ l) (t : Text) :
    rawLines (terminated ls ++ t) = ls ++ rawLines t :=
  rawLines_flatMap_feed_append hls t

lemma eq_of_mem_rawLines {l t : Text} (ht : '\n'.toUInt8 ∉ t) (hl : l ∈ rawLines t) : l = t := by
  rw [rawLines_of_notMem ht] at hl
  split_ifs at hl
  · exact absurd hl List.not_mem_nil
  · exact List.mem_singleton.mp hl

/-- Complete lines and a text after them fit the buffer if each of them does. -/
lemma forall_fits_terminated_append {ls : List Text} {tail : Text}
    (h : ∀ l ∈ tail :: ls, '\n'.toUInt8 ∉ l ∧ l.length < bufferSize) :
    ∀ l ∈ rawLines (terminated ls ++ tail), fits l = true := by
  obtain ⟨⟨hfeed, hlength⟩, hls⟩ := List.forall_mem_cons.mp h
  intro l hl
  rw [rawLines_terminated_append fun l hl => (hls l hl).1, List.mem_append] at hl
  rcases hl with hl | hl
  · exact (fits_iff l).mpr (hls l hl).2
  · exact (fits_iff l).mpr (eq_of_mem_rawLines hfeed hl ▸ hlength)

/-- A line that is not empty is read up to its line feed or to the end of the text. -/
lemma exists_rawLines_append {l rest : Text} (hl : '\n'.toUInt8 ∉ l) (hne : l ≠ [])
    (hrest : rest = [] ∨ rest.head? = some '\n'.toUInt8) :
    ∃ more, rawLines (l ++ rest) = l :: more := by
  cases rest with
  | nil =>
    refine ⟨[], ?_⟩
    rw [List.append_nil, rawLines_of_notMem hl, if_neg hne]
  | cons c rest =>
    obtain rfl : c = '\n'.toUInt8 := by simpa using hrest
    exact ⟨rawLines rest, rawLines_append_cons hl rest⟩

namespace BreaksAfter

variable {ls : List Text} {t : Text}

lemma exists_rawLines (h : BreaksAfter ls t) :
    ∃ long more, rawLines t = ls ++ long :: more ∧ ¬fits long = true := by
  obtain ⟨long, rest, rfl, hfeed, hlength, hrest⟩ := h.exists_long
  have hne : long ≠ [] := by
    rintro rfl
    exact absurd hlength (by decide)
  obtain ⟨more, hmore⟩ := exists_rawLines_append hfeed hne hrest
  refine ⟨long, more, ?_, ?_⟩
  · rw [rawLines_terminated_append h.notMem_feed, hmore]
  · rw [fits_iff]
    exact Nat.not_lt.mpr hlength

lemma not_forall_fits (h : BreaksAfter ls t) : ¬∀ l ∈ rawLines t, fits l = true := by
  obtain ⟨long, more, hraw, hlong⟩ := h.exists_rawLines
  intro hfits
  exact hlong (hfits long (hraw ▸ List.mem_append_right ls List.mem_cons_self))

/-- A source is read up to where it breaks. -/
lemma lines_eq {s : Source} (h : BreaksAfter ls s.bytes) : s.lines = ls.map dropReturn := by
  obtain ⟨long, more, hraw, hlong⟩ := h.exists_rawLines
  have hfits : ∀ l ∈ ls, fits l = true := fun l hl => (fits_iff l).mpr (h.length_lt l hl)
  rw [lines, hraw, List.takeWhile_append_of_pos hfits, List.takeWhile_cons_of_neg hlong,
    List.append_nil]

lemma readError?_eq {s : Source} (h : BreaksAfter ls s.bytes) :
    s.readError? = some .lineTooLong := by
  have hall : (rawLines s.bytes).all fits = false := by
    rw [← Bool.not_eq_true, List.all_eq_true]
    exact h.not_forall_fits
  rw [readError?, hall]
  rfl

/-- One more line in front of a text that breaks. -/
lemma cons (h : BreaksAfter ls t) {l : Text} (hfeed : '\n'.toUInt8 ∉ l)
    (hlength : l.length < bufferSize) : BreaksAfter (l :: ls) (l ++ '\n'.toUInt8 :: t) := by
  obtain ⟨long, rest, rfl, hlong⟩ := h.exists_long
  refine ⟨List.forall_mem_cons.mpr ⟨hfeed, h.notMem_feed⟩,
    List.forall_mem_cons.mpr ⟨hlength, h.length_lt⟩, long, rest, ?_, hlong⟩
  simp [terminated]

/-- A text breaks at once if its first line is too long. -/
lemma of_long {long rest : Text} (hfeed : '\n'.toUInt8 ∉ long)
    (hlength : ¬long.length < bufferSize)
    (hrest : rest = [] ∨ rest.head? = some '\n'.toUInt8) : BreaksAfter [] (long ++ rest) :=
  ⟨by simp, by simp, long, rest, rfl, hfeed, Nat.not_lt.mp hlength, hrest⟩

/-- The lines before it are read as a source of their own. -/
lemma lines_terminated (h : BreaksAfter ls t) (failure? : Option Text) :
    (⟨terminated ls, failure?⟩ : Source).lines = ls.map dropReturn := by
  have hraw : rawLines (terminated ls) = ls := rawLines_flatMap_feed h.notMem_feed
  have hfits : ∀ l ∈ rawLines (terminated ls), fits l = true := by
    rw [hraw]
    exact fun l hl => (fits_iff l).mpr (h.length_lt l hl)
  rw [lines_of_fits hfits, hraw]

end BreaksAfter

/-- All lines of a text fit the buffer, or there is a first one that does not. -/
lemma fits_or_breaksAfter (t : Text) :
    (∀ l ∈ rawLines t, fits l = true) ∨ ∃ ls, BreaksAfter ls t := by
  induction t using induction_on_lines with
  | last t hfeed =>
    by_cases hlength : t.length < bufferSize
    · refine .inl fun l hl => ?_
      exact (fits_iff l).mpr (eq_of_mem_rawLines hfeed hl ▸ hlength)
    · have h := BreaksAfter.of_long hfeed hlength (.inl rfl)
      rw [List.append_nil] at h
      exact .inr ⟨[], h⟩
  | line l t hfeed ih =>
    by_cases hlength : l.length < bufferSize
    · rcases ih with hfits | ⟨ls, hbreaks⟩
      · rw [rawLines_append_cons hfeed]
        exact .inl (List.forall_mem_cons.mpr ⟨(fits_iff l).mpr hlength, hfits⟩)
      · exact .inr ⟨l :: ls, hbreaks.cons hfeed hlength⟩
    · exact .inr ⟨[], .of_long hfeed hlength (.inr rfl)⟩

/-- Nothing but a reader that fails and a line that is too long keeps a source from being read. -/
lemma readError?_ne_none_iff (s : Source) :
    s.readError? ≠ none ↔ s.failure? ≠ none ∨ ∃ ls, BreaksAfter ls s.bytes := by
  rcases fits_or_breaksAfter s.bytes with hfits | ⟨ls, hbreaks⟩
  · have hno : ¬∃ ls, BreaksAfter ls s.bytes := fun ⟨ls, h⟩ => h.not_forall_fits hfits
    rw [readError?_of_fits hfits, ne_eq, Option.map_eq_none_iff, or_iff_left hno]
  · rw [hbreaks.readError?_eq]
    exact iff_of_true (Option.some_ne_none _) (.inr ⟨ls, hbreaks⟩)

end Source

/-! ### What becomes of the lines before -/

namespace Assembler

open Source (BreaksAfter bufferSize dropReturn terminated)

variable (I : Interpreter) (asm : Assembler) (owner : Owner)

lemma text_records (s : Source) :
    (asm.assemble I owner s).1.records.map Record.text = s.lines := by
  rw [records_assemble, List.mapIdx_eq_zipIdx_map, List.map_map]
  exact List.zipIdx_map_fst 0 s.lines

/-- A program says nothing about a source but what its lines are. -/
lemma program_of_lines_eq {s s' : Source} (h : s.lines = s'.lines) :
    (asm.assemble I owner s).1.program = (asm.assemble I owner s').1.program := by
  have hrecords : (asm.assemble I owner s).1.records = (asm.assemble I owner s').1.records := by
    rw [records_assemble, records_assemble, h]
  rw [program_assemble, program_assemble, traces_eq_filterMap, traces_eq_filterMap, hrecords]

/-- A source that is not read to its end keeps the lines before. It breaks at its first line that is
too long, and then the program is that of the lines before this one; and if the reader fails, the
program is that of what it has delivered, with a last line that has no line feed yet. What the lines
say is never a reason for a source not to be read. -/
theorem assemble_of_failed_read (s : Source) :
    ((asm.assemble I owner s).1.readError? ≠ none ↔
      s.failure? ≠ none ∨ ∃ ls, BreaksAfter ls s.bytes) ∧
    (∀ ls, BreaksAfter ls s.bytes →
      (asm.assemble I owner s).1.readError? = some .lineTooLong ∧
      (asm.assemble I owner s).1.program = (asm.assemble I owner ⟨terminated ls, none⟩).1.program ∧
      (asm.assemble I owner s).1.records.map Record.text = ls.map dropReturn) ∧
    (∀ reason, s.failure? = some reason → (¬∃ ls, BreaksAfter ls s.bytes) →
      (asm.assemble I owner s).1.readError? = some (.readFailed reason) ∧
      (asm.assemble I owner s).1.program = (asm.assemble I owner ⟨s.bytes, none⟩).1.program ∧
      ∀ ls tail, (∀ l ∈ tail :: ls, '\n'.toUInt8 ∉ l) → s.bytes = terminated ls ++ tail →
        (asm.assemble I owner s).1.records.map Record.text =
          (ls ++ if tail = [] then [] else [tail]).map dropReturn) ∧
    ∀ ls tail, (∀ l ∈ tail :: ls, '\n'.toUInt8 ∉ l ∧ l.length < bufferSize) →
      (asm.assemble I owner ⟨terminated ls ++ tail, none⟩).1.readError? = none := by
  refine ⟨s.readError?_ne_none_iff, ?long, ?failed, ?said⟩
  case long =>
    intro ls h
    refine ⟨h.readError?_eq, program_of_lines_eq I asm owner ?_, ?_⟩
    · rw [h.lines_eq, h.lines_terminated]
    · rw [text_records, h.lines_eq]
  case failed =>
    intro reason hreason hno
    have hfits := (Source.fits_or_breaksAfter s.bytes).resolve_right hno
    refine ⟨?_, program_of_lines_eq I asm owner rfl, fun ls tail hfeed hbytes => ?_⟩
    · exact (Source.readError?_of_fits hfits).trans (by rw [hreason]; rfl)
    · rw [List.forall_mem_cons] at hfeed
      rw [text_records, Source.lines_of_fits hfits, hbytes,
        Source.rawLines_terminated_append hfeed.2, Source.rawLines_of_notMem hfeed.1]
  case said =>
    intro ls tail h
    exact Source.readError?_of_fits (Source.forall_fits_terminated_append h)

/-- A line that is too long after one that is not, a reader that fails within a line, and lines that
cannot be assembled. -/
theorem assemble_of_failed_read_partial :
    let long : Source := ⟨terminated ["JMP 1"] ++ List.replicate bufferSize 'A'.toUInt8, none⟩
    let cut : Source := ⟨terminated ["JMP 1"] ++ "JMP 2", some "broken pipe"⟩
    (BreaksAfter ["JMP 1"] long.bytes ∧
      (new.assemble Script.standard ⟨0⟩ long).1.readError? = some .lineTooLong ∧
      (new.assemble Script.standard ⟨0⟩ long).1.program.instructions.map Instruction.lineNo = [1]) ∧
    ((¬∃ ls, BreaksAfter ls cut.bytes) ∧
      (new.assemble Script.standard ⟨0⟩ cut).1.readError? = some (.readFailed "broken pipe") ∧
      (new.assemble Script.standard ⟨0⟩ cut).1.program.instructions.map Instruction.lineNo =
        [1, 2] ∧
      (new.assemble Script.standard ⟨0⟩ cut).1.records.map Record.text = ["JMP 1", "JMP 2"]) ∧
    (new.assemble Script.standard ⟨0⟩ ⟨terminated ["JMP #", "$"] ++ "JMP", none⟩).1.readError? =
      none := by
  intro long cut
  have hbreaks : BreaksAfter ["JMP 1"] long.bytes := by
    refine ⟨by decide, by decide, List.replicate bufferSize 'A'.toUInt8, [], ?_, ?_, ?_, .inl rfl⟩
    · rw [List.append_nil]
    · intro hmem
      exact absurd (List.eq_of_mem_replicate hmem) (by decide)
    · rw [List.length_replicate]
  have hno : ¬∃ ls, BreaksAfter ls cut.bytes := by
    rintro ⟨ls, h⟩
    exact h.not_forall_fits (by decide +kernel)
  obtain ⟨-, hlong, -, hsaid⟩ := assemble_of_failed_read Script.standard new ⟨0⟩ long
  obtain ⟨htooLong, hprogram, -⟩ := hlong _ hbreaks
  obtain ⟨-, -, hfailed, -⟩ := assemble_of_failed_read Script.standard new ⟨0⟩ cut
  obtain ⟨hreason, hwhole, htexts⟩ := hfailed _ rfl hno
  refine ⟨⟨hbreaks, htooLong, ?_⟩, ⟨hno, hreason, ?_, ?_⟩, ?_⟩
  · rw [hprogram]
    decide +kernel
  · rw [hwhole]
    decide +kernel
  · exact htexts ["JMP 1"] "JMP 2" (by decide) rfl
  · exact hsaid ["JMP #", "$"] "JMP" (by decide)

end Assembler

end CoreWar
