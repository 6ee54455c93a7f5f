import CoreWar.Proofs.Assembler.Grammar
import CoreWar.Proofs.Assembler.Progress
import CoreWar.Proofs.Script.Identifier
import CoreWar.Proofs.Source.Template

/-!
# Transparency of expressions

An expression is as good as its value. A line with expressions comes to what it comes to with the
decimal digits of their values written in their places, wherever these places are; and if one of
them has no value, the first such one is what is wrong with the line, whatever else may be wrong
with it (`assemble_template`).
-/

namespace CoreWar

/-! ### Words of operations -/

lemma Operation.isUpper_of_mem_mnemonic {op : Operation} {b : UInt8} (hb : b ∈ op.mnemonic) :
    Text.isUpper b = true := by
  have hall : op.mnemonic.all Text.isUpper = true := by cases op <;> decide
  exact List.all_eq_true.mp hall b hb

lemma Text.isLetter_of_isUpper_upperByte {b : UInt8} (hb : isUpper (upperByte b) = true) :
    isLetter b = true := by
  rw [upperByte] at hb
  split at hb
  · rename_i hlower
    rw [isLetter, hlower, Bool.or_true]
  · rw [isLetter, hb, Bool.true_or]

lemma Text.not_isLetter_of_isDigit {b : UInt8} (hb : isDigit b = true) : isLetter b = false := by
  simp only [isDigit, Bool.and_eq_true, decide_eq_true_eq, UInt8.le_iff_toNat_le] at hb
  simp only [isLetter, isUpper, isLower, Bool.or_eq_false_iff, Bool.and_eq_false_iff,
    decide_eq_false_iff_not, UInt8.le_iff_toNat_le]
  obtain ⟨-, hnine⟩ := hb
  have hA : ('9'.toUInt8).toNat < ('A'.toUInt8).toNat := by decide
  have ha : ('9'.toUInt8).toNat < ('a'.toUInt8).toNat := by decide
  omega

lemma Text.not_isLetter_of_mem_head?_ofInt {i : Int} {rest : Text} {b : UInt8}
    (hb : b ∈ (ofInt i ++ rest).head?) : isLetter b = false := by
  rcases mem_ofInt (mem_of_mem_head?_append (ofInt_ne_nil i) hb) with rfl | hdigit
  · decide
  · exact not_isLetter_of_isDigit hdigit

namespace Line

/-- The word of an operation in any case opens a line, unless it is part of a longer word. -/
lemma Opens.of_mnemonic {before word rest : Text} {op : Operation} (hbefore : Blanks before)
    (hword : word.map Text.upperByte = op.mnemonic)
    (hrest : ∀ b ∈ rest.head?, Text.isLetter b = false) :
    Opens (before ++ (word ++ rest)) op word rest := by
  refine ⟨⟨before, hbefore, rfl⟩, fun b hb => ?_, hrest, hword⟩
  have hmem : Text.upperByte b ∈ op.mnemonic := hword ▸ List.mem_map_of_mem hb
  exact Text.isLetter_of_isUpper_upperByte (Operation.isUpper_of_mem_mnemonic hmem)

/-- A comment can only start after the word of an operation. -/
lemma Opens.withoutComment_of_notMem {line word rest : Text} {op : Operation}
    (h : Opens line op word rest) (hrest : ';'.toUInt8 ∉ rest) : withoutComment line = line := by
  obtain ⟨⟨before, hbefore, rfl⟩, hletters, -, -⟩ := h
  refine List.takeWhile_eq_self_iff.mpr fun b hb => bne_iff_ne.mpr ?_
  rintro rfl
  rcases List.mem_append.mp hb with hb | hb
  · exact absurd (hbefore _ hb) (by decide)
  · rcases List.mem_append.mp hb with hb | hb
    · exact absurd (hletters _ hb) (by decide)
    · exact hrest hb

end Line

namespace Expansion

/-! ### Bytes of a template -/

lemma Slot.notMem_filled {b : UInt8} (hminus : b ≠ '-'.toUInt8) (hdigit : Text.isDigit b = false)
    {s : Slot} (hb : b ∉ s.text) (value : Text → Int64) : b ∉ s.filled value := by
  intro h
  rcases List.mem_append.mp h with h | h
  · exact Text.notMem_ofInt hminus hdigit _ h
  · exact hb (by simp [Slot.text, h])

/-- The values of expressions add nothing but digits and minus signs. -/
lemma Template.notMem_filled {b : UInt8} (hminus : b ≠ '-'.toUInt8)
    (hdigit : Text.isDigit b = false) {t : Template} (hb : b ∉ t.text) (value : Text → Int64) :
    b ∉ t.filled value := by
  simp only [Template.text, List.mem_append, List.mem_flatMap, not_or, not_exists, not_and] at hb
  simp only [Template.filled, List.mem_append, List.mem_flatMap, not_or, not_exists, not_and]
  exact ⟨hb.1, fun s hs => Slot.notMem_filled hminus hdigit (hb.2 s hs) value⟩

/-- Neither an expression nor its value goes on with a word in front of it. -/
lemma Template.not_isLetter_head? {t : Template}
    (hfront : ∀ b ∈ t.front.head?, Text.isLetter b = false) :
    (∀ b ∈ t.text.head?, Text.isLetter b = false) ∧
      ∀ value, ∀ b ∈ (t.filled value).head?, Text.isLetter b = false := by
  obtain ⟨front, slots⟩ := t
  cases front with
  | cons c front => exact ⟨hfront, fun _ => hfront⟩
  | nil =>
    refine ⟨fun b hb => ?_, fun value b hb => ?_⟩
    · rw [eq_dollar_of_mem_head?_slots hb]
      decide
    · cases slots with
      | nil => cases hb
      | cons s slots =>
        rw [Template.filled, List.nil_append, List.flatMap_cons, Slot.filled,
          List.append_assoc] at hb
        exact Text.not_isLetter_of_mem_head?_ofInt hb

end Expansion

namespace Assembler

section

variable (I : Interpreter) (owner : Owner) (equate? : Text → Option Int64) (lineNo : Nat)
  {line word rest : Text} {op : Operation} (h : Line.Opens line op word rest)

include h

/-- A line is assembled as its operands are after they have been expanded. -/
lemma assembleLine_of_expand {operands : Text}
    (hexpand : Expansion.expand I equate? rest = .ok operands) :
    assembleLine I owner equate? lineNo line =
      some (.ofOutcome lineNo line.trim word operands.trim
        (assembleOperands owner op operands)) := by
  obtain ⟨hword, hop⟩ := Line.opens_iff.mp h
  simp only [assembleLine_eq, hword, Option.bind_some, hop, hexpand]

lemma assembleLine_of_failure {failure : Expansion.Failure}
    (hexpand : Expansion.expand I equate? rest = .error failure) :
    assembleLine I owner equate? lineNo line =
      some (.ofOutcome lineNo line.trim word rest.trim (.error (.expression failure))) := by
  obtain ⟨hword, hop⟩ := Line.opens_iff.mp h
  simp only [assembleLine_eq, hword, Option.bind_some, hop, hexpand]

end

/-- The numbers of a cell are those that are written. -/
lemma exists_operandsText_of_assembleOperands {owner : Owner} {op : Operation} {t : Text}
    {c : Cell} (h : assembleOperands owner op t = .ok c) :
    ∃ a b, Line.OperandsText t a b ∧ a.Denotes c.a ∧ (b.getD a).Denotes c.b := by
  have hread : ∃ a b, Line.OperandsText t a b := by
    by_contra hread
    by_cases hdigit : ∃ b ∈ t, Text.isDigit b = true
    · cases h.symm.trans (assembleOperands_of_malformed owner op hdigit hread)
    · cases h.symm.trans (assembleOperands_of_no_digit owner op (by simpa using hdigit))
  obtain ⟨a, b, hab⟩ := hread
  by_cases hrange : a.InField ∧ (b.getD a).InField
  · obtain ⟨c', hc', -, ha, hb, -⟩ := exists_assembleOperands owner op hab hrange.1 hrange.2
    cases h.symm.trans hc'
    exact ⟨a, b, hab, ha, hb⟩
  · cases h.symm.trans (assembleOperands_of_range owner op hab hrange)

/-- Expressions are transparent. A line of a source is given as the word of an operation and a
template in which no semicolon occurs. If every expression has a value, the line has the same
operands and the same outcome as the line with the decimal digits of the values in their places, so
that a number that does not fit a field is an error and the numbers of a cell are those that are
written there. If not, the line has no cell, and its error is that of the first expression that has
no value. What the interpreter makes of an expression does not matter. -/
theorem assemble_template (I : Interpreter) (asm : Assembler) (owner : Owner) {s : Source} {i : Nat}
    {before word : Text} {op : Operation} {t : Expansion.Template}
    (hline : s.lines[i]? = some (before ++ (word ++ t.text)))
    (hcomment : ';'.toUInt8 ∉ t.text) (hbefore : Line.Blanks before)
    (hword : word.map Text.upperByte = op.mnemonic)
    (hfront : ∀ b ∈ t.front.head?, Text.isLetter b = false) (ht : t.WellFormed) :
    let equate? := (equatesAt asm.predefined (i + 1)).value?
    ∃ trace, (asm.assemble I owner s).1.records[i]? =
        some ⟨i + 1, before ++ (word ++ t.text), some trace⟩ ∧
      (∀ value : Text → Int64,
        (∀ e ∈ t.expressions, Expression.evaluate I equate? e = .ok (value e)) →
        (∃ trace', (recordLine I owner asm.predefined (i + 1)
              (before ++ (word ++ t.filled value))).trace? = some trace' ∧
            trace.outcome = trace'.outcome ∧ trace.operands = trace'.operands) ∧
          (trace.outcome = .error .fieldRange ↔ ∃ a b,
            Line.OperandsText (t.filled value) a b ∧ ¬(a.InField ∧ (b.getD a).InField)) ∧
          ∀ c, trace.outcome = .ok c → ∃ a b, Line.OperandsText (t.filled value) a b ∧
            a.Denotes c.a ∧ (b.getD a).Denotes c.b) ∧
      ∀ earlier e later fault, t.expressions = earlier ++ e :: later →
        (∀ e' ∈ earlier, ∃ w, Expression.evaluate I equate? e' = .ok w) →
        Expression.evaluate I equate? e = .error fault →
        trace.outcome = .error (.expression ⟨e, fault⟩) ∧ trace.cell = .zero ∧
          trace.instruction? = none := by
  intro equate?
  obtain ⟨htext, hfilled⟩ := Expansion.Template.not_isLetter_head? hfront
  have hopens := Line.Opens.of_mnemonic hbefore hword htext
  obtain ⟨trace, htrace⟩ := Option.isSome_iff_exists.mp
    ((isSome_assembleLine_iff I owner equate? (i + 1)).mpr ⟨op, word, t.text, hopens⟩)
  refine ⟨trace, ?_, fun value hvalue => ?_, fun earlier e later fault hsplit hearlier he => ?_⟩
  · rw [getElem?_records I owner asm hline, recordLine, hopens.withoutComment_of_notMem hcomment,
      htrace]
  · have hopens' := Line.Opens.of_mnemonic hbefore hword (hfilled value)
    have hcomment' := Expansion.Template.notMem_filled (by decide) (by decide) hcomment value
    -- once the values are written out there is nothing left to expand
    have htrace' := assembleLine_of_expand I owner equate? (i + 1) hopens'
      (Expansion.expand_of_plain I equate? (ht.plain_filled value))
    rw [← hopens'.withoutComment_of_notMem hcomment'] at htrace'
    rw [assembleLine_of_expand I owner equate? (i + 1) hopens (ht.expand_of_value hvalue)] at htrace
    obtain rfl := Option.some_inj.mp htrace
    simp only [Trace.outcome_ofOutcome]
    exact ⟨⟨_, htrace', by simp, by simp⟩, assembleOperands_eq_fieldRange_iff owner op,
      fun c hc => exists_operandsText_of_assembleOperands hc⟩
  · rw [assembleLine_of_failure I owner equate? (i + 1) hopens
      (ht.expand_of_fault hsplit hearlier he)] at htrace
    cases htrace
    exact ⟨rfl, rfl, rfl⟩

/-- A value behind a dollar sign and one between digits, where it makes a number that does not fit a
field, and an undefined name in operands that would be malformed anyway. -/
theorem assemble_template_glued :
    let asm := new.predefine "N" "0x80000000"
    let s : Source := ⟨"mov $$(LINENO), 1$(N)2\nDAT $(N), $(M), #", none⟩
    let records := (asm.assemble Script.standard ⟨0⟩ s).1.records
    (∃ line trace, records[0]? = some ⟨1, line, some trace⟩ ∧
        trace.operands = ("$1, 121474836482" : Text) ∧ trace.outcome = .error .fieldRange) ∧
      ∃ line trace fault, records[1]? = some ⟨2, line, some trace⟩ ∧
        trace.outcome = .error (.expression ⟨"M", fault⟩) := by
  intro asm s records
  have hN : ∀ n ∈ [1, 2],
      Expression.evaluate Script.standard (equatesAt asm.predefined n).value? "N" =
        .ok 0x80000000 := by
    intro n hn
    rcases List.mem_pair.mp hn with rfl | rfl <;>
      exact Script.evaluate_standard (by decide) (by decide) (by decide) (by decide)
        (by decide +kernel)
  have hbefore : Line.Blanks [] := List.forall_mem_nil _
  constructor
  · let t : Expansion.Template := ⟨" $", [⟨"LINENO", ", 1"⟩, ⟨"N", "2"⟩]⟩
    let value : Text → Int64 := fun e => if e = ("N" : Text) then 0x80000000 else 1
    have hline : s.lines[0]? = some (([] : Text) ++ (("mov" : Text) ++ t.text)) := by
      decide +kernel
    have hword : ("mov" : Text).map Text.upperByte = Operation.mnemonic .mov := by decide
    have ht : t.WellFormed := by
      refine ⟨by decide, fun s hs => ?_⟩
      rcases List.mem_pair.mp hs with rfl | rfl <;> exact ⟨by decide, by decide, by decide⟩
    have hvalue : ∀ e ∈ t.expressions,
        Expression.evaluate Script.standard (equatesAt asm.predefined 1).value? e =
          .ok (value e) := by
      intro e he
      rcases List.mem_pair.mp he with rfl | rfl
      · exact Script.evaluate_standard (by decide) (by decide) (by decide) (by decide)
          (by decide +kernel)
      · exact hN 1 (by decide)
    have hoperands : (recordLine Script.standard ⟨0⟩ asm.predefined 1
        (([] : Text) ++ (("mov" : Text) ++ t.filled value))).trace?.map Trace.operands =
          some ("$1, 121474836482" : Text) := by
      decide +kernel
    have htext : Line.OperandsText (t.filled value) ⟨.relative, 1⟩
        (some ⟨.relative, 121474836482⟩) :=
      Line.operands?_eq_some_iff.mp (by decide +kernel)
    have hrange : ¬(Line.Written.InField ⟨.relative, 121474836482⟩) :=
      fun h => absurd h.2 (by decide)
    obtain ⟨trace, hrecord, hvalues, -⟩ :=
      assemble_template Script.standard asm ⟨0⟩ hline (by decide) hbefore hword
        (by rintro b ⟨⟩; decide) ht
    obtain ⟨⟨trace', htrace', -, hsame⟩, hfieldRange, -⟩ := hvalues value hvalue
    rw [htrace', Option.map_some, ← hsame] at hoperands
    exact ⟨_, trace, hrecord, Option.some.inj hoperands,
      hfieldRange.mpr ⟨_, _, htext, fun h => hrange h.2⟩⟩
  · let t : Expansion.Template := ⟨" ", [⟨"N", ", "⟩, ⟨"M", ", #"⟩]⟩
    have hline : s.lines[1]? = some (([] : Text) ++ (("DAT" : Text) ++ t.text)) := by
      decide +kernel
    have hword : ("DAT" : Text).map Text.upperByte = Operation.mnemonic .dat := by decide
    have ht : t.WellFormed := by
      refine ⟨by decide, fun s hs => ?_⟩
      rcases List.mem_pair.mp hs with rfl | rfl <;> exact ⟨by decide, by decide, by decide⟩
    have hequate : (equatesAt asm.predefined 2).value? "M" = none := by decide +kernel
    obtain ⟨fault, hM⟩ := Script.exists_evaluate_standard_eq_error (by decide) (by decide)
      (by decide) (by decide) (by decide +kernel) hequate
    obtain ⟨trace, hrecord, -, hfault⟩ :=
      assemble_template Script.standard asm ⟨0⟩ hline (by decide) hbefore hword
        (by rintro b ⟨⟩; decide) ht
    refine ⟨_, trace, _, hrecord, (hfault [("N" : Text)] "M" [] _ rfl (fun e he => ?_) hM).1⟩
    rw [List.mem_singleton.mp he]
    exact ⟨_, hN 2 (by decide)⟩

end Assembler

end CoreWar
