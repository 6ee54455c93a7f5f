import CoreWar.Proofs.Assembler.Outcome
import CoreWar.Proofs.Source.Expansion
import CoreWar.Proofs.Source.Grammar
import CoreWar.Script.Interpreter

/-!
# Lines that are assembled

Which lines without expressions are instructions, and what comes of them: a cell, or one of three
errors of which the first that applies is given. Everything is said by the grammar of a line
(`assembleLine_grammar`).
-/

namespace CoreWar

namespace Line

/-- The number of an operand fits a field. -/
def Written.InField (w : Written) : Prop :=
  -2147483648 ≤ w.value ∧ w.value ≤ 2147483647

/-- The operand stands for what is written. -/
structure Written.Denotes (w : Written) (o : Operand) : Prop where
  mode : o.mode = .ofAddressing w.addressing
  field : o.field.toInt = w.value

lemma exists_isDigit_of_operandText {t : Text} {w : Written} (h : OperandText t w) :
    ∃ b ∈ t, Text.isDigit b = true := by
  obtain ⟨-, -, -, -, hne, hall⟩ := h
  obtain ⟨b, hb⟩ := List.exists_mem_of_ne_nil _ hne
  exact ⟨b, by simp [hb], hall b hb⟩

lemma exists_isDigit_of_operandsText {t : Text} {a : Written} {b : Option Written}
    (h : OperandsText t a b) : ∃ d ∈ t, Text.isDigit d = true := by
  cases h with
  | one ha _ | two ha _ _ _ =>
    obtain ⟨d, hd, hdigit⟩ := exists_isDigit_of_operandText ha
    exact ⟨d, List.mem_append_left _ hd, hdigit⟩

end Line

namespace Assembler

/-! ### Operands -/

lemma operand_of_inField {w : Line.Written} (h : w.InField) :
    ∃ o, kept (operand w) = .ok o ∧ w.Denotes o := by
  have hfield : field? w.value = some (Int32.ofInt w.value) := if_pos h
  refine ⟨⟨.ofAddressing w.addressing, Int32.ofInt w.value⟩, ?_, rfl, ?_⟩
  · simp only [operand, hfield, kept]
  · exact Int32.toInt_ofInt_of_le h.1 (Int.lt_of_le_sub_one h.2)

lemma operand_of_not_inField {w : Line.Written} (h : ¬w.InField) :
    kept (operand w) = .error .fieldRange := by
  have hfield : field? w.value = none := if_neg h
  simp only [operand, hfield, kept]

section

variable (owner : Owner) (op : Operation) {t : Text}

lemma assembleOperands_of_no_digit (h : ∀ b ∈ t, Text.isDigit b = false) :
    assembleOperands owner op t = .error .fieldMissing := by
  have hdigit : t.any Text.isDigit = false := List.any_eq_false.mpr (by simpa using h)
  rw [assembleOperands_eq, hdigit]
  rfl

lemma assembleOperands_of_malformed (hdigit : ∃ b ∈ t, Text.isDigit b = true)
    (h : ¬∃ a b, Line.OperandsText t a b) :
    assembleOperands owner op t = .error .operandSyntax := by
  have hnone : Line.operands? t = none := by
    rw [Option.eq_none_iff_forall_ne_some]
    rintro ⟨a, b⟩ hread
    exact h ⟨a, b, Line.operands?_eq_some_iff.mp hread⟩
  rw [assembleOperands_eq, List.any_eq_true.mpr hdigit, hnone]
  rfl

section

variable {a : Line.Written} {b : Option Line.Written} (h : Line.OperandsText t a b)

include h

/-- Operands that are read give a cell, a single one as if it were written twice. -/
lemma assembleOperands_of_operandsText :
    assembleOperands owner op t = do
      let x ← kept (operand a)
      let y ← kept (operand (b.getD a))
      return ⟨.ofOperation op, x, y, owner⟩ := by
  rw [assembleOperands_eq, List.any_eq_true.mpr (Line.exists_isDigit_of_operandsText h),
    Line.operands?_eq_some_iff.mpr h]
  rfl

lemma assembleOperands_of_range (hrange : ¬(a.InField ∧ (b.getD a).InField)) :
    assembleOperands owner op t = .error .fieldRange := by
  rw [assembleOperands_of_operandsText owner op h]
  by_cases ha : a.InField
  · obtain ⟨x, hx, -⟩ := operand_of_inField ha
    have hb : ¬(b.getD a).InField := fun hb => hrange ⟨ha, hb⟩
    rw [hx, operand_of_not_inField hb]
    rfl
  · rw [operand_of_not_inField ha]
    rfl

lemma exists_assembleOperands (ha : a.InField) (hb : (b.getD a).InField) :
    ∃ c : Cell, assembleOperands owner op t = .ok c ∧ c.opcode = .ofOperation op ∧
      a.Denotes c.a ∧ (b.getD a).Denotes c.b ∧ c.owner = owner := by
  obtain ⟨x, hx, hxa⟩ := operand_of_inField ha
  obtain ⟨y, hy, hyb⟩ := operand_of_inField hb
  rw [assembleOperands_of_operandsText owner op h, hx, hy]
  exact ⟨_, rfl, rfl, hxa, hyb, rfl⟩

end

/-- Operands are in one of four cases, each of which has its own outcome. -/
lemma assembleOperands_cases (t : Text) :
    ((∀ b ∈ t, Text.isDigit b = false) ∧ assembleOperands owner op t = .error .fieldMissing) ∨
    (((∃ b ∈ t, Text.isDigit b = true) ∧ ¬∃ a b, Line.OperandsText t a b) ∧
      assembleOperands owner op t = .error .operandSyntax) ∨
    ((∃ a b, Line.OperandsText t a b ∧ ¬(a.InField ∧ (b.getD a).InField)) ∧
      assembleOperands owner op t = .error .fieldRange) ∨
    ∃ c, assembleOperands owner op t = .ok c := by
  by_cases hdigit : ∃ b ∈ t, Text.isDigit b = true
  · by_cases hread : ∃ a b, Line.OperandsText t a b
    · obtain ⟨a, b, hab⟩ := hread
      by_cases hrange : a.InField ∧ (b.getD a).InField
      · obtain ⟨c, hc, -⟩ := exists_assembleOperands owner op hab hrange.1 hrange.2
        exact .inr (.inr (.inr ⟨c, hc⟩))
      · have hout := assembleOperands_of_range owner op hab hrange
        exact .inr (.inr (.inl ⟨⟨a, b, hab, hrange⟩, hout⟩))
    · exact .inr (.inl ⟨⟨hdigit, hread⟩, assembleOperands_of_malformed owner op hdigit hread⟩)
  · have hmissing : ∀ b ∈ t, Text.isDigit b = false := by simpa using hdigit
    exact .inl ⟨hmissing, assembleOperands_of_no_digit owner op hmissing⟩

lemma assembleOperands_eq_fieldMissing_iff :
    assembleOperands owner op t = .error .fieldMissing ↔ ∀ b ∈ t, Text.isDigit b = false := by
  refine ⟨fun h => ?_, assembleOperands_of_no_digit owner op⟩
  rcases assembleOperands_cases owner op t with ⟨hmissing, -⟩ | ⟨-, h'⟩ | ⟨-, h'⟩ | ⟨c, h'⟩
  · exact hmissing
  all_goals cases h.symm.trans h'

lemma assembleOperands_eq_operandSyntax_iff :
    assembleOperands owner op t = .error .operandSyntax ↔
      (∃ b ∈ t, Text.isDigit b = true) ∧ ¬∃ a b, Line.OperandsText t a b := by
  refine ⟨fun h => ?_, fun h => assembleOperands_of_malformed owner op h.1 h.2⟩
  rcases assembleOperands_cases owner op t with ⟨-, h'⟩ | ⟨hmalformed, -⟩ | ⟨-, h'⟩ | ⟨c, h'⟩
  · cases h.symm.trans h'
  · exact hmalformed
  all_goals cases h.symm.trans h'

lemma assembleOperands_eq_fieldRange_iff :
    assembleOperands owner op t = .error .fieldRange ↔
      ∃ a b, Line.OperandsText t a b ∧ ¬(a.InField ∧ (b.getD a).InField) := by
  constructor
  · intro h
    rcases assembleOperands_cases owner op t with ⟨-, h'⟩ | ⟨-, h'⟩ | ⟨hrange, -⟩ | ⟨c, h'⟩
    · cases h.symm.trans h'
    · cases h.symm.trans h'
    · exact hrange
    · cases h.symm.trans h'
  · rintro ⟨a, b, hab, hrange⟩
    exact assembleOperands_of_range owner op hab hrange

end

/-! ### Lines -/

section

variable (I : Interpreter) (owner : Owner) (equate? : Text → Option Int64) (lineNo : Nat)
  {line : Text}

lemma isSome_assembleLine_iff :
    (assembleLine I owner equate? lineNo line).isSome = true ↔
      ∃ op word rest, Line.Opens line op word rest := by
  constructor
  · intro h
    obtain ⟨t, ht⟩ := Option.isSome_iff_exists.mp h
    rw [assembleLine_eq] at ht
    obtain ⟨⟨word, rest⟩, hword, ht⟩ := Option.bind_eq_some_iff.mp ht
    obtain ⟨op, hop, -⟩ := Option.bind_eq_some_iff.mp ht
    exact ⟨op, word, rest, Line.opens_iff.mpr ⟨hword, hop⟩⟩
  · rintro ⟨op, word, rest, h⟩
    obtain ⟨hword, hop⟩ := Line.opens_iff.mp h
    simp only [assembleLine_eq, hword, Option.bind_some, hop]
    split <;> rfl

/-- A line without expressions is assembled as its operands are. -/
lemma assembleLine_of_opens (hplain : Expansion.Plain line) {op : Operation} {word rest : Text}
    (h : Line.Opens line op word rest) :
    assembleLine I owner equate? lineNo line =
      some (.ofOutcome lineNo line.trim word rest.trim (assembleOperands owner op rest)) := by
  obtain ⟨hword, hop⟩ := Line.opens_iff.mp h
  have hrest : Expansion.Plain rest := by
    obtain ⟨⟨before, -, hline⟩, -⟩ := h
    rw [hline] at hplain
    exact hplain.right_of_append.right_of_append
  simp only [assembleLine_eq, hword, Option.bind_some, hop,
    Expansion.expand_of_plain I equate? hrest]

/-- On a line without expressions the equates do not matter. -/
lemma assembleLine_of_plain (equate'? : Text → Option Int64) (hplain : Expansion.Plain line) :
    assembleLine I owner equate? lineNo line = assembleLine I owner equate'? lineNo line := by
  by_cases h : ∃ op word rest, Line.Opens line op word rest
  · obtain ⟨op, word, rest, hopens⟩ := h
    rw [assembleLine_of_opens I owner equate? lineNo hplain hopens,
      assembleLine_of_opens I owner equate'? lineNo hplain hopens]
  · have hnone : ∀ e, assembleLine I owner e lineNo line = none := by
      intro e
      rw [← Option.not_isSome_iff_eq_none, isSome_assembleLine_iff]
      exact h
    rw [hnone, hnone]

end

/-- The assembler accepts exactly the grammar of a line. A line without expressions is an
instruction exactly if it opens with a mnemonic, and of the rest of such a line comes the error that
a number is missing, that the operands are malformed or that a number is out of range, by the first
of these that is the case, or else a cell of the operation with the addressing and the numbers that
are written. -/
theorem assembleLine_grammar (I : Interpreter) (owner : Owner)
    (equate? : Text → Option Int64) (lineNo : Nat) {line : Text}
    (hplain : ¬['$'.toUInt8, '('.toUInt8] <:+: line) :
    ((assembleLine I owner equate? lineNo line).isSome = true ↔
      ∃ op word rest, Line.Opens line op word rest) ∧
    ∀ op word rest, Line.Opens line op word rest →
      ∃ t, assembleLine I owner equate? lineNo line = some t ∧
        (t.outcome = .error .fieldMissing ↔ ∀ b ∈ rest, Text.isDigit b = false) ∧
        (t.outcome = .error .operandSyntax ↔
          (∃ b ∈ rest, Text.isDigit b = true) ∧ ¬∃ a b, Line.OperandsText rest a b) ∧
        (t.outcome = .error .fieldRange ↔
          ∃ a b, Line.OperandsText rest a b ∧ ¬(a.InField ∧ (b.getD a).InField)) ∧
        ∀ a b, Line.OperandsText rest a b → a.InField → (b.getD a).InField →
          ∃ c, t.outcome = .ok c ∧ c.opcode = .ofOperation op ∧ a.Denotes c.a ∧
            (b.getD a).Denotes c.b ∧ c.owner = owner := by
  refine ⟨isSome_assembleLine_iff I owner equate? lineNo, fun op word rest h => ?_⟩
  refine ⟨_, assembleLine_of_opens I owner equate? lineNo (Expansion.plain_iff.mpr hplain) h, ?_⟩
  rw [Trace.outcome_ofOutcome]
  exact ⟨assembleOperands_eq_fieldMissing_iff owner op,
    assembleOperands_eq_operandSyntax_iff owner op,
    assembleOperands_eq_fieldRange_iff owner op,
    fun a b hab ha hb => exists_assembleOperands owner op hab ha hb⟩

/-- A mnemonic in mixed case, white space in every place and leading zeros are all allowed. -/
theorem assembleLine_grammar_spaced :
    ∃ t c, assembleLine Script.standard .nobody (fun _ => none) 7
        (" mOv\t# -007 , @+12 " : Text) = some t ∧
      t.outcome = .ok c ∧ c.opcode = .ofOperation .mov ∧
      c.a.mode = .ofAddressing .immediate ∧ c.a.field.toInt = -7 ∧
      c.b.mode = .ofAddressing .indirect ∧ c.b.field.toInt = 12 := by
  have hplain : ¬['$'.toUInt8, '('.toUInt8] <:+: (" mOv\t# -007 , @+12 " : Text) := by
    decide +kernel
  have hopens : Line.Opens (" mOv\t# -007 , @+12 " : Text) .mov ("mOv" : Text)
      ("\t# -007 , @+12 " : Text) :=
    Line.opens_iff.mpr ⟨by decide +kernel, by decide +kernel⟩
  have hoperands : Line.OperandsText ("\t# -007 , @+12 " : Text) ⟨.immediate, -7⟩
      (some ⟨.indirect, 12⟩) :=
    Line.operands?_eq_some_iff.mp (by decide +kernel)
  obtain ⟨-, hlines⟩ := assembleLine_grammar Script.standard .nobody (fun _ => none) 7 hplain
  obtain ⟨t, ht, -, -, -, hcell⟩ := hlines _ _ _ hopens
  obtain ⟨c, hc, hop, ha, hb, -⟩ :=
    hcell _ _ hoperands ⟨by decide, by decide⟩ ⟨by decide, by decide⟩
  exact ⟨t, c, ht, hc, hop, ha.mode, ha.field, hb.mode, hb.field⟩

end Assembler

end CoreWar
