import CoreWar.Proofs.Cell.Legal
import CoreWar.Proofs.Text.Decimal
import CoreWar.Source.Line

/-!
# Reading what a cell is written as

A number is read back from its decimal digits as far as no further digit follows, and an operand
from its sigil and its number. An operand with an illegal mode cannot be read: what stands for its
mode is neither a sigil nor the start of a number.
-/

namespace CoreWar

/-! ### Texts by their first byte -/

namespace Text

lemma skipBlanks_of_head {t : Text} (h : ∀ b ∈ t.head?, isBlank b = false) :
    t.skipBlanks = t := by
  cases t with
  | nil => rfl
  | cons b t => rw [skipBlanks, List.dropWhile_cons_of_neg (by simp [h b rfl])]

/-- A run of bytes of a class ends where a byte outside of it follows. -/
lemma span_append {p : UInt8 → Bool} {run rest : Text} (hrun : ∀ b ∈ run, p b = true)
    (hrest : ∀ b ∈ rest.head?, p b = false) :
    (run ++ rest).takeWhile p = run ∧ (run ++ rest).dropWhile p = rest := by
  rw [List.takeWhile_append_of_pos hrun, List.dropWhile_append_of_pos hrun]
  cases rest with
  | nil => simp
  | cons b rest =>
    have hb : ¬p b = true := by simp [hrest b rfl]
    rw [List.takeWhile_cons_of_neg hb, List.dropWhile_cons_of_neg hb, List.append_nil]
    exact ⟨rfl, rfl⟩

lemma bne_of_mem {t : Text} {b c : UInt8} (hb : b ∉ t) (hc : c ∈ t) : (c != b) = true := by
  rw [bne_iff_ne]
  rintro rfl
  exact hb hc

lemma not_isBlank_of_isDigit {b : UInt8} (h : isDigit b = true) : isBlank b = false := by
  rw [Bool.eq_false_iff]
  intro hblank
  simp only [isBlank, Bool.or_eq_true, beq_iff_eq] at hblank
  rcases hblank with (((rfl | rfl) | rfl) | rfl) | rfl <;> exact absurd h (by decide)

lemma mem_of_mem_head?_append {t rest : Text} {b : UInt8} (ht : t ≠ [])
    (hb : b ∈ (t ++ rest).head?) : b ∈ t := by
  cases t with
  | nil => exact absurd rfl ht
  | cons d t =>
    cases hb
    exact List.mem_cons_self

/-- The first byte of a number is a sign or a digit. -/
lemma not_isBlank_of_mem_head?_ofInt {i : Int} {rest : Text} {b : UInt8}
    (hb : b ∈ (ofInt i ++ rest).head?) : isBlank b = false := by
  rcases mem_ofInt (mem_of_mem_head?_append (ofInt_ne_nil i) hb) with rfl | hdigit
  · decide
  · exact not_isBlank_of_isDigit hdigit

end Text

namespace Line

/-! ### Numbers -/

lemma sign_of_isDigit {t : Text} (h : ∀ b ∈ t.head?, Text.isDigit b = true) :
    Numeral.sign t = (false, t) := by
  cases t with
  | nil => rfl
  | cons b t =>
    have hb : Text.isDigit b = true := h b rfl
    have hminus : b ≠ '-'.toUInt8 := by
      rintro rfl
      exact absurd hb (by decide)
    have hplus : b ≠ '+'.toUInt8 := by
      rintro rfl
      exact absurd hb (by decide)
    rw [Numeral.sign, if_neg hminus, if_neg hplus]

/-- A number is read back from its digits. -/
lemma number?_ofInt_append (i : Int) {rest : Text}
    (hrest : ∀ b ∈ rest.head?, Text.isDigit b = false) :
    number? (Text.ofInt i ++ rest) = some (i, rest) := by
  obtain ⟨htake, hdrop⟩ := Text.span_append
    (fun b (hb : b ∈ Text.ofNat i.natAbs) => Text.isDigit_of_mem_ofNat hb) hrest
  have hempty : (Text.ofNat i.natAbs).isEmpty = false := by
    simp [Text.ofNat_ne_nil]
  by_cases hneg : i < 0
  · have hsign : Numeral.sign (Text.ofInt i ++ rest) = (true, Text.ofNat i.natAbs ++ rest) := by
      rw [Text.ofInt_of_neg hneg]
      rfl
    simp only [number?, hsign, htake, hdrop, hempty, Text.toNat_ofNat, Bool.false_eq_true, if_false,
      if_true]
    rw [← Int.eq_neg_natAbs_of_nonpos (Int.le_of_lt hneg)]
  · have hhead : ∀ b ∈ (Text.ofNat i.natAbs ++ rest).head?, Text.isDigit b = true := by
      intro b hb
      exact Text.isDigit_of_mem_ofNat
        (Text.mem_of_mem_head?_append (Text.ofNat_ne_nil i.natAbs) hb)
    rw [Text.ofInt_of_nonneg hneg]
    simp only [number?, sign_of_isDigit hhead, htake, hdrop, hempty, Text.toNat_ofNat,
      Bool.false_eq_true, if_false]
    rw [Int.natAbs_of_nonneg (Int.not_lt.mp hneg)]

/-! ### Operands -/

lemma operand?_blank (t : Text) : operand? (' '.toUInt8 :: t) = operand? t := rfl

/-- An operand with a legal mode is read back. -/
lemma operand?_render_append {o : Operand} {α : Addressing} (ho : o.mode = .ofAddressing α)
    {rest : Text} (hrest : ∀ b ∈ rest.head?, Text.isDigit b = false) :
    operand? (o.render ++ rest) = some (⟨α, o.field.toInt⟩, rest) := by
  have hrender : o.render ++ rest = α.sigil ++ (Text.ofInt o.field.toInt ++ rest) := by
    simp [Operand.render, Mode.render, ho]
  have hsigil : sigil (Text.skipBlanks (α.sigil ++ (Text.ofInt o.field.toInt ++ rest))) =
      (α, Text.ofInt o.field.toInt ++ rest) := by
    cases α <;> rfl
  have hblanks : Text.skipBlanks (Text.ofInt o.field.toInt ++ rest) =
      Text.ofInt o.field.toInt ++ rest :=
    Text.skipBlanks_of_head fun b hb => Text.not_isBlank_of_mem_head?_ofInt hb
  rw [hrender, operand?]
  simp only [hsigil, hblanks, number?_ofInt_append _ hrest, Option.map_some]

/-- An operand with an illegal mode is not read at all. -/
lemma operand?_render_of_illegal {o : Operand} (ho : o.mode.addressing? = none) (rest : Text) :
    operand? (o.render ++ rest) = none := by
  simp only [Operand.render, Mode.render, ho, List.append_assoc]
  rfl

/-- Both operands of a cell as they are written after its mnemonic. -/
def operandText (a b : Operand) : Text :=
  ' '.toUInt8 :: (a.render ++ ','.toUInt8 :: ' '.toUInt8 :: b.render)

lemma render_eq_append_operandText (c : Cell) :
    c.render = c.opcode.render ++ operandText c.a c.b := by
  simp only [Cell.render, operandText, List.append_assoc]
  rfl

/-- With a first operand that is read back, all depends on the second one. -/
lemma operands?_operandText {a b : Operand} {α : Addressing} (ha : a.mode = .ofAddressing α) :
    operands? (operandText a b) =
      (operand? b.render).bind fun (second, rest) =>
        if rest.skipBlanks.isEmpty then some (⟨α, a.field.toInt⟩, some second) else none := by
  have hcomma : ∀ d ∈ (','.toUInt8 :: ' '.toUInt8 :: b.render : Text).head?,
      Text.isDigit d = false := by
    rintro d ⟨⟩
    decide
  rw [operandText, operands?, operand?_blank, operand?_render_append ha hcomma]
  simp only [Option.bind_eq_bind, Option.bind_some]
  rw [Text.skipBlanks_of_head (by rintro d ⟨⟩; decide)]
  simp only [if_true, operand?_blank]

/-- The operands of a cell with legal modes are read back. -/
lemma operands?_operandText_of_legal {a b : Operand} {α β : Addressing}
    (ha : a.mode = .ofAddressing α) (hb : b.mode = .ofAddressing β) :
    operands? (operandText a b) = some (⟨α, a.field.toInt⟩, some ⟨β, b.field.toInt⟩) := by
  have hsecond : operand? b.render = some (⟨β, b.field.toInt⟩, []) := by
    rw [← List.append_nil b.render]
    exact operand?_render_append hb (by simp)
  rw [operands?_operandText ha, hsecond]
  rfl

/-- The operands of a cell with an illegal mode are not read. -/
lemma operands?_operandText_of_illegal {a b : Operand}
    (h : a.mode.addressing? = none ∨ b.mode.addressing? = none) :
    operands? (operandText a b) = none := by
  cases ha : a.mode.addressing? with
  | none =>
    rw [operandText, operands?, operand?_blank, operand?_render_of_illegal ha]
    rfl
  | some α =>
    have hsecond : operand? b.render = none := by
      rw [← List.append_nil b.render]
      exact operand?_render_of_illegal (h.resolve_left (by simp [ha])) []
    rw [operands?_operandText (Mode.eq_ofAddressing ha), hsecond]
    rfl

end Line

end CoreWar
