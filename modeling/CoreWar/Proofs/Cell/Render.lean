import CoreWar.Cell.Basic
import CoreWar.Proofs.Text.Decimal

/-!
# Cells as they are written

Which bytes a written cell is made of, and how many at most. Mnemonics, numbers and what stands for
an illegal word are made of letters, digits, minus signs and parentheses; the rest of a cell is its
sigils, spaces and comma.
-/

namespace CoreWar

/-! ### Bytes -/

namespace Text

/-- A byte of mnemonics, numbers and illegal words. -/
def isWordByte (b : UInt8) : Bool :=
  isLetter b || isDigit b || b == '-'.toUInt8 || b == '('.toUInt8 || b == ')'.toUInt8

lemma all_isWordByte_ofInt (i : Int) : (ofInt i).all isWordByte = true := by
  rw [List.all_eq_true]
  intro b hb
  rcases mem_ofInt hb with rfl | hdigit
  · rfl
  · simp [isWordByte, hdigit]

end Text

lemma Opcode.all_isWordByte_render (o : Opcode) : o.render.all Text.isWordByte = true := by
  rw [render]
  split
  · rename_i op _
    cases op <;> rfl
  · rw [List.all_append, List.all_append, Text.all_isWordByte_ofInt]
    rfl

lemma Mode.all_isWordByte_render {m : Mode} (hm : m.addressing? = none) :
    m.render.all Text.isWordByte = true := by
  rw [render, hm, List.all_append, List.all_append, Text.all_isWordByte_ofInt]
  rfl

/-- A sigil is all that a mode adds to the bytes of words. -/
lemma Operand.mem_render {o : Operand} {b : UInt8} (hb : b ∈ o.render) :
    Text.isWordByte b = true ∨ b ∈ ("#$@" : Text) := by
  rcases List.mem_append.mp hb with hb | hb
  · cases hm : o.mode.addressing? with
    | none => exact Or.inl (List.all_eq_true.mp (Mode.all_isWordByte_render hm) b hb)
    | some α =>
      rw [Mode.render, hm] at hb
      cases α <;> cases List.mem_singleton.mp hb <;> exact Or.inr (by decide)
  · exact Or.inl (List.all_eq_true.mp (Text.all_isWordByte_ofInt _) b hb)

lemma Cell.mem_render {c : Cell} {b : UInt8} (hb : b ∈ c.render) :
    Text.isWordByte b = true ∨ b ∈ ("#$@, " : Text) := by
  have hoperand : ∀ o : Operand, b ∈ o.render →
      Text.isWordByte b = true ∨ b ∈ ("#$@, " : Text) := by
    have hsigils : ("#$@" : Text) ⊆ ("#$@, " : Text) := by decide
    exact fun o ho => (Operand.mem_render ho).imp_right fun h => hsigils h
  have hspace : (" " : Text) ⊆ ("#$@, " : Text) := by decide
  have hcomma : (", " : Text) ⊆ ("#$@, " : Text) := by decide
  simp only [render, List.mem_append] at hb
  rcases hb with (((hb | hb) | hb) | hb) | hb
  · exact Or.inl (List.all_eq_true.mp c.opcode.all_isWordByte_render b hb)
  · exact Or.inr (hspace hb)
  · exact hoperand c.a hb
  · exact Or.inr (hcomma hb)
  · exact hoperand c.b hb

/-- A byte that no part of a cell is written with. -/
lemma Cell.notMem_render {b : UInt8} (hword : Text.isWordByte b = false)
    (hother : b ∉ ("#$@, " : Text)) (c : Cell) : b ∉ c.render := by
  intro hb
  rcases mem_render hb with h | h
  · exact Bool.false_ne_true (hword.symm.trans h)
  · exact hother h

/-! ### Length -/

namespace Text

lemma length_ofInt_int64_le (w : Int64) : (ofInt w.toInt).length ≤ 20 := by
  have hlow := w.minValue_le_toInt
  have hhigh := w.toInt_le
  have hmin : Int64.minValue.toInt = -9223372036854775808 := rfl
  have hmax : Int64.maxValue.toInt = 9223372036854775807 := rfl
  exact length_ofInt_le (by decide) (by omega)

lemma length_ofInt_int32_le (f : Int32) : (ofInt f.toInt).length ≤ 11 := by
  have hlow := f.minValue_le_toInt
  have hhigh := f.toInt_le
  have hmin : Int32.minValue.toInt = -2147483648 := rfl
  have hmax : Int32.maxValue.toInt = 2147483647 := rfl
  exact length_ofInt_le (by decide) (by omega)

end Text

lemma Opcode.length_render_le (o : Opcode) : o.render.length ≤ 28 := by
  rw [render]
  split
  · rename_i op _
    cases op <;> decide
  · have hlen := Text.length_ofInt_int64_le o.code
    have hname : ("Opcode(" : Text).length = 7 := rfl
    have hclose : (")" : Text).length = 1 := rfl
    rw [List.length_append, List.length_append]
    omega

lemma Operand.length_render_le (o : Operand) : o.render.length ≤ 37 := by
  have hfield := Text.length_ofInt_int32_le o.field
  have hmode : o.mode.render.length ≤ 26 := by
    rw [Mode.render]
    split
    · rename_i α _
      cases α <;> decide
    · have hlen := Text.length_ofInt_int64_le o.mode.code
      have hname : ("Mode(" : Text).length = 5 := rfl
      have hclose : (")" : Text).length = 1 := rfl
      rw [List.length_append, List.length_append]
      omega
  rw [render, List.length_append]
  omega

lemma Cell.length_render_le (c : Cell) : c.render.length ≤ 105 := by
  have hopcode := c.opcode.length_render_le
  have ha := c.a.length_render_le
  have hb := c.b.length_render_le
  have hspace : (" " : Text).length = 1 := rfl
  have hcomma : (", " : Text).length = 2 := rfl
  simp only [render, List.length_append]
  omega

end CoreWar
