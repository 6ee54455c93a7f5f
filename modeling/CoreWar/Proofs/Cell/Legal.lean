import Mathlib.Tactic.Common
import CoreWar.Cell.Basic

/-!
# Legal words

Among the words that can stand for the mode of an operand or for the opcode of a cell, the legal
ones are exactly those of the ways of addressing and of the operations: the words below three, and
those below eight.
-/

namespace CoreWar

/-! ### Words as positions -/

section

variable {α : Type} (l : List α) (w : Int64)

/-- A word finds what its integer finds. -/
lemma getElem?_word : (if w < 0 then none else l[w.toNatClampNeg]?) =
    if 0 ≤ w.toInt then l[w.toInt.toNat]? else none := by
  have hneg : w < 0 ↔ ¬0 ≤ w.toInt := by
    rw [Int64.lt_iff_toInt_lt, Int64.toInt_zero, Int.not_le]
  simp only [hneg, ite_not]
  rfl

lemma isSome_getElem?_word : (if w < 0 then none else l[w.toNatClampNeg]?).isSome = true ↔
    0 ≤ w.toInt ∧ w.toInt < l.length := by
  rw [getElem?_word]
  split_ifs with h
  · rw [Option.isSome_iff_ne_none, ne_eq, List.getElem?_eq_none_iff]
    omega
  · simp [h]

end

/-! ### Modes -/

namespace Mode

@[simp] lemma addressing?_ofAddressing (α : Addressing) :
    (ofAddressing α).addressing? = some α := by
  cases α <;> rfl

lemma eq_ofAddressing {m : Mode} {α : Addressing} (h : m.addressing? = some α) :
    m = ofAddressing α := by
  obtain ⟨code⟩ := m
  simp only [addressing?] at h
  split_ifs at h with hneg
  rw [← Int64.ofNat_toNatClampNeg code (Int64.not_lt.mp hneg)]
  generalize code.toNatClampNeg = n at h
  match n with
  | 0 | 1 | 2 =>
    cases h
    rfl
  | n + 3 => simp [Addressing.all] at h

lemma addressing?_eq_some_iff {m : Mode} {α : Addressing} :
    m.addressing? = some α ↔ m = ofAddressing α := by
  constructor
  · exact eq_ofAddressing
  · rintro rfl
    exact addressing?_ofAddressing α

/-- The legal modes are those of the ways of addressing. -/
lemma isLegal_iff {m : Mode} : m.isLegal = true ↔ ∃ α, m = ofAddressing α := by
  simp only [isLegal, Option.isSome_iff_exists, addressing?_eq_some_iff]

lemma isLegal_iff_code {m : Mode} : m.isLegal = true ↔ 0 ≤ m.code.toInt ∧ m.code.toInt < 3 :=
  isSome_getElem?_word Addressing.all m.code

@[simp] lemma isLegal_ofAddressing (α : Addressing) : (ofAddressing α).isLegal = true :=
  isLegal_iff.mpr ⟨α, rfl⟩

@[simp] lemma isImmediate_ofAddressing (α : Addressing) :
    (ofAddressing α).isImmediate = decide (α = .immediate) := by
  cases α <;> rfl

end Mode

/-! ### Opcodes -/

namespace Opcode

@[simp] lemma operation?_ofOperation (op : Operation) :
    (ofOperation op).operation? = some op := by
  cases op <;> rfl

lemma eq_ofOperation {o : Opcode} {op : Operation} (h : o.operation? = some op) :
    o = ofOperation op := by
  obtain ⟨code⟩ := o
  simp only [operation?] at h
  split_ifs at h with hneg
  rw [← Int64.ofNat_toNatClampNeg code (Int64.not_lt.mp hneg)]
  generalize code.toNatClampNeg = n at h
  match n with
  | 0 | 1 | 2 | 3 | 4 | 5 | 6 | 7 =>
    cases h
    rfl
  | n + 8 => simp [Operation.all] at h

lemma operation?_eq_some_iff {o : Opcode} {op : Operation} :
    o.operation? = some op ↔ o = ofOperation op := by
  constructor
  · exact eq_ofOperation
  · rintro rfl
    exact operation?_ofOperation op

/-- The legal opcodes are those of the operations. -/
lemma isLegal_iff {o : Opcode} : o.isLegal = true ↔ ∃ op, o = ofOperation op := by
  simp only [isLegal, Option.isSome_iff_exists, operation?_eq_some_iff]

lemma isLegal_iff_code {o : Opcode} : o.isLegal = true ↔ 0 ≤ o.code.toInt ∧ o.code.toInt < 8 :=
  isSome_getElem?_word Operation.all o.code

@[simp] lemma isLegal_ofOperation (op : Operation) : (ofOperation op).isLegal = true :=
  isLegal_iff.mpr ⟨op, rfl⟩

end Opcode

/-! ### Cells -/

namespace Cell

/-- A cell is legal if its opcode and both of its modes are. -/
lemma isLegal_iff {c : Cell} : c.isLegal = true ↔
    c.opcode.isLegal = true ∧ c.a.mode.isLegal = true ∧ c.b.mode.isLegal = true := by
  simp only [isLegal, Bool.and_eq_true, and_assoc]

lemma isLegal_empty : empty.isLegal = true := rfl

end Cell

end CoreWar
