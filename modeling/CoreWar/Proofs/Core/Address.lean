import Mathlib.Tactic.Common
import CoreWar.Core.Basic

/-!
# Addresses and contents of the core

Addresses are integers modulo the number of cells, and machine words only stand for them. Sums of
words may wrap round; as long as a sum stays within the range of a word, it leads to the address
that the sum of the integers leads to.

The content of a core is what `Core.get` finds at each address.
-/

namespace CoreWar

variable {size : CoreSize}

namespace Address

/-! ### Integers modulo the size -/

lemma val_ofInt (i : Int) : ((ofInt i : Address size).val : Int) = i % size.count := by
  have hpos := size.pos
  exact Int.toNat_of_nonneg (Int.emod_nonneg i (by omega))

@[simp] lemma ofInt_val (x : Address size) : ofInt (x.val : Int) = x := by
  have hlt := x.isLt
  apply Fin.ext
  rw [← Int.ofNat_inj, val_ofInt]
  exact Int.emod_eq_of_lt (by omega) (by omega)

/-! ### Words -/

lemma toInt_word (x : Address size) : x.word.toInt = x.val := by
  have hlt := x.isLt
  have hsize := size.lt
  exact Int64.toInt_ofNat_of_lt (by simpa using by omega)

lemma toInt_word_mem (x : Address size) : 0 ≤ x.word.toInt ∧ x.word.toInt < size.count := by
  have hlt := x.isLt
  rw [toInt_word]
  omega

@[simp] lemma wrap_word (x : Address size) : wrap x.word = x := by
  rw [wrap, toInt_word, ofInt_val]

lemma toInt_word_wrap (w : Int64) :
    (wrap w : Address size).word.toInt = w.toInt % size.count := by
  rw [toInt_word, wrap, val_ofInt]

/-- A sum with an address leads where the sum of the integers leads, if it fits a word. -/
lemma wrap_word_add (x : Address size) {k : Int64}
    (hk : size.count + k.toInt ≤ 0x8000000000000000) :
    wrap (x.word + k) = (ofInt (x.val + k.toInt) : Address size) := by
  have hlt := x.isLt
  have hlow := Int64.le_toInt k
  rw [wrap, Int64.toInt_add, toInt_word, Int.bmod_eq_of_le]
  · simp at hlow ⊢
    omega
  · simp
    omega

/-- Next to a core of moderate size every field can be added to an address. -/
lemma wrap_word_add_field (hsize : size.count + 0x80000000 < 0x8000000000000000)
    (x : Address size) (f : Int32) :
    wrap (x.word + f.toInt64) = (ofInt (x.val + f.toInt) : Address size) := by
  have hlt := Int32.toInt_lt f
  rw [wrap_word_add, Int32.toInt_toInt64]
  rw [Int32.toInt_toInt64]
  omega

end Address

/-! ### Contents -/

namespace Core

lemma get_eq_getElem (core : Core size) (x : Address size) : core.get x = core.cells[x.val] := rfl

lemma get_set (core : Core size) (x y : Address size) (c : Cell) :
    (core.set x c).get y = if y = x then c else core.get y := by
  simp only [get_eq_getElem, set, Vector.getElem_set, Fin.ext_iff, eq_comm]

@[simp] lemma get_set_self (core : Core size) (x : Address size) (c : Cell) :
    (core.set x c).get x = c := by
  rw [get_set, if_pos rfl]

lemma get_set_of_ne (core : Core size) {x y : Address size} (h : y ≠ x) (c : Cell) :
    (core.set x c).get y = core.get y := by
  rw [get_set, if_neg h]

@[simp] lemma get_blank (x : Address size) : (blank : Core size).get x = .empty := by
  simp [blank, fill, get_eq_getElem]

/-- A core is determined by its contents. -/
lemma ext_get {c d : Core size} (h : ∀ x, c.get x = d.get x) : c = d := by
  obtain ⟨c⟩ := c
  obtain ⟨d⟩ := d
  congr 1
  apply Vector.ext
  intro i hi
  exact h ⟨i, hi⟩

end Core

end CoreWar
