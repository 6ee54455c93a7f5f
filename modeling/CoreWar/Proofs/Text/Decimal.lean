import Mathlib.Algebra.Group.Nat.Defs
import Mathlib.Tactic.Common
import CoreWar.Text.Decimal

/-!
# Decimal numbers as they are read back

The digits of a number are decimal digits, they are not empty, and they stand for the number. An
integer is written as such digits, with a minus sign in front if it is negative.
-/

namespace CoreWar

namespace Text

/-! ### Digits -/

lemma toNat_toUInt8_of_isDigit {c : Char} (h : c.isDigit = true) : c.toUInt8.toNat = c.toNat := by
  obtain ⟨-, hle⟩ := Char.isDigit_iff_toNat.mp h
  have hnine : '9'.toNat = 57 := rfl
  have hval : c.toUInt8.toNat = c.toNat % 256 := UInt32.toNat_toUInt8 c.val
  omega

lemma isDigit_toUInt8 {c : Char} (h : c.isDigit = true) : isDigit c.toUInt8 = true := by
  obtain ⟨hge, hle⟩ := Char.isDigit_iff_toNat.mp h
  have hval := toNat_toUInt8_of_isDigit h
  simp only [isDigit, Bool.and_eq_true, decide_eq_true_eq, UInt8.le_iff_toNat_le]
  rw [hval]
  exact ⟨hge, hle⟩

lemma isDigit_of_mem_ofNat {n : Nat} {b : UInt8} (h : b ∈ ofNat n) : isDigit b = true := by
  obtain ⟨c, hc, rfl⟩ := List.mem_map.mp h
  exact isDigit_toUInt8 (Nat.isDigit_of_mem_toDigits (by decide) (by decide) hc)

lemma ofNat_ne_nil (n : Nat) : ofNat n ≠ [] := by
  simp [ofNat, Nat.toDigits_ne_nil]

/-- Digits as bytes are read as the same digits as characters are. -/
lemma foldl_digitValue_map {cs : List Char} (hcs : ∀ c ∈ cs, c.isDigit = true) (n : Nat) :
    (cs.map Char.toUInt8).foldl (fun n b => 10 * n + digitValue b) n =
      Nat.ofDigitChars 10 cs n := by
  induction cs generalizing n with
  | nil => rfl
  | cons c cs ih =>
    have hc := toNat_toUInt8_of_isDigit (hcs c List.mem_cons_self)
    rw [List.map_cons, List.foldl_cons, ih fun d hd => hcs d (List.mem_cons_of_mem c hd),
      digitValue, hc]
    rfl

/-- The digits of a number stand for it. -/
@[simp] lemma toNat_ofNat (n : Nat) : toNat (ofNat n) = n := by
  have hdigits : ∀ c ∈ Nat.toDigits 10 n, c.isDigit = true :=
    fun c hc => Nat.isDigit_of_mem_toDigits (by decide) (by decide) hc
  rw [toNat, ofNat, foldl_digitValue_map hdigits, Nat.ofDigitChars_toDigits (by decide) (by decide)]

lemma ofNat_injective : Function.Injective ofNat :=
  Function.LeftInverse.injective toNat_ofNat

lemma length_ofNat_le {n k : Nat} (hk : 0 < k) (hn : n < 10 ^ k) : (ofNat n).length ≤ k := by
  rw [ofNat, List.length_map]
  exact (Nat.length_toDigits_le_iff (by decide) hk).mpr hn

/-! ### Integers -/

lemma ofInt_of_neg {i : Int} (h : i < 0) : ofInt i = '-'.toUInt8 :: ofNat i.natAbs := by
  rw [ofInt, signed, if_pos h]

lemma ofInt_of_nonneg {i : Int} (h : ¬i < 0) : ofInt i = ofNat i.natAbs := by
  rw [ofInt, signed, if_neg h]

lemma mem_ofInt {i : Int} {b : UInt8} (h : b ∈ ofInt i) :
    b = '-'.toUInt8 ∨ isDigit b = true := by
  by_cases hneg : i < 0
  · rw [ofInt_of_neg hneg, List.mem_cons] at h
    exact h.imp_right isDigit_of_mem_ofNat
  · rw [ofInt_of_nonneg hneg] at h
    exact Or.inr (isDigit_of_mem_ofNat h)

lemma notMem_ofInt {b : UInt8} (hminus : b ≠ '-'.toUInt8) (hdigit : isDigit b = false) (i : Int) :
    b ∉ ofInt i := by
  intro h
  rcases mem_ofInt h with h | h
  · exact hminus h
  · exact absurd (hdigit.symm.trans h) (by decide)

lemma exists_isDigit_mem_ofInt (i : Int) : ∃ b ∈ ofInt i, isDigit b = true := by
  obtain ⟨b, hb⟩ := List.exists_mem_of_ne_nil _ (ofNat_ne_nil i.natAbs)
  refine ⟨b, ?_, isDigit_of_mem_ofNat hb⟩
  by_cases hneg : i < 0
  · rw [ofInt_of_neg hneg]
    exact List.mem_cons_of_mem _ hb
  · rw [ofInt_of_nonneg hneg]
    exact hb

lemma ofInt_ne_nil (i : Int) : ofInt i ≠ [] := by
  obtain ⟨b, hb, -⟩ := exists_isDigit_mem_ofInt i
  exact List.ne_nil_of_mem hb

/-- Different integers have different texts. -/
lemma ofInt_injective : Function.Injective ofInt := by
  -- a minus sign is no digit, so the texts of two numbers with different signs differ at once
  have hsign : ∀ {i j : Int}, i < 0 → ¬j < 0 → ofInt i ≠ ofInt j := by
    intro i j hi hj h
    rw [ofInt_of_neg hi, ofInt_of_nonneg hj] at h
    have hminus : '-'.toUInt8 ∈ ofNat j.natAbs := h ▸ List.mem_cons_self
    exact absurd (isDigit_of_mem_ofNat hminus) (by decide)
  intro i j h
  by_cases hi : i < 0
  · by_cases hj : j < 0
    · rw [ofInt_of_neg hi, ofInt_of_neg hj, List.cons.injEq] at h
      have habs := ofNat_injective h.2
      omega
    · exact absurd h (hsign hi hj)
  · by_cases hj : j < 0
    · exact absurd h.symm (hsign hj hi)
    · rw [ofInt_of_nonneg hi, ofInt_of_nonneg hj] at h
      have habs := ofNat_injective h
      omega

lemma length_ofInt_le {i : Int} {k : Nat} (hk : 0 < k) (hi : i.natAbs < 10 ^ k) :
    (ofInt i).length ≤ k + 1 := by
  have hlen := length_ofNat_le hk hi
  by_cases hneg : i < 0
  · rw [ofInt_of_neg hneg, List.length_cons]
    omega
  · rw [ofInt_of_nonneg hneg]
    omega

end Text

end CoreWar
