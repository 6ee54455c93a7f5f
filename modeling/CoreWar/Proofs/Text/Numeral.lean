import CoreWar.Proofs.Source.Line
import CoreWar.Text.Numeral

/-!
# Numerals that are read back

The decimal digits of a machine word are a numeral of it. They are read in base ten because the
first of them is no zero, apart from the word zero, whose only digit stands for an empty numeral in
base eight; and on the way to a word no number is too large.
-/

namespace CoreWar

lemma word?_toInt (w : Int64) : word? w.toInt = some w := by
  rw [word?, if_pos ⟨w.minValue_le_toInt, w.toInt_le⟩, Int64.ofInt_toInt]

namespace Text

lemma exists_digitChar_of_pos {n : Nat} (hn : 0 < n) :
    ∃ d cs, Nat.toDigits 10 n = Nat.digitChar d :: cs ∧ 0 < d ∧ d < 10 := by
  -- the first digit is that of the number without its last digit, as long as there are two
  induction n using Nat.strongRecOn with
  | ind n ih =>
    by_cases hlt : n < 10
    · exact ⟨n, [], Nat.toDigits_of_lt_base hlt, hn, hlt⟩
    · obtain ⟨d, cs, hcs, hd⟩ := ih (n / 10) (by omega) (by omega)
      rw [Nat.toDigits_of_base_le (by decide) (by omega), hcs]
      exact ⟨d, _, rfl, hd⟩

/-- Only zero is written with a zero in front. -/
lemma head?_ofNat_ne_zero {n : Nat} (hn : 0 < n) : '0'.toUInt8 ∉ (ofNat n).head? := by
  obtain ⟨d, cs, hcs, hpos, hlt⟩ := exists_digitChar_of_pos hn
  have hdigit : ∀ d < 10, 0 < d → (Nat.digitChar d).toUInt8 ≠ '0'.toUInt8 := by decide
  rw [ofNat, hcs]
  exact fun h => hdigit d hlt hpos (Option.some.inj h)

lemma digitValue_lt_ten {b : UInt8} (hb : isDigit b = true) : digitValue b < 10 := by
  simp only [isDigit, Bool.and_eq_true, decide_eq_true_eq, UInt8.le_iff_toNat_le] at hb
  have hnine : ('9'.toUInt8).toNat = 57 := rfl
  have hzero : '0'.toNat = 48 := rfl
  rw [digitValue]
  omega

end Text

namespace Numeral

/-! ### Digits -/

lemma base_of_head? {t : Text} (h : '0'.toUInt8 ∉ t.head?) : base t = (10, t) := by
  cases t with
  | nil => rfl
  | cons b t =>
    have hb : b ≠ '0'.toUInt8 := by
      rintro rfl
      exact h rfl
    match t with
    | [] => simp only [base, if_neg hb]
    | [c] => simp only [base, if_neg hb]
    | c :: d :: t => simp only [base, if_neg hb]

lemma separated_of_notMem (after : Bool) {t : Text} (h : '_'.toUInt8 ∉ t) :
    separated after t = true := by
  fun_induction separated after t with
  | case1 => rfl
  | case2 after b => exact bne_iff_ne.mpr fun hb => h (hb ▸ List.mem_cons_self)
  | case3 after c rest _ => exact absurd List.mem_cons_self h
  | case4 after b c rest _ ih => exact ih fun hmem => h (List.mem_cons_of_mem b hmem)

lemma addDigit_ten {b : UInt8} (hb : Text.isDigit b = true) {n : Nat}
    (hfits : 10 * n + Text.digitValue b < UInt64.size) :
    addDigit 10 n b = .ok (10 * n + Text.digitValue b) := by
  have hunderscore : b ≠ '_'.toUInt8 := by
    rintro rfl
    exact absurd hb (by decide)
  have hvalue : digitValue? b = some (Text.digitValue b) := if_pos hb
  have hten : ¬10 ≤ Text.digitValue b := Nat.not_le.mpr (Text.digitValue_lt_ten hb)
  simp only [addDigit, if_neg hunderscore, hvalue, if_neg hten, if_neg (Nat.not_le.mpr hfits)]

lemma le_foldl_digits (digits : Text) (n : Nat) :
    n ≤ digits.foldl (fun n b => 10 * n + Text.digitValue b) n := by
  induction digits generalizing n with
  | nil => exact Nat.le_refl n
  | cons b digits ih => exact Nat.le_trans (by omega) (ih (10 * n + Text.digitValue b))

/-- Decimal digits are read one by one, as long as the number fits an unsigned word. -/
lemma foldlM_addDigit {digits : Text} (hdigits : ∀ b ∈ digits, Text.isDigit b = true) {n : Nat}
    (hfits : digits.foldl (fun n b => 10 * n + Text.digitValue b) n < UInt64.size) :
    digits.foldlM (addDigit 10) n =
      .ok (digits.foldl (fun n b => 10 * n + Text.digitValue b) n) := by
  induction digits generalizing n with
  | nil => rfl
  | cons b digits ih =>
    have hb := hdigits b List.mem_cons_self
    have hnext : 10 * n + Text.digitValue b < UInt64.size :=
      Nat.lt_of_le_of_lt (le_foldl_digits digits _) hfits
    have hstep : addDigit 10 n b = .ok (10 * n + Text.digitValue b) := addDigit_ten hb hnext
    rw [List.foldlM_cons, hstep]
    exact ih (fun c hc => hdigits c (List.mem_cons_of_mem b hc)) hfits

lemma unsigned_ofNat {n : Nat} (hn : n < UInt64.size) : unsigned (Text.ofNat n) = .ok n := by
  cases Nat.eq_zero_or_pos n with
  | inl hzero =>
    subst hzero
    rfl
  | inr hpos =>
    have hdigits : ∀ b ∈ Text.ofNat n, Text.isDigit b = true := fun b => Text.isDigit_of_mem_ofNat
    have hunderscore : '_'.toUInt8 ∉ Text.ofNat n := fun h => absurd (hdigits _ h) (by decide)
    have hvalue : Text.toNat (Text.ofNat n) = n := Text.toNat_ofNat n
    rw [Text.toNat] at hvalue
    rw [unsigned, if_neg (Text.ofNat_ne_nil n), base_of_head? (Text.head?_ofNat_ne_zero hpos)]
    simp only [foldlM_addDigit hdigits (hvalue.symm ▸ hn), hvalue,
      separated_of_notMem _ hunderscore, if_true]
    rfl

/-! ### Machine words -/

/-- A machine word is read back from its decimal digits. -/
theorem signed_ofInt (w : Int64) : signed (Text.ofInt w.toInt) = .ok w := by
  have hlow := w.le_toInt
  have hhigh := w.toInt_lt
  have hsize : UInt64.size = 18446744073709551616 := rfl
  have hunsigned := unsigned_ofNat (n := w.toInt.natAbs) (by omega)
  by_cases hneg : w.toInt < 0
  · have hsign : sign (Text.ofInt w.toInt) = (true, Text.ofNat w.toInt.natAbs) := by
      rw [Text.ofInt_of_neg hneg]
      rfl
    have hvalue : -(w.toInt.natAbs : Int) = w.toInt :=
      (Int.eq_neg_natAbs_of_nonpos (Int.le_of_lt hneg)).symm
    rw [signed, hsign, hunsigned]
    simp only [if_true, hvalue, word?_toInt, bind, Except.bind]
  · have hsign : sign (Text.ofInt w.toInt) = (false, Text.ofNat w.toInt.natAbs) := by
      rw [Text.ofInt_of_nonneg hneg]
      exact Line.sign_of_isDigit fun b hb => Text.isDigit_of_mem_ofNat (List.mem_of_mem_head? hb)
    have hvalue : (w.toInt.natAbs : Int) = w.toInt := Int.natAbs_of_nonneg (Int.not_lt.mp hneg)
    rw [signed, hsign, hunsigned]
    simp only [Bool.false_eq_true, if_false, hvalue, word?_toInt, bind, Except.bind]

end Numeral

end CoreWar
