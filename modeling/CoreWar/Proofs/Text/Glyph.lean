import Mathlib.Algebra.Group.Nat.Defs
import Mathlib.Tactic.Common
import CoreWar.Text.Glyph

/-!
# Characters as they are decoded

The encoding of a character starts with a byte that tells its length, and what follows are tail
bytes. So a text that is made of characters is decoded to these characters.
-/

namespace CoreWar

namespace Glyph

/-! ### Tail bytes -/

lemma toNat_tail (n : Nat) : (UInt8.ofNat (n % 64 + 128)).toNat = n % 64 + 128 :=
  UInt8.toNat_ofNat_of_lt' (show n % 64 + 128 < 256 by omega)

lemma isTail_tail (n : Nat) : isTail (UInt8.ofNat (n % 64 + 128)) = true := by
  simp only [isTail, Bool.and_eq_true, decide_eq_true_eq, UInt8.le_iff_toNat_le, toNat_tail]
  have hlow : (0x80 : UInt8).toNat = 128 := rfl
  have hhigh : (0xBF : UInt8).toNat = 191 := rfl
  omega

lemma tailBits_tail (n : Nat) : tailBits (UInt8.ofNat (n % 64 + 128)) = n % 64 := by
  rw [tailBits, toNat_tail]
  omega

/-! ### First bytes, by the length of the encoding -/

section

variable {n : Nat} (rest : Text)

lemma first_one (hn : n < 128) : first (UInt8.ofNat n) rest = (char (Char.ofNat n), 0) := by
  have hb : (UInt8.ofNat n).toNat = n := UInt8.toNat_ofNat_of_lt' (show n < 256 by omega)
  have hone : UInt8.ofNat n < 0x80 := by
    rw [UInt8.lt_iff_toNat_lt, hb]
    exact hn
  simp only [first, hone, if_true, hb]

lemma first_two (hlow : 128 ≤ n) (hhigh : n < 2048) :
    first (UInt8.ofNat (n / 64 % 32 + 192)) (UInt8.ofNat (n % 64 + 128) :: rest) =
      (char (Char.ofNat n), 1) := by
  have hb : (UInt8.ofNat (n / 64 % 32 + 192)).toNat = n / 64 % 32 + 192 :=
    UInt8.toNat_ofNat_of_lt' (show n / 64 % 32 + 192 < 256 by omega)
  generalize UInt8.ofNat (n / 64 % 32 + 192) = b at hb
  have hbits : b.toNat % 32 * 64 + n % 64 = n := by omega
  have hone : ¬b < 0x80 := by
    rw [UInt8.lt_iff_toNat_lt, hb]
    exact Nat.not_lt.mpr (show 128 ≤ n / 64 % 32 + 192 by omega)
  have htwo : (0xC2 ≤ b && b ≤ 0xDF) = true := by
    simp only [Bool.and_eq_true, decide_eq_true_eq, UInt8.le_iff_toNat_le, hb]
    exact ⟨show 194 ≤ n / 64 % 32 + 192 by omega, show n / 64 % 32 + 192 ≤ 223 by omega⟩
  simp only [first, hone, htwo, isTail_tail, if_true, if_false, encoded, List.foldl_cons,
    List.foldl_nil, tailBits_tail, hbits]

lemma first_three (hlow : 2048 ≤ n) (hhigh : n < 65536) (hvalid : n.isValidChar) :
    first (UInt8.ofNat (n / 4096 % 16 + 224))
        (UInt8.ofNat (n / 64 % 64 + 128) :: UInt8.ofNat (n % 64 + 128) :: rest) =
      (char (Char.ofNat n), 2) := by
  have hb : (UInt8.ofNat (n / 4096 % 16 + 224)).toNat = n / 4096 % 16 + 224 :=
    UInt8.toNat_ofNat_of_lt' (show n / 4096 % 16 + 224 < 256 by omega)
  generalize UInt8.ofNat (n / 4096 % 16 + 224) = b at hb
  have hbits : (b.toNat % 16 * 64 + n / 64 % 64) * 64 + n % 64 = n := by omega
  have hone : ¬b < 0x80 := by
    rw [UInt8.lt_iff_toNat_lt, hb]
    exact Nat.not_lt.mpr (show 128 ≤ n / 4096 % 16 + 224 by omega)
  have htwo : (0xC2 ≤ b && b ≤ 0xDF) = false := by
    simp only [Bool.and_eq_false_iff, decide_eq_false_iff_not, UInt8.le_iff_toNat_le, hb]
    exact .inr (Nat.not_le.mpr (show 223 < n / 4096 % 16 + 224 by omega))
  have hthree : (0xE0 ≤ b && b ≤ 0xEF) = true := by
    simp only [Bool.and_eq_true, decide_eq_true_eq, UInt8.le_iff_toNat_le, hb]
    exact ⟨show 224 ≤ n / 4096 % 16 + 224 by omega, show n / 4096 % 16 + 224 ≤ 239 by omega⟩
  -- the encoding is not longer than needed, and the character is no surrogate
  have hfits : fitsThree b (UInt8.ofNat (n / 64 % 64 + 128)) = true := by
    simp only [fitsThree, isTail_tail, Bool.true_and, Bool.and_eq_true, Bool.or_eq_true,
      bne_iff_ne, ne_eq, decide_eq_true_eq, UInt8.le_iff_toNat_le, ← UInt8.toNat_inj, toNat_tail,
      hb]
    have hfirst : (0xE0 : UInt8).toNat = 224 ∧ (0xA0 : UInt8).toNat = 160 := ⟨rfl, rfl⟩
    have hsurrogate : (0xED : UInt8).toNat = 237 ∧ (0x9F : UInt8).toNat = 159 := ⟨rfl, rfl⟩
    simp only [Nat.isValidChar] at hvalid
    omega
  simp only [first, hone, htwo, hthree, hfits, isTail_tail, Bool.and_self, Bool.false_eq_true,
    if_true, if_false, encoded, List.foldl_cons, List.foldl_nil, tailBits_tail, hbits]

lemma first_four (hlow : 65536 ≤ n) (hvalid : n.isValidChar) :
    first (UInt8.ofNat (n / 262144 % 8 + 240))
        (UInt8.ofNat (n / 4096 % 64 + 128) :: UInt8.ofNat (n / 64 % 64 + 128) ::
          UInt8.ofNat (n % 64 + 128) :: rest) =
      (char (Char.ofNat n), 3) := by
  have hhigh : n < 1114112 := by
    simp only [Nat.isValidChar] at hvalid
    omega
  have hb : (UInt8.ofNat (n / 262144 % 8 + 240)).toNat = n / 262144 % 8 + 240 :=
    UInt8.toNat_ofNat_of_lt' (show n / 262144 % 8 + 240 < 256 by omega)
  generalize UInt8.ofNat (n / 262144 % 8 + 240) = b at hb
  have hbits : ((b.toNat % 8 * 64 + n / 4096 % 64) * 64 + n / 64 % 64) * 64 + n % 64 = n := by
    omega
  have hone : ¬b < 0x80 := by
    rw [UInt8.lt_iff_toNat_lt, hb]
    exact Nat.not_lt.mpr (show 128 ≤ n / 262144 % 8 + 240 by omega)
  have htwo : (0xC2 ≤ b && b ≤ 0xDF) = false := by
    simp only [Bool.and_eq_false_iff, decide_eq_false_iff_not, UInt8.le_iff_toNat_le, hb]
    exact .inr (Nat.not_le.mpr (show 223 < n / 262144 % 8 + 240 by omega))
  have hthree : (0xE0 ≤ b && b ≤ 0xEF) = false := by
    simp only [Bool.and_eq_false_iff, decide_eq_false_iff_not, UInt8.le_iff_toNat_le, hb]
    exact .inr (Nat.not_le.mpr (show 239 < n / 262144 % 8 + 240 by omega))
  have hfour : (0xF0 ≤ b && b ≤ 0xF4) = true := by
    simp only [Bool.and_eq_true, decide_eq_true_eq, UInt8.le_iff_toNat_le, hb]
    exact ⟨show 240 ≤ n / 262144 % 8 + 240 by omega, show n / 262144 % 8 + 240 ≤ 244 by omega⟩
  -- the encoding is not longer than needed, and the number is that of a character
  have hfits : fitsFour b (UInt8.ofNat (n / 4096 % 64 + 128)) = true := by
    simp only [fitsFour, isTail_tail, Bool.true_and, Bool.and_eq_true, Bool.or_eq_true,
      bne_iff_ne, ne_eq, decide_eq_true_eq, UInt8.le_iff_toNat_le, ← UInt8.toNat_inj, toNat_tail,
      hb]
    have hfirst : (0xF0 : UInt8).toNat = 240 ∧ (0x90 : UInt8).toNat = 144 := ⟨rfl, rfl⟩
    have hlast : (0xF4 : UInt8).toNat = 244 ∧ (0x8F : UInt8).toNat = 143 := ⟨rfl, rfl⟩
    omega
  simp only [first, hone, htwo, hthree, hfour, hfits, isTail_tail, Bool.and_self,
    Bool.false_eq_true, if_true, if_false, encoded, List.foldl_cons, List.foldl_nil,
    tailBits_tail, hbits]

end

/-! ### Characters -/

/-- The encoding of a character is taken as a whole. -/
lemma exists_first (c : Char) (rest : Text) :
    ∃ b tail, String.utf8EncodeChar c = b :: tail ∧
      first b (tail ++ rest) = (char c, tail.length) := by
  have hvalid : c.toNat.isValidChar := c.valid
  have hc : Char.ofNat c.toNat = c := Char.ofNat_toNat c
  have hval : c.val.toNat = c.toNat := rfl
  simp only [String.utf8EncodeChar, hval]
  split_ifs with hone htwo hthree
  · exact ⟨_, _, rfl, (first_one rest (by omega)).trans (by rw [hc]; rfl)⟩
  · exact ⟨_, _, rfl, (first_two rest (by omega) (by omega)).trans (by rw [hc]; rfl)⟩
  · exact ⟨_, _, rfl, (first_three rest (by omega) (by omega) hvalid).trans (by rw [hc]; rfl)⟩
  · exact ⟨_, _, rfl, (first_four rest (by omega) hvalid).trans (by rw [hc]; rfl)⟩

/-- The bytes of a character beyond ASCII are all beyond ASCII. -/
lemma toNat_of_mem_utf8EncodeChar {c : Char} {b : UInt8} (hb : b ∈ String.utf8EncodeChar c)
    (hascii : b.toNat < 128) : c.toNat = b.toNat := by
  have hval : c.val.toNat = c.toNat := rfl
  have hbyte : ∀ n < 256, (UInt8.ofNat n).toNat = n := fun n hn => UInt8.toNat_ofNat_of_lt' hn
  have hhigh : ∀ n, 128 ≤ n → n < 256 → ¬(UInt8.ofNat n).toNat < 128 := by
    intro n hlow hn
    rw [hbyte n hn]
    exact Nat.not_lt.mpr hlow
  simp only [String.utf8EncodeChar, hval] at hb
  split_ifs at hb with hone htwo hthree
  · rw [List.mem_singleton.mp hb, hbyte _ (by omega)]
  all_goals simp only [List.mem_cons, List.not_mem_nil, or_false] at hb
  · rcases hb with rfl | rfl <;> exact absurd hascii (hhigh _ (by omega) (by omega))
  · rcases hb with rfl | rfl | rfl <;> exact absurd hascii (hhigh _ (by omega) (by omega))
  · rcases hb with rfl | rfl | rfl | rfl <;> exact absurd hascii (hhigh _ (by omega) (by omega))

/-! ### Texts -/

lemma decodeOnto_eq (found : List Glyph) (t : Text) :
    decodeOnto found t = found.reverse ++ decode t := by
  -- each step takes the glyphs before it as they are
  induction hn : t.length using Nat.strongRecOn generalizing found t with
  | ind n ih =>
    cases t with
    | nil => rw [decode, decodeOnto, decodeOnto, List.reverse_nil, List.append_nil]
    | cons b rest =>
      have hlt : (rest.drop (first b rest).2).length < n := by
        rw [← hn, List.length_drop, List.length_cons]
        omega
      rw [decode, decodeOnto, decodeOnto, ih _ hlt _ _ rfl, ih _ hlt _ _ rfl]
      simp

lemma decode_cons (b : UInt8) (rest : Text) :
    decode (b :: rest) = (first b rest).1 :: decode (rest.drop (first b rest).2) := by
  rw [decode, decodeOnto, decodeOnto_eq]
  rfl

/-- A character in front of a text is decoded by itself. -/
lemma decode_append (c : Char) (rest : Text) :
    decode (String.utf8EncodeChar c ++ rest) = char c :: decode rest := by
  obtain ⟨b, tail, hbytes, hfirst⟩ := exists_first c rest
  rw [hbytes, List.cons_append, decode_cons, hfirst, List.drop_left]

/-- A text that is made of characters is decoded to these. -/
lemma decode_flatMap (cs : List Char) :
    decode (cs.flatMap String.utf8EncodeChar) = cs.map char := by
  induction cs with
  | nil => rw [List.flatMap_nil, decode, decodeOnto, List.reverse_nil, List.map_nil]
  | cons c cs ih => rw [List.flatMap_cons, decode_append, ih, List.map_cons]

end Glyph

end CoreWar
