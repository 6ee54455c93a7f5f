/-!
# Characters

What is a letter, what can be printed and which small letter a character has is up to the version of
Unicode. Everything that asks for it is the same for all versions.
-/

namespace CoreWar

/-- The letters among the ASCII characters, by their numbers. -/
theorem isAlpha_iff {c : Char} : c.isAlpha = true ↔
    0x41 ≤ c.toNat ∧ c.toNat ≤ 0x5A ∨ 0x61 ≤ c.toNat ∧ c.toNat ≤ 0x7A := by
  have hle (n m : UInt32) : decide (n ≤ m) = true ↔ n.toNat ≤ m.toNat :=
    decide_eq_true_iff.trans UInt32.le_iff_toNat_le
  have hupper : c.isUpper = true ↔ 0x41 ≤ c.toNat ∧ c.toNat ≤ 0x5A :=
    decide_eq_true_iff.trans (and_congr UInt32.le_iff_toNat_le UInt32.le_iff_toNat_le)
  have hlower : c.isLower = true ↔ 0x61 ≤ c.toNat ∧ c.toNat ≤ 0x7A :=
    Bool.and_eq_true_iff.trans (and_congr (hle _ _) (hle _ _))
  exact Bool.or_eq_true_iff.trans (or_congr hupper hlower)

/-- What a version of Unicode says of characters. All versions agree on the ASCII letters. -/
class Characters where
  isLetter : Char → Bool
  isPrintable : Char → Bool
  /-- The small letter of a character, which is the character itself if it has no other one. -/
  smallLetter : Char → Char
  isLetter_ascii (c : Char) (hc : c.toNat < 0x80) : isLetter c = c.isAlpha

export Characters (isLetter isPrintable smallLetter)

end CoreWar
