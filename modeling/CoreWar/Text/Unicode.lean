import CoreWar.Text.Characters
import CoreWar.Text.Letter
import CoreWar.Text.Printable
import CoreWar.Text.SmallLetter

/-!
# A version of Unicode

The characters of version 17.
-/

namespace CoreWar

namespace Unicode

theorem isLetter_iff {c : Char} :
    isLetter c = true ↔ ∃ r ∈ Letter.ranges, r.1 ≤ c.toNat ∧ c.toNat ≤ r.2 := by
  simp only [isLetter, Array.any_eq_true', Bool.and_eq_true, decide_eq_true_eq]

/-- The first two runs of letters are the ASCII ones. -/
theorem ascii_or_le {r : Nat × Nat} (hr : r ∈ Letter.ranges) :
    r = (0x41, 0x5A) ∨ r = (0x61, 0x7A) ∨ 0x80 ≤ r.1 := by
  have hall : ∀ r ∈ Letter.ranges.toList, r = (0x41, 0x5A) ∨ r = (0x61, 0x7A) ∨ 0x80 ≤ r.1 := by
    decide +kernel
  exact hall r (Array.mem_toList_iff.mpr hr)

theorem isLetter_ascii (c : Char) (hc : c.toNat < 0x80) : isLetter c = c.isAlpha := by
  have hupper : (0x41, 0x5A) ∈ Letter.ranges := Array.mem_toList_iff.mp (by decide +kernel)
  have hlower : (0x61, 0x7A) ∈ Letter.ranges := Array.mem_toList_iff.mp (by decide +kernel)
  rw [Bool.eq_iff_iff, isLetter_iff, isAlpha_iff]
  constructor
  · rintro ⟨r, hr, hle, hge⟩
    rcases ascii_or_le hr with rfl | rfl | hlarge
    · exact .inl ⟨hle, hge⟩
    · exact .inr ⟨hle, hge⟩
    · omega
  · rintro (h | h)
    · exact ⟨_, hupper, h⟩
    · exact ⟨_, hlower, h⟩

/-- The characters of version 17. -/
@[reducible] def version17 : Characters where
  isLetter := isLetter
  isPrintable := isPrintable
  smallLetter := smallLetter
  isLetter_ascii := isLetter_ascii

end Unicode

end CoreWar
