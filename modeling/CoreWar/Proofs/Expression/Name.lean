import CoreWar.Expression.Basic
import CoreWar.Expression.Name
import CoreWar.Proofs.Text.Glyph
import CoreWar.Proofs.Text.Numeral

/-!
# Names as expressions

A name is written with letters, digits and underscores, and it is none of the reserved words. All
that has to be known of an interpreter to tell what comes of a name by itself is that it finds the
word that the name was predeclared with (`Interpreter.EvaluatesNames`).
-/

namespace CoreWar

namespace Expression

/-! ### Characters of names -/

variable [Characters]

/-- There are no letters among the ASCII characters but the usual ones. -/
lemma toNat_of_isLetter {c : Char} (hc : isLetter c = true) :
    0x41 ≤ c.toNat ∧ c.toNat ≤ 0x5A ∨ 0x61 ≤ c.toNat ∧ c.toNat ≤ 0x7A ∨ 0x80 ≤ c.toNat := by
  by_cases hascii : c.toNat < 0x80
  · rw [Characters.isLetter_ascii c hascii] at hc
    have hrange := isAlpha_iff.mp hc
    omega
  · omega

lemma startsName_of_isAlpha {c : Char} (hc : c.isAlpha = true) : startsName c = true := by
  have hascii : c.toNat < 0x80 := by
    have hrange := isAlpha_iff.mp hc
    omega
  rw [startsName, Characters.isLetter_ascii c hascii, hc, Bool.or_true]

lemma continuesName_of_startsName {c : Char} (hc : startsName c = true) :
    continuesName c = true := by
  rw [continuesName, hc, Bool.or_true]

/-- No name starts with a digit or a sign. -/
lemma startsName_of_lt {c : Char} (hc : c.toNat < 0x41) : startsName c = false := by
  refine Bool.eq_false_iff.mpr fun h => ?_
  rcases Bool.or_eq_true_iff.mp h with h | h
  · rw [beq_iff_eq.mp h] at hc
    exact absurd hc (by decide)
  · have hletter := toNat_of_isLetter h
    omega

/-! ### Names -/

/-- A text that is read as a name. -/
structure IsName (name : Text) : Prop where
  characters : ∃ c word, startsName c = true ∧ (∀ d ∈ word, continuesName d = true) ∧
    name = (c :: word).flatMap String.utf8EncodeChar
  not_reserved : name ∉ reservedWords

/-- A word of ASCII letters is a name, unless it is reserved. -/
lemma isName_of_isAlpha {s : String} (hs : s.toList ≠ [])
    (halpha : s.toList.all Char.isAlpha = true) (hreserved : (s : Text) ∉ reservedWords) :
    IsName s := by
  obtain ⟨c, word, hword⟩ := List.exists_cons_of_ne_nil hs
  have hletters : ∀ d ∈ c :: word, startsName d = true := by
    intro d hd
    rw [← hword] at hd
    exact startsName_of_isAlpha (List.all_eq_true.mp halpha d hd)
  obtain ⟨hc, hrest⟩ := List.forall_mem_cons.mp hletters
  exact ⟨⟨c, word, hc, fun d hd => continuesName_of_startsName (hrest d hd),
    congrArg (List.flatMap String.utf8EncodeChar) hword⟩, hreserved⟩

/-- There is no dollar sign in a name. -/
lemma IsName.dollar_notMem {name : Text} (h : IsName name) : '$'.toUInt8 ∉ name := by
  obtain ⟨⟨c, word, hc, hword, rfl⟩, -⟩ := h
  intro hmem
  obtain ⟨d, hd, hbyte⟩ := List.mem_flatMap.mp hmem
  have hdollar : d = '$' := Char.toNat_inj.mp (Glyph.toNat_of_mem_utf8EncodeChar hbyte (by decide))
  have hcontinues : continuesName d = true := by
    rcases List.mem_cons.mp hd with rfl | hd
    · exact continuesName_of_startsName hc
    · exact hword d hd
  rw [hdollar, continuesName, startsName_of_lt (by decide)] at hcontinues
  exact absurd hcontinues (by decide)

end Expression

/-! ### Their values -/

/-- What the program of a name gives to the result variable is the word that the name was
predeclared with, even if the language knows the name for something else. -/
def Interpreter.EvaluatesNames [Characters] (I : Interpreter) : Prop :=
  ∀ name, Expression.IsName name → name ≠ Expression.resultVariable →
    ∀ (predeclared : Text → Option Int64) (w : Int64), predeclared name = some w →
      ∃ values, I.run (Expression.programText name) predeclared = .ok values ∧
        values Expression.resultVariable = some w.toInt

namespace Expression

/-- The value that an interpreter gives to the result variable is that of the expression. -/
lemma evaluate_of_run {I : Interpreter} {equate? : Text → Option Int64} {e : Text}
    {values : Text → Option Int} (hrun : I.run (programText e) equate? = .ok values)
    {w : Int64} (hw : values resultVariable = some w.toInt) :
    evaluate I equate? e = .ok w := by
  simp only [evaluate, hrun, hw, word?_toInt]

lemma evaluate_of_run_eq_error {I : Interpreter} {equate? : Text → Option Int64} {e : Text}
    {complaint : Complaint} (hrun : I.run (programText e) equate? = .error complaint) :
    evaluate I equate? e = .error (.interpreter complaint) := by
  simp only [evaluate, hrun]

lemma evaluate_of_equate [Characters] {I : Interpreter} (hI : I.EvaluatesNames)
    {equate? : Text → Option Int64} {name : Text} (hname : IsName name)
    (hresult : name ≠ resultVariable) {w : Int64} (hw : equate? name = some w) :
    evaluate I equate? name = .ok w := by
  obtain ⟨values, hrun, hvalue⟩ := hI name hname hresult equate? w hw
  exact evaluate_of_run hrun hvalue

end Expression

end CoreWar
