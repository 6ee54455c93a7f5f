import Mathlib.Data.List.Chain
import Mathlib.Data.List.TakeWhile
import CoreWar.Proofs.Cell.Render
import CoreWar.Proofs.Source.Line
import CoreWar.Source.Expansion

/-!
# Texts without expressions

A text is cut at its dollar signs, and each of its parts is an expression with what follows it, or
stands for itself (`afterDollar_cases`). If no expression is written anywhere in a text, the whole
text stands for itself, whatever the equates are. So does a plain text, in which no opening
parenthesis follows a dollar sign, and the operands of a cell are such a text although a relative
operand starts with a dollar sign.
-/

namespace CoreWar

namespace Expansion

/-! ### Parts of a text -/

lemma notMem_of_mem_splitOn {b : UInt8} {t s : Text} (hs : s ∈ t.splitOn b) : b ∉ s := by
  induction t generalizing s with
  | nil =>
    rw [List.splitOn_nil] at hs
    simp [List.mem_singleton.mp hs]
  | cons c t ih =>
    obtain ⟨first, rest, hsplit⟩ := List.exists_cons_of_ne_nil (List.splitOn_ne_nil b t)
    rw [List.splitOn_cons_eq_if_modifyHead] at hs
    split_ifs at hs with hc
    · rcases List.mem_cons.mp hs with rfl | hs
      · exact List.not_mem_nil
      · exact ih hs
    · rw [hsplit, List.modifyHead_cons] at hs
      rcases List.mem_cons.mp hs with rfl | hs
      · have hfirst : b ∉ first := ih (hsplit ▸ List.mem_cons_self)
        have hne : b ≠ c := fun h => hc (beq_iff_eq.mpr h.symm)
        exact List.not_mem_cons_of_ne_of_not_mem hne hfirst
      · exact ih (hsplit ▸ List.mem_cons_of_mem first hs)

/-- Parts joined by dollar signs are the first one and then each other one after its dollar sign. -/
lemma intercalate_dollar (first : Text) (rest : List Text) :
    ['$'.toUInt8].intercalate (first :: rest) = first ++ rest.flatMap ('$'.toUInt8 :: ·) := by
  induction rest generalizing first with
  | nil => simp [List.intercalate]
  | cons second rest ih =>
    rw [List.intercalate_cons_cons, ih second]
    simp

/-- The pieces of a text are those of its parts between the dollar signs. -/
lemma exists_pieces_eq (t : Text) :
    ∃ (first : Text) (rest : List Text), '$'.toUInt8 ∉ first ∧ (∀ s ∈ rest, '$'.toUInt8 ∉ s) ∧
      t = first ++ rest.flatMap ('$'.toUInt8 :: ·) ∧
      pieces t = .literal first :: rest.flatMap afterDollar := by
  obtain ⟨first, rest, hsplit⟩ := List.exists_cons_of_ne_nil (List.splitOn_ne_nil '$'.toUInt8 t)
  refine ⟨first, rest, ?_, fun s hs => ?_, ?_, ?_⟩
  · exact notMem_of_mem_splitOn (hsplit ▸ List.mem_cons_self)
  · exact notMem_of_mem_splitOn (hsplit ▸ List.mem_cons_of_mem first hs)
  · rw [← intercalate_dollar, ← hsplit, List.intercalate_splitOn]
  · rw [pieces, hsplit]

lemma splitAtLastClose?_of_notMem {t : Text} (ht : ')'.toUInt8 ∉ t) :
    splitAtLastClose? t = none := by
  have hdrop : t.reverse.dropWhile (· != ')'.toUInt8) = [] :=
    List.dropWhile_eq_nil_iff.mpr fun b hb => Text.bne_of_mem ht (List.mem_reverse.mp hb)
  simp only [splitAtLastClose?, hdrop]

lemma splitAtLastClose?_append {e after : Text} (hafter : ')'.toUInt8 ∉ after) :
    splitAtLastClose? (e ++ ')'.toUInt8 :: after) = some (e, after) := by
  have hclose : ∀ b ∈ after.reverse, (b != ')'.toUInt8) = true :=
    fun b hb => Text.bne_of_mem hafter (List.mem_reverse.mp hb)
  have hreverse : (e ++ ')'.toUInt8 :: after).reverse =
      after.reverse ++ ')'.toUInt8 :: e.reverse := by
    simp
  have hhead : ∀ b ∈ (')'.toUInt8 :: e.reverse).head?, (b != ')'.toUInt8) = false := by
    rintro b ⟨⟩
    decide
  obtain ⟨htake, hdrop⟩ := Text.span_append hclose hhead
  simp only [splitAtLastClose?, hreverse, htake, hdrop, List.reverse_reverse]

/-- A dollar sign starts an expression if an opening parenthesis follows and a closing one comes
later, and otherwise it stands for itself. -/
lemma afterDollar_cases (t : Text) :
    (∃ e after, t = '('.toUInt8 :: (e ++ ')'.toUInt8 :: after) ∧ ')'.toUInt8 ∉ after ∧
        afterDollar t = [.expression e, .literal after]) ∨
      (¬('('.toUInt8 ∈ t.head? ∧ ')'.toUInt8 ∈ t) ∧
        afterDollar t = [.literal ('$'.toUInt8 :: t)]) := by
  cases t with
  | nil => exact .inr ⟨by simp, rfl⟩
  | cons c t =>
    by_cases hc : c = '('.toUInt8
    · subst hc
      by_cases hclose : ')'.toUInt8 ∈ t
      · -- the last closing parenthesis is the first one from behind
        obtain ⟨after, e, hsplit, hafter⟩ :=
          List.eq_append_cons_of_mem (List.mem_reverse.mpr hclose)
        obtain rfl : t = e.reverse ++ ')'.toUInt8 :: after.reverse := by
          rw [← List.reverse_inj, hsplit]
          simp
        have hafter' : ')'.toUInt8 ∉ after.reverse := fun h => hafter (List.mem_reverse.mp h)
        refine .inl ⟨e.reverse, after.reverse, rfl, hafter', ?_⟩
        simp only [afterDollar, if_true, splitAtLastClose?_append hafter']
      · refine .inr ⟨fun h => ?_, ?_⟩
        · rcases List.mem_cons.mp h.2 with h | h
          · exact absurd h (by decide)
          · exact hclose h
        · simp only [afterDollar, if_true, splitAtLastClose?_of_notMem hclose]
    · refine .inr ⟨fun h => hc (Option.some.inj h.1), ?_⟩
      simp only [afterDollar, if_neg hc]

/-! ### Texts without an expression -/

def Piece.text : Piece → Text
  | literal t => t
  | expression e => '$'.toUInt8 :: '('.toUInt8 :: (e ++ [')'.toUInt8])

/-- Somewhere in the text an expression is written: `$(`, any bytes but dollar signs, and `)`. -/
def HasExpression (t : Text) : Prop :=
  ∃ e, '$'.toUInt8 ∉ e ∧ (Piece.expression e).text <:+: t

/-- The pieces of a text make up the text. -/
lemma flatMap_text_pieces (t : Text) : (pieces t).flatMap Piece.text = t := by
  obtain ⟨first, rest, -, -, ht, hpieces⟩ := exists_pieces_eq t
  have hpart : ∀ s ∈ rest, (afterDollar s).flatMap Piece.text = '$'.toUInt8 :: s := by
    intro s _
    obtain ⟨e, after, rfl, -, hs⟩ | ⟨-, hs⟩ := afterDollar_cases s
    · simp [hs, Piece.text]
    · simp [hs, Piece.text]
  rw [hpieces, List.flatMap_cons, List.flatMap_assoc, List.flatMap_congr hpart]
  exact ht.symm

lemma hasExpression_of_mem_pieces {t e : Text} (he : .expression e ∈ pieces t) :
    HasExpression t := by
  refine ⟨e, ?_, ?_⟩
  · obtain ⟨first, rest, -, hrest, -, hpieces⟩ := exists_pieces_eq t
    rw [hpieces] at he
    obtain ⟨s, hs, hmem⟩ : ∃ s ∈ rest, .expression e ∈ afterDollar s := by simpa using he
    obtain ⟨e', after, rfl, -, hafter⟩ | ⟨-, hafter⟩ := afterDollar_cases s
    · obtain rfl : e = e' := by simpa [hafter] using hmem
      exact fun h => hrest _ hs (by simp [h])
    · simp [hafter] at hmem
  · rw [← flatMap_text_pieces t, List.flatMap_def]
    exact List.infix_of_mem_flatten (List.mem_map_of_mem he)

lemma Piece.expand_of_value {I : Interpreter} {equate? : Text → Option Int64} {e : Text} {w : Int64}
    (h : Expression.evaluate I equate? e = .ok w) :
    Piece.expand I equate? (.expression e) = .ok (Text.ofInt w.toInt) := by
  simp only [Piece.expand, h]

variable (I : Interpreter)

lemma mapM_expand_of_literal (equate? : Text → Option Int64) {ps : List Piece}
    (hps : ∀ e, .expression e ∉ ps) :
    ps.mapM (Piece.expand I equate?) = .ok (ps.map Piece.text) := by
  induction ps with
  | nil => rfl
  | cons p ps ih =>
    rw [List.mapM_cons, ih fun e he => hps e (List.mem_cons_of_mem p he)]
    cases p with
    | literal t => rfl
    | expression e => exact absurd List.mem_cons_self (hps e)

/-- A text without an expression stands for itself. -/
lemma expand_of_not_hasExpression (equate? : Text → Option Int64) {t : Text}
    (ht : ¬HasExpression t) : expand I equate? t = .ok t := by
  have hliteral : ∀ e, .expression e ∉ pieces t := fun e he => ht (hasExpression_of_mem_pieces he)
  have hjoin : ((pieces t).map Piece.text).flatten = t := by
    rw [← List.flatMap_def, flatMap_text_pieces]
  rw [expand, mapM_expand_of_literal I equate? hliteral]
  exact congrArg Except.ok hjoin

/-! ### Plain texts -/

/-- No dollar sign in the text starts an expression. -/
def Plain (t : Text) : Prop :=
  t.IsChain fun b c => b = '$'.toUInt8 → c ≠ '('.toUInt8

/-- A text is plain if `$(` does not occur in it. -/
lemma plain_iff {t : Text} : Plain t ↔ ¬['$'.toUInt8, '('.toUInt8] <:+: t := by
  rw [Plain, List.isChain_iff_forall_rel_of_append_cons_cons]
  constructor
  · rintro h ⟨s, u, rfl⟩
    exact h (List.append_assoc s _ u) rfl rfl
  · rintro h b c s u rfl rfl rfl
    exact h ⟨s, u, by simp⟩

/-- A plain text stands for itself. -/
lemma expand_of_plain (equate? : Text → Option Int64) {t : Text} (ht : Plain t) :
    expand I equate? t = .ok t := by
  refine expand_of_not_hasExpression I equate? ?_
  rintro ⟨e, -, he⟩
  exact plain_iff.mp ht (List.IsInfix.trans ⟨[], e ++ [')'.toUInt8], rfl⟩ he)

/-! ### The operands of a cell -/

lemma Plain.append {t rest : Text} (ht : '$'.toUInt8 ∉ t) (hrest : Plain rest) :
    Plain (t ++ rest) := by
  induction t with
  | nil => exact hrest
  | cons b t ih =>
    have hb : b ≠ '$'.toUInt8 := by
      rintro rfl
      exact ht List.mem_cons_self
    refine List.isChain_cons.mpr ⟨fun c _ hdollar => absurd hdollar hb, ih fun h => ht ?_⟩
    exact List.mem_cons_of_mem b h

lemma dollar_notMem {t : Text} (ht : t.all Text.isWordByte = true) : '$'.toUInt8 ∉ t :=
  fun h => absurd (List.all_eq_true.mp ht _ h) (by decide)

/-- What follows the dollar sign of a relative operand is its number, and no expression. -/
lemma Plain.render_append (o : Operand) {rest : Text} (hrest : Plain rest) :
    Plain (o.render ++ rest) := by
  have hnumber : Plain (Text.ofInt o.field.toInt ++ rest) :=
    Plain.append (dollar_notMem (Text.all_isWordByte_ofInt _)) hrest
  rw [Operand.render, List.append_assoc]
  cases ho : o.mode.addressing? with
  | none => exact Plain.append (dollar_notMem (Mode.all_isWordByte_render ho)) hnumber
  | some α =>
    rw [Mode.render, ho]
    refine List.isChain_append.mpr ⟨?_, hnumber, ?_⟩
    · cases α <;> exact List.isChain_singleton _
    · rintro b - d hd - rfl
      exact Text.notMem_ofInt (by decide) (by decide) _
        (Text.mem_of_mem_head?_append (Text.ofInt_ne_nil _) hd)

lemma plain_operandText (a b : Operand) : Plain (Line.operandText a b) := by
  have hb : Plain b.render := List.append_nil b.render ▸ Plain.render_append b List.isChain_nil
  have hcomma : Plain (','.toUInt8 :: ' '.toUInt8 :: b.render) :=
    Plain.append (t := [','.toUInt8, ' '.toUInt8]) (by decide) hb
  exact Plain.append (t := [' '.toUInt8]) (by decide) (Plain.render_append a hcomma)

end Expansion

end CoreWar
