import CoreWar.Assembler.Equates
import CoreWar.Proofs.Script.Identifier
import CoreWar.Proofs.Source.Expansion

/-!
# One pass is enough

There is no expression in a text that has been expanded, so that another expansion does not change
it, whatever the equates are then (`single_pass_suffices`).

When an expression is replaced, its value and what follows it come to stand behind an earlier dollar
sign, and a parenthesis may be open there. It stays open: a value is made of digits, and no closing
parenthesis is left behind an expression, since this reaches to the last one. So the parts of a text
are looked at from the last one to the first, and what comes of them is always `Settled`.
-/

namespace CoreWar

namespace Expansion

/-! ### Where an expression starts -/

/-- An expression starts at a dollar sign. -/
lemma HasExpression.of_append {u v : Text} (h : HasExpression (u ++ v)) (hu : '$'.toUInt8 ∉ u) :
    HasExpression v := by
  obtain ⟨e, he, hinfix⟩ := h
  refine ⟨e, he, ?_⟩
  induction u with
  | nil => exact hinfix
  | cons b u ih =>
    rw [List.mem_cons, not_or] at hu
    rcases List.infix_cons_iff.mp hinfix with hprefix | hinfix
    · exact absurd (List.cons_prefix_cons.mp hprefix).1 hu.1
    · exact ih hu.2 hinfix

lemma takeWhile_append_of_notMem {u : Text} (hu : '$'.toUInt8 ∉ u) (v : Text) :
    (u ++ v).takeWhile (· != '$'.toUInt8) = u ++ v.takeWhile (· != '$'.toUInt8) :=
  List.takeWhile_append_of_pos fun _ hb => Text.bne_of_mem hu hb

/-- An expression is opened right behind its dollar sign and closed in front of the next one. -/
lemma HasExpression.of_dollar {t : Text} (h : HasExpression ('$'.toUInt8 :: t)) :
    ('('.toUInt8 ∈ t.head? ∧ ')'.toUInt8 ∈ t.takeWhile (· != '$'.toUInt8)) ∨
      HasExpression t := by
  obtain ⟨e, he, hinfix⟩ := h
  rcases List.infix_cons_iff.mp hinfix with hprefix | hinfix
  · obtain ⟨rest, rfl⟩ := (List.cons_prefix_cons.mp hprefix).2
    have hbody : '$'.toUInt8 ∉ '('.toUInt8 :: (e ++ [')'.toUInt8]) := by
      simp [he]
      decide
    refine .inl ⟨rfl, ?_⟩
    rw [takeWhile_append_of_notMem hbody]
    simp
  · exact .inr ⟨e, he, hinfix⟩

/-! ### What comes of the parts -/

/-- There is no expression in the text, and it completes none that would start in front of it: it
does not begin with an opening parenthesis, and none is closed before its first dollar sign. -/
structure Settled (r : Text) : Prop where
  not_hasExpression : ¬HasExpression r
  not_opening : '('.toUInt8 ∉ r.head?
  not_closing : ')'.toUInt8 ∉ r.takeWhile (· != '$'.toUInt8)

namespace Settled

lemma nil : Settled [] := by
  refine ⟨?_, by simp, by simp⟩
  rintro ⟨e, -, he⟩
  exact absurd (List.eq_nil_of_infix_nil he) (List.cons_ne_nil _ _)

section

variable {r : Text} (hr : Settled r)

include hr

/-- A value, and what follows an expression behind its last parenthesis. -/
lemma value_append (i : Int) {after : Text} (hdollar : '$'.toUInt8 ∉ after)
    (hclose : ')'.toUInt8 ∉ after) : Settled (Text.ofInt i ++ (after ++ r)) := by
  have hvalue : '$'.toUInt8 ∉ Text.ofInt i := Text.notMem_ofInt (by decide) (by decide) i
  refine ⟨fun h => ?_, fun h => ?_, fun h => ?_⟩
  · exact hr.not_hasExpression ((h.of_append hvalue).of_append hdollar)
  · exact Text.notMem_ofInt (by decide) (by decide) i
      (Text.mem_of_mem_head?_append (Text.ofInt_ne_nil i) h)
  · rw [takeWhile_append_of_notMem hvalue, takeWhile_append_of_notMem hdollar, List.mem_append,
      List.mem_append] at h
    rcases h with h | h | h
    · exact Text.notMem_ofInt (by decide) (by decide) i h
    · exact hclose h
    · exact hr.not_closing h

/-- A dollar sign that starts no expression, and what follows it. -/
lemma dollar_append {s : Text} (hdollar : '$'.toUInt8 ∉ s)
    (hs : ¬('('.toUInt8 ∈ s.head? ∧ ')'.toUInt8 ∈ s)) : Settled ('$'.toUInt8 :: (s ++ r)) := by
  refine ⟨fun h => ?_, by simp; decide, by simp⟩
  rcases h.of_dollar with ⟨hopen, hclose⟩ | h
  · rw [takeWhile_append_of_notMem hdollar, List.mem_append] at hclose
    cases s with
    | nil => exact hr.not_opening hopen
    | cons c s =>
      rcases hclose with hclose | hclose
      · exact hs ⟨hopen, hclose⟩
      · exact hr.not_closing hclose
  · exact hr.not_hasExpression (h.of_append hdollar)

/-- One more part in front of those that have been expanded. -/
lemma part_append {I : Interpreter} {equate? : Text → Option Int64} {s : Text}
    (hs : '$'.toUInt8 ∉ s) {vs : List Text}
    (h : (afterDollar s).mapM (Piece.expand I equate?) = .ok vs) :
    Settled (vs.flatten ++ r) := by
  obtain ⟨e, after, rfl, hclose, hpieces⟩ | ⟨hplain, hpieces⟩ := afterDollar_cases s
  · have hdollar : '$'.toUInt8 ∉ after := fun hmem => hs (by simp [hmem])
    rw [hpieces, List.mapM_cons, Piece.expand] at h
    cases hvalue : Expression.evaluate I equate? e with
    | error f =>
      rw [hvalue] at h
      cases h
    | ok w =>
      rw [hvalue] at h
      cases h
      simpa using hr.value_append w.toInt hdollar hclose
  · rw [hpieces] at h
    cases h
    simpa using hr.dollar_append hs hplain

end

end Settled

variable {I : Interpreter} {equate? : Text → Option Int64}

lemma settled_of_parts {ss : List Text} (hss : ∀ s ∈ ss, '$'.toUInt8 ∉ s) {vs : List Text}
    (h : (ss.flatMap afterDollar).mapM (Piece.expand I equate?) = .ok vs) : Settled vs.flatten := by
  induction ss generalizing vs with
  | nil =>
    cases h
    exact Settled.nil
  | cons s ss ih =>
    obtain ⟨hs, hss⟩ := List.forall_mem_cons.mp hss
    rw [List.flatMap_cons, List.mapM_append] at h
    cases hfirst : (afterDollar s).mapM (Piece.expand I equate?) with
    | error f =>
      rw [hfirst] at h
      cases h
    | ok us =>
      cases hrest : (ss.flatMap afterDollar).mapM (Piece.expand I equate?) with
      | error f =>
        rw [hfirst, hrest] at h
        cases h
      | ok ws =>
        rw [hfirst, hrest] at h
        cases h
        rw [List.flatten_append]
        exact (ih hss hrest).part_append hs hfirst

/-! ### Whole texts -/

/-- There is no expression left in an expanded text. -/
lemma not_hasExpression_of_expand {t r : Text} (h : expand I equate? t = .ok r) :
    ¬HasExpression r := by
  obtain ⟨first, rest, hfirst, hrest, -, hpieces⟩ := exists_pieces_eq t
  rw [expand, hpieces, List.mapM_cons] at h
  cases hparts : (rest.flatMap afterDollar).mapM (Piece.expand I equate?) with
  | error f =>
    rw [hparts] at h
    cases h
  | ok vs =>
    rw [hparts] at h
    cases h
    exact fun hr => (settled_of_parts hrest hparts).not_hasExpression (hr.of_append hfirst)

/-- The texts that expansion keeps are those without an expression. -/
lemma expand_eq_self_iff (I : Interpreter) (equate? : Text → Option Int64) {t : Text} :
    expand I equate? t = .ok t ↔ ¬HasExpression t :=
  ⟨not_hasExpression_of_expand, expand_of_not_hasExpression I equate?⟩

/-- One pass is enough. If a text can be expanded, there is no expression in the result, so that
another expansion gives the result again, under the same equates and under any other ones; and the
result is another text exactly if there was an expression in the first place. This is so whatever
the interpreter makes of expressions. -/
theorem single_pass_suffices (I : Interpreter) {equate? : Text → Option Int64} {t r : Text}
    (h : expand I equate? t = .ok r) :
    ¬HasExpression r ∧ (∀ other?, expand I other? r = .ok r) ∧ (r ≠ t ↔ HasExpression t) := by
  have hr := not_hasExpression_of_expand h
  refine ⟨hr, fun other? => (expand_eq_self_iff I other?).mpr hr, ?_⟩
  rw [← not_iff_not, not_not, ← expand_eq_self_iff I equate?, h, Except.ok.injEq]

/-- A value is put behind an open parenthesis and another one right behind a dollar sign, and what
is left over has an open parenthesis and a closing one. -/
theorem single_pass_suffices_open :
    let equates := Equates.empty.insert "N" "-0x7"
    let t : Text := "$(1$(N)(, $$(N)$,)"
    let r : Text := "$(1-7(, $-7$,)"
    expand Script.standard equates.value? t = .ok r ∧ ¬HasExpression r ∧
      (∀ other?, expand Script.standard other? r = .ok r) ∧ HasExpression t := by
  intro equates t r
  have hvalue : Expression.evaluate Script.standard equates.value? "N" = .ok (-7) :=
    Script.evaluate_standard (by decide) (by decide) (by decide) (by decide) (by decide +kernel)
  have hnumber : Piece.expand Script.standard equates.value? (.expression "N") =
      .ok ("-7" : Text) :=
    (Piece.expand_of_value hvalue).trans (congrArg Except.ok (by decide +kernel))
  have hpieces : pieces t = [.literal [], .literal "$(1", .expression "N", .literal "(, ",
      .literal "$", .expression "N", .literal [], .literal "$,)"] := by
    decide +kernel
  have hexpand : expand Script.standard equates.value? t = .ok r := by
    rw [expand, hpieces]
    simp only [List.mapM_cons, hnumber]
    rfl
  obtain ⟨hr, hagain, hchanged⟩ := single_pass_suffices Script.standard hexpand
  exact ⟨hexpand, hr, hagain, hchanged.mp (by decide)⟩

end Expansion

end CoreWar
