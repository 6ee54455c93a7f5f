import CoreWar.Proofs.Assembler.Equates
import CoreWar.Proofs.Expression.Mention
import CoreWar.Proofs.Script.Comparison

/-!
# Equates that are not mentioned

An expression sees an equate only as the integer that its text stands for, and only if its name is
written in the expression. Two tables of equates that agree on these names as integers lead to the
same value, or to the same fault (`evaluate_coincidence`). The only other name of a program is the
result variable. It is evaluated if an expression starts with an equals sign and so turns the
assignment to this variable into a comparison with it (`evaluate_comparison`).
-/

namespace CoreWar

/-! ### Tables of equates -/

namespace Equates

/-- Two tables agree on a name if it has a numeral of the same integer in both, or a numeral in
neither. -/
def AgreeOn (e e' : Equates) (name : Text) : Prop :=
  (∃ t t' w, e.text? name = some t ∧ e'.text? name = some t' ∧
      Numeral.signed t = .ok w ∧ Numeral.signed t' = .ok w) ∨
    (∀ t w, e.text? name = some t → Numeral.signed t ≠ .ok w) ∧
      ∀ t w, e'.text? name = some t → Numeral.signed t ≠ .ok w

lemma toOption_eq_some_iff {r : Except Numeral.Fault Int64} {w : Int64} :
    r.toOption = some w ↔ r = .ok w := by
  cases r with
  | error f => simp [Except.toOption]
  | ok v => simp [Except.toOption]

lemma value?_eq_some_iff {e : Equates} {name : Text} {w : Int64} :
    e.value? name = some w ↔ ∃ t, e.text? name = some t ∧ Numeral.signed t = .ok w := by
  simp only [value?, Option.bind_eq_some_iff, toOption_eq_some_iff]

lemma value?_eq_none_iff {e : Equates} {name : Text} :
    e.value? name = none ↔ ∀ t w, e.text? name = some t → Numeral.signed t ≠ .ok w := by
  simp only [Option.eq_none_iff_forall_ne_some, ne_eq, value?_eq_some_iff, not_exists, not_and]
  exact forall_comm

/-- Tables that agree on a name show the same integer for it. -/
lemma AgreeOn.value?_eq {e e' : Equates} {name : Text} (h : e.AgreeOn e' name) :
    e.value? name = e'.value? name := by
  rcases h with ⟨t, t', w, ht, ht', hw, hw'⟩ | ⟨h, h'⟩
  · rw [value?_eq_some_iff.mpr ⟨t, ht, hw⟩, value?_eq_some_iff.mpr ⟨t', ht', hw'⟩]
  · rw [value?_eq_none_iff.mpr h, value?_eq_none_iff.mpr h']

lemma value?_insert (e : Equates) (k t name : Text) :
    (e.insert k t).value? name =
      if name = k then (Numeral.signed t).toOption else e.value? name := by
  rw [value?, text?_insert]
  split <;> rfl

/-- A text that is no numeral is as good as none. -/
lemma value?_insert_of_absent {e : Equates} {name t : Text} (hname : e.text? name = none)
    (ht : ∀ w, Numeral.signed t ≠ .ok w) : (e.insert name t).value? = e.value? := by
  have hnone : (Numeral.signed t).toOption = none :=
    Option.eq_none_iff_forall_ne_some.mpr fun w hw => ht w (toOption_eq_some_iff.mp hw)
  funext n
  rw [value?_insert]
  split_ifs with hn
  · rw [hnone, hn, value?, hname, Option.bind_none]
  · rfl

/-- Any numeral of an integer is as good as another one. -/
lemma value?_insert_congr (e : Equates) (name : Text) {t t' : Text} {w : Int64}
    (ht : Numeral.signed t = .ok w) (ht' : Numeral.signed t' = .ok w) :
    (e.insert name t).value? = (e.insert name t').value? := by
  funext n
  rw [value?_insert, value?_insert, ht, ht']

end Equates

namespace Expression

/-- Only the integers of the equates that are mentioned matter. An expression has the same value, or
the same fault, under two tables that agree on the names written in it, where an expression that
starts with an equals sign counts as one that mentions the result variable. So a text that is no
numeral is as good as none, any numeral of an integer is as good as another one, and equates that
are not mentioned have no effect. All that is assumed of the interpreter is that it sees the
predeclared names that a program mentions, unless they are hidden by an assignment, and no
others. -/
theorem evaluate_coincidence {I : Interpreter} {x : Text} (hI : I.SeesMentioned x) (e : Equates) :
    (∀ e' : Equates, (∀ n ∈ identifiers x, e.AgreeOn e' n) →
        (x.head? = some '='.toUInt8 → e.AgreeOn e' resultVariable) →
        evaluate I e.value? x = evaluate I e'.value? x) ∧
      (∀ name t, e.text? name = none → (∀ w, Numeral.signed t ≠ .ok w) →
        evaluate I (e.insert name t).value? x = evaluate I e.value? x) ∧
      (∀ name t t' w, Numeral.signed t = .ok w → Numeral.signed t' = .ok w →
        evaluate I (e.insert name t).value? x = evaluate I (e.insert name t').value? x) ∧
      ∀ name t, name ∉ identifiers x → (x.head? = some '='.toUInt8 → name ≠ resultVariable) →
        evaluate I (e.insert name t).value? x = evaluate I e.value? x := by
  refine ⟨?_, ?_, ?_, ?_⟩
  · intro e' h hresult
    exact evaluate_congr hI (fun n hn => (h n hn).value?_eq) fun hhead =>
      (hresult hhead).value?_eq
  · intro name t hname ht
    rw [Equates.value?_insert_of_absent hname ht]
  · intro name t t' w ht ht'
    rw [Equates.value?_insert_congr e name ht ht']
  · intro name t hname hresult
    have hvalue : ∀ n, n ≠ name → (e.insert name t).value? n = e.value? n := by
      intro n hn
      rw [Equates.value?_insert, if_neg hn]
    refine evaluate_congr hI (fun n hn => hvalue n ?_) fun hhead => hvalue _ (hresult hhead).symm
    rintro rfl
    exact hname hn

/-- The same integer is written in two ways, next to an equate that is not mentioned and one that is
no integer. -/
theorem evaluate_coincidence_spelling :
    let I := Script.standard
    let e := (Equates.empty.insert "n" "0x10").insert "m" "7"
    let e' := (Equates.empty.insert "n" "0b10000").insert "s" "n"
    (∀ n ∈ identifiers "n", e.AgreeOn e' n) ∧ evaluate I e.value? "n" = evaluate I e'.value? "n" ∧
      evaluate I e.value? "n" = .ok 16 := by
  intro I e e'
  let _ : Characters := Unicode.version17
  have hname : IsName ("n" : Text) := isName_of_isAlpha (by decide) (by decide) (by decide)
  have hnames : identifiers "n" = [("n" : Text)] := by decide +kernel
  have hI : I.SeesMentioned "n" := by
    refine ⟨Script.dependsOnlyOn_of_isName _ hname (by decide) (by decide +kernel) ?_,
      fun _ => Script.dependsOnlyOn_of_isName _ hname (by decide) (by decide +kernel) (by decide)⟩
    rw [identifiers_programText, hnames]
    decide
  have hagree : ∀ n ∈ identifiers "n", e.AgreeOn e' n := by
    rw [hnames]
    refine List.forall_mem_singleton.mpr (.inl ⟨("0x10" : Text), ("0b10000" : Text), 16, ?_⟩)
    exact ⟨by decide +kernel, by decide +kernel, by decide +kernel, by decide +kernel⟩
  refine ⟨hagree, (evaluate_coincidence hI e).1 e' hagree (fun h => absurd h (by decide)), ?_⟩
  exact Script.evaluate_standard (by decide) (by decide) (by decide) (by decide) (by decide +kernel)

/-- An equate that is not mentioned makes a difference where it has the name of the result variable
and the expression starts with an equals sign. -/
theorem evaluate_comparison :
    let I := Script.standard
    let e := Equates.empty
    let e' := Equates.empty.insert resultVariable "5"
    (∀ n ∈ identifiers "=1", e.AgreeOn e' n) ∧
      evaluate I e.value? "=1" =
        .error (.interpreter ⟨.resolving, "expr:1:1: undefined: rc"⟩) ∧
      evaluate I e'.value? "=1" = .error .notInteger := by
  intro I e e'
  have hnames : identifiers "=1" = [] := by decide +kernel
  have hcomparison := @Script.evaluate_comparison_eq Unicode.version17 fun _ => []
  have hnone : e.value? resultVariable = none := rfl
  have hfive : e'.value? resultVariable ≠ none := by decide +kernel
  refine ⟨?_, ?_, ?_⟩
  · rw [hnames]
    exact List.forall_mem_nil _
  · exact (hcomparison e.value?).trans (by rw [if_pos hnone])
  · exact (hcomparison e'.value?).trans (by rw [if_neg hfive])

end Expression

end CoreWar
