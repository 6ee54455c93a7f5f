import CoreWar.Battle.Basic
import CoreWar.Proofs.Assembler.Independence
import CoreWar.Proofs.Script.Identifier
import CoreWar.Proofs.Source.Template

/-!
# Numbers that are handed on by name

The numbers of a match are written down as text, predefined, read again as numerals, evaluated as
expressions and written into the operands. None of this changes them (`defines_expand`).
-/

namespace CoreWar

/-! ### Numbers of lines and cells -/

lemma Text.ofInt_natCast (n : Nat) : ofInt n = ofNat n := by
  rw [ofInt_of_nonneg (Int.not_lt.mpr (Int.natCast_nonneg n)), Int.natAbs_natCast]

/-- A number that a machine word can count to is read back from its digits. -/
lemma Numeral.exists_signed_ofNat {n : Nat} (hn : n < 0x8000000000000000) :
    ∃ w : Int64, signed (Text.ofNat n) = .ok w ∧ Text.ofInt w.toInt = Text.ofNat n := by
  have hw : (Int64.ofNat n).toInt = n := Int64.toInt_ofNat_of_lt (by simpa using hn)
  have hdigits : Text.ofInt (Int64.ofNat n).toInt = Text.ofNat n := by
    rw [hw, Text.ofInt_natCast]
  exact ⟨Int64.ofNat n, hdigits ▸ signed_ofInt (Int64.ofNat n), hdigits⟩

/-! ### Expressions in a text -/

namespace Expansion

/-- In every text, the expression is replaced by the given digits. -/
def Replaces (I : Interpreter) (equate? : Text → Option Int64) (e digits : Text) : Prop :=
  ∀ before after : Text, ¬['$'.toUInt8, '('.toUInt8] <:+: before →
    ¬['$'.toUInt8, '('.toUInt8] <:+: after → ')'.toUInt8 ∉ after.takeWhile (· != '$'.toUInt8) →
    expand I equate? (before ++ ("$(" ++ e ++ ")" ++ after)) = .ok (before ++ (digits ++ after))

lemma replaces_of_evaluate {I : Interpreter} {equate? : Text → Option Int64} {e : Text}
    (he : '$'.toUInt8 ∉ e) {w : Int64} (h : Expression.evaluate I equate? e = .ok w) :
    Replaces I equate? e (Text.ofInt w.toInt) := by
  intro before after hbefore hafter hunclosed
  let t : Template := ⟨before, [⟨e, after⟩]⟩
  have ht : t.WellFormed := by
    refine ⟨hbefore, fun s hs => ?_⟩
    rw [List.mem_singleton.mp hs]
    exact ⟨he, hafter, hunclosed⟩
  have hexpand : expand I equate? t.text = .ok (t.filled fun _ => w) := by
    refine ht.expand_of_value fun e' he' => ?_
    rw [List.mem_singleton.mp he']
    exact h
  have htext : t.text = before ++ ("$(" ++ e ++ ")" ++ after) := by
    simp only [t, Template.text, Slot.text, List.flatMap_singleton, List.append_assoc]
    rfl
  rw [← htext, hexpand]
  simp only [t, Template.filled, Slot.filled, List.flatMap_singleton]

end Expansion

namespace Assembler

/-! ### Equates of a line -/

/-- A name whose text on a line is that of a machine word is replaced by this text. -/
lemma replaces_of_text [Characters] {I : Interpreter} (hI : I.EvaluatesNames)
    {predefined : Equates} (h : predefined.Sorted) {lineNo : Nat} {name : Text}
    (hname : Expression.IsName name) (hresult : name ≠ Expression.resultVariable) {digits : Text}
    (htext : (if name = lineNumberName then some (Text.ofNat lineNo) else predefined.text? name) =
      some digits)
    {w : Int64} (hsigned : Numeral.signed digits = .ok w) (hw : Text.ofInt w.toInt = digits) :
    Expansion.Replaces I (equatesAt predefined lineNo).value? name digits := by
  have hequate : (equatesAt predefined lineNo).value? name = some w := by
    rw [value?_equatesAt h, lineEquate?, htext, Option.bind_some, hsigned]
    rfl
  rw [← hw]
  exact Expansion.replaces_of_evaluate hname.dollar_notMem
    (Expression.evaluate_of_equate hI hname hresult hequate)

/-! ### Names of a match -/

lemma isName_of_mem [Characters] {name : String} (h : name ∈ ["CORESIZE", "MAXCYCLE", "LINENO"]) :
    Expression.IsName name := by
  have hletters : ∀ s ∈ ["CORESIZE", "MAXCYCLE", "LINENO"], s.toList ≠ [] ∧
      s.toList.all Char.isAlpha = true ∧ (s : Text) ∉ Expression.reservedWords := by
    decide +kernel
  obtain ⟨hne, halpha, hreserved⟩ := hletters name h
  exact Expression.isName_of_isAlpha hne halpha hreserved

lemma text?_predefineAll_defines {size : CoreSize} (b : Battle size) (asm : Assembler)
    (name : Text) :
    (asm.predefineAll b.defines).predefined.text? name =
      (b.defines.lookup name).or (asm.predefined.text? name) := by
  have hnodup : (b.defines.map Prod.fst).Nodup := by
    have hnames : b.defines.map Prod.fst = [("MAXCYCLE" : Text), ("CORESIZE" : Text)] := rfl
    rw [hnames]
    decide
  rw [predefined_predefineAll, Equates.text?_insertAll _ hnodup]

/-- The numbers of a match and of its sources reach the expressions unchanged. Where the numbers of
a match have been predefined, after whatever else an assembler was asked, a line of a source has in
place of their names the decimal digits of the number of cells and of the limit of cycles, and of
its own number, which is one that a machine word can hold. And whatever machine word was predefined
last under another name stands in the place of that name, even if every expression knows the name
for something else. All that is assumed of the interpreter is that a name by itself has the value
that it was predeclared with. -/
theorem defines_expand [Characters] {I : Interpreter} (hI : I.EvaluatesNames) {size : CoreSize}
    (b : Battle size) (history : List Request) (owner : Owner) {s : Source} {i : Nat} {line : Text}
    (hline : s.lines[i]? = some line) (hi : i + 1 < 0x8000000000000000) :
    (let asm := (after I history).predefineAll b.defines
      let equate? := (equatesAt asm.predefined (i + 1)).value?
      (asm.assemble I owner s).1.records[i]? = some ⟨i + 1, line,
          assembleLine I owner equate? (i + 1) (Line.withoutComment line)⟩ ∧
        Expansion.Replaces I equate? "CORESIZE" (Text.ofNat size.count) ∧
        Expansion.Replaces I equate? "MAXCYCLE" (Text.ofInt b.maxCycle.toInt) ∧
        Expansion.Replaces I equate? "LINENO" (Text.ofNat (i + 1))) ∧
    (let asm := after I history
      let equate? := (equatesAt asm.predefined (i + 1)).value?
      (asm.assemble I owner s).1.records[i]? = some ⟨i + 1, line,
          assembleLine I owner equate? (i + 1) (Line.withoutComment line)⟩ ∧
        ∀ (v : Int64) (name : Text), Expression.IsName name → name ≠ Expression.resultVariable →
          name ≠ lineNumberName → latest? history name = some (Text.ofInt v.toInt) →
          Expansion.Replaces I equate? name (Text.ofInt v.toInt)) := by
  refine ⟨?_, ?_⟩
  · intro asm equate?
    have hsorted : asm.predefined.Sorted := by
      rw [predefined_predefineAll]
      exact (sorted_after I history).insertAll b.defines
    obtain ⟨n, hn, hsize⟩ := Numeral.exists_signed_ofNat size.lt
    obtain ⟨k, hk, hlineNo⟩ := Numeral.exists_signed_ofNat hi
    refine ⟨getElem?_records I owner asm hline, ?_, ?_, ?_⟩
    · refine replaces_of_text hI hsorted (isName_of_mem (by decide)) (by decide) ?_ hn hsize
      rw [if_neg (by decide), text?_predefineAll_defines]
      rfl
    · have hsigned := Numeral.signed_ofInt b.maxCycle
      refine replaces_of_text hI hsorted (isName_of_mem (by decide)) (by decide) ?_ hsigned rfl
      rw [if_neg (by decide), text?_predefineAll_defines]
      rfl
    · exact replaces_of_text hI hsorted (isName_of_mem (by decide)) (by decide) (if_pos rfl) hk
        hlineNo
  · intro asm equate?
    refine ⟨getElem?_records I owner asm hline, fun v name hname hresult hnumber hlatest => ?_⟩
    refine replaces_of_text hI (sorted_after I history) hname hresult ?_ (Numeral.signed_ofInt v)
      rfl
    rw [if_neg hnumber, text?_after, hlatest]

/-- A negative limit of cycles, a number in front of a digit, and the least machine word under a
name that is also that of a function. -/
theorem defines_expand_extreme :
    let I := Script.standard
    let b : Battle ⟨1, by decide, by decide⟩ := { Battle.blank ⟨0⟩ with maxCycle := -5 }
    let history : List Request :=
      [.predefine "CORESIZE" "x", .predefine "len" "-9223372036854775808"]
    let s : Source := ⟨"MOV 0, 1\nJMP $(len)", none⟩
    let asm := (after I history).predefineAll b.defines
    let equate? := (equatesAt asm.predefined 2).value?
    let equate'? := (equatesAt (after I history).predefined 2).value?
    s.lines[1]? = some ("JMP $(len)" : Text) ∧ (Script.Value.universal? "len").isSome = true ∧
      Expansion.expand I equate? "@$(CORESIZE)" = .ok ("@1" : Text) ∧
      Expansion.expand I equate? "#$(MAXCYCLE), 7" = .ok ("#-5, 7" : Text) ∧
      Expansion.expand I equate? "$$(LINENO)0" = .ok ("$20" : Text) ∧
      Expansion.expand I equate'? "$(len)" = .ok ("-9223372036854775808" : Text) := by
  intro I b history s asm equate? equate'?
  let _ : Characters := Unicode.version17
  have hline : s.lines[1]? = some ("JMP $(len)" : Text) := by decide +kernel
  have hname : Expression.IsName ("len" : Text) :=
    Expression.isName_of_isAlpha (by decide) (by decide) (by decide)
  have hlatest : latest? history "len" = some (Text.ofInt Int64.minValue.toInt) := by
    decide +kernel
  obtain ⟨⟨-, hsize, hmax, hnumber⟩, -, hword⟩ :=
    defines_expand (Script.evaluatesNames_interpreter _) b history ⟨0⟩ hline (by decide)
  have hfive : Text.ofInt b.maxCycle.toInt = ("-5" : Text) := by decide +kernel
  rw [hfive] at hmax
  have hlen := hword Int64.minValue "len" hname (by decide) (by decide) hlatest
  refine ⟨hline, by decide +kernel, ?_, ?_, ?_, ?_⟩
  · exact hsize "@" [] (by decide) (by decide) (by decide)
  · exact hmax "#" ", 7" (by decide) (by decide) (by decide)
  · exact hnumber "$" "0" (by decide) (by decide) (by decide)
  · exact hlen [] [] (by decide) (by decide) (by decide)

end Assembler

end CoreWar
