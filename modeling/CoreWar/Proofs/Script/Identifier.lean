import CoreWar.Proofs.Expression.Mention
import CoreWar.Proofs.Script.Tokens

/-!
# Expressions that are a single name

A name is read as such if nothing else is written, and then its value is the word that it was
predeclared with, whatever else the name may be known for (`evaluatesNames_interpreter`).
-/

namespace CoreWar

namespace Script

open Expression

lemma Keyword.ofText?_of_notMem {word : Text} (h : word ∉ reservedWords) : ofText? word = none := by
  have hne : ∀ w ∈ reservedWords, word ≠ w := fun w hw heq => h (heq ▸ hw)
  have hcontains : reservedWords.contains word = false := by simpa using h
  rw [ofText?, if_neg (hne _ (by decide)), if_neg (hne _ (by decide)), if_neg (hne _ (by decide)),
    if_neg (hne _ (by decide)), if_neg (hne _ (by decide)), if_neg (hne _ (by decide)), hcontains]
  rfl

lemma programText_flatMap (cs : List Char) :
    programText (cs.flatMap String.utf8EncodeChar) =
      ('r' :: 'c' :: '=' :: (cs ++ ['\n'])).flatMap String.utf8EncodeChar := by
  simp only [List.flatMap_cons, List.flatMap_append]
  rfl

section

variable [Characters]

/-! ### The program of a name -/

/-- A word, after which the text ends, is read as such. -/
lemma tokens_of_word {c : Char} {word : List Char} (hc : startsName c = true)
    (hword : ∀ d ∈ word, continuesName d = true)
    (hkeyword : Keyword.ofText? ((c :: word).flatMap String.utf8EncodeChar) = none) :
    ∃ p₁ p₂ p₃ p₄, tokens ('r' :: 'c' :: '=' :: (c :: word ++ ['\n'])) =
      some [⟨.name resultVariable, p₁⟩, ⟨.symbol .assign, p₂⟩,
        ⟨.name ((c :: word).flatMap String.utf8EncodeChar), p₃⟩, ⟨.newline, p₄⟩] := by
  have hall : ∀ d ∈ c :: word, d ∉ marks := by
    intro d hd
    rcases List.mem_cons.mp hd with rfl | hd
    · exact notMem_marks_of_continuesName (continuesName_of_startsName hc)
    · exact notMem_marks_of_continuesName (hword d hd)
  have hquotes : ∀ d ∈ c :: word ++ ['\n'], d ≠ '"' ∧ d ≠ '\x27' := by
    intro d hd
    rcases List.mem_append.mp hd with hd | hd
    · have hmarks := hall d hd
      constructor
      · rintro rfl
        exact hmarks (by decide)
      · rintro rfl
        exact hmarks (by decide)
    · rw [List.mem_singleton.mp hd]
      decide
  have hassign : '=' ∉ (c :: word ++ ['\n']).head? := by
    intro h
    cases h
    exact hall '=' List.mem_cons_self (by decide)
  let r : Reader := ⟨c :: word ++ ['\n'], ⟨1, 4⟩, 0, false⟩
  let r' : Reader := { r.advance (c :: word).length with fresh := false }
  have hname : r.stride =
      r.read (.name ((c :: word).flatMap String.utf8EncodeChar)) (c :: word).length := by
    have hrest : r.rest = c :: word ++ ['\n'] := rfl
    refine Reader.stride_word ⟨rfl, fun h => ?_, string?_of_no_quotes hquotes⟩ hrest hc hword ?_
      hkeyword
    · exact hall c List.mem_cons_self (List.mem_append_left _ h)
    · rintro d ⟨⟩
      exact continuesName_of_mem_marks (by decide)
  have hrest : r'.rest = ['\n'] := List.drop_left
  obtain ⟨next, hnewline, hstop⟩ := Reader.stride_newline hrest rfl rfl
  have hfuel : (c :: word ++ ['\n']).length + 2 = word.length + 1 + 3 := by simp
  refine ⟨⟨1, 1⟩, ⟨1, 3⟩, r.place, r'.place, ?_⟩
  rw [tokens_assign _ hassign, hfuel, tokensFrom_read hname, tokensFrom_read hnewline, tokensFrom,
    hstop]
  rfl

/-- The program of a name gives the value of the name to the result variable. -/
lemma program?_of_isName {name : Text} (h : IsName name) :
    ∃ place place', program? (programText name) =
      some [.assign place resultVariable (.name place' name)] := by
  obtain ⟨⟨c, word, hc, hword, rfl⟩, hreserved⟩ := h
  have hchars : ∀ cs : List Char, (cs.map Glyph.char).map Glyph.toChar = cs := by
    intro cs
    rw [List.map_map]
    exact List.map_id cs
  obtain ⟨p₁, p₂, p₃, p₄, htokens⟩ :=
    tokens_of_word hc hword (Keyword.ofText?_of_notMem hreserved)
  refine ⟨p₁, p₃, ?_⟩
  rw [program?, programText_flatMap, Glyph.decode_flatMap, hchars, htokens]
  rfl

/-! ### The value of a name -/

/-- A statement without calls and with a single name is in order if the name is defined. -/
lemma scopeFault?_singleton {s : Statement} (hcalls : s.term.callFault? = none) {place : Place}
    {name : Text} (hnames : s.term.names = [(place, name)]) (scope : Scope) :
    Program.scopeFault? [s] scope =
      if scope.defines name then none
      else some (.undefined place name (nearest? name scope.sortedTargets)) := by
  have hstatement : Program.statementFault? [] [s] = none := by
    rw [Program.statementFault?, hcalls]
    cases s <;> rfl
  have hundefined : Program.names [s] = [(place, name)] := by
    rw [Program.names, List.flatMap_singleton, hnames]
  cases hdefines : scope.defines name with
  | true => simp [Program.scopeFault?, hstatement, Program.undefined?, hundefined, hdefines]
  | false => simp [Program.scopeFault?, hstatement, Program.undefined?, hundefined, hdefines]

section

variable {predeclared : Text → Option Int64} (place place' : Place) {name : Text}

lemma scopeFault?_of_name :
    Program.scopeFault? [.assign place resultVariable (.name place' name)]
        ⟨[resultVariable], predeclared⟩ =
      if Scope.defines ⟨[resultVariable], predeclared⟩ name then none
      else some (.undefined place' name (nearest? name [resultVariable])) := by
  rw [scopeFault?_singleton rfl rfl, Scope.sortedTargets, List.mergeSort_singleton]

lemma run_of_name (hresult : name ≠ resultVariable) {w : Int64} (hw : predeclared name = some w) :
    Program.run [.assign place resultVariable (.name place' name)]
        ⟨[resultVariable], predeclared⟩ = .ok [(resultVariable, .int w.toInt)] := by
  have hvalue : Environment.value ⟨⟨[resultVariable], predeclared⟩, []⟩ name =
      .ok (.int w.toInt) := by
    simp [Environment.value, hresult, hw]
  simp only [Program.run, List.foldlM_cons, Statement.run, Term.eval, hvalue]
  rfl

lemma interpret_of_name (hresult : name ≠ resultVariable) {w : Int64}
    (hw : predeclared name = some w) :
    Program.interpret [.assign place resultVariable (.name place' name)] predeclared =
      .ok fun n => if n = resultVariable then some w.toInt else none := by
  have hscope : Program.scope [.assign place resultVariable (.name place' name)] predeclared =
      ⟨[resultVariable], predeclared⟩ := rfl
  have hdefines : Scope.defines ⟨[resultVariable], predeclared⟩ name = true := by
    simp [Scope.defines, hw]
  simp only [Program.interpret, hscope, scopeFault?_of_name, hdefines, if_true,
    run_of_name place place' hresult hw]
  congr 1
  funext n
  by_cases hn : n = resultVariable
  · rw [hn, List.lookup_cons_self, if_pos rfl]
    rfl
  · rw [List.lookup_cons, beq_eq_false_iff_ne.mpr hn, if_neg hn]
    rfl

lemma interpret_of_undefined (hresult : name ≠ resultVariable) (hequate : predeclared name = none)
    (huniversal : Value.universal? name = none) :
    Program.interpret [.assign place resultVariable (.name place' name)] predeclared =
      .error ⟨.resolving,
        (ScopeFault.undefined place' name (nearest? name [resultVariable])).message⟩ := by
  have hscope : Program.scope [.assign place resultVariable (.name place' name)] predeclared =
      ⟨[resultVariable], predeclared⟩ := rfl
  have hdefines : Scope.defines ⟨[resultVariable], predeclared⟩ name = false := by
    simp [Scope.defines, hresult, hequate, huniversal]
  simp only [Program.interpret, hscope, scopeFault?_of_name, hdefines, Bool.false_eq_true, if_false]

end

section

variable (unreadable : Text → Text) {name : Text} (h : IsName name)
  (hresult : name ≠ resultVariable)

include h hresult

lemma run_programText_of_equate {predeclared : Text → Option Int64} {w : Int64}
    (hw : predeclared name = some w) :
    (interpreter unreadable).run (programText name) predeclared =
      .ok fun n => if n = resultVariable then some w.toInt else none := by
  obtain ⟨place, place', hprogram⟩ := program?_of_isName h
  simp only [interpreter, hprogram, interpret_of_name place place' hresult hw]

/-- About a name that is not known the complaint is always the same. -/
lemma exists_run_programText_eq_error (huniversal : Value.universal? name = none) :
    ∃ complaint, ∀ predeclared : Text → Option Int64, predeclared name = none →
      (interpreter unreadable).run (programText name) predeclared = .error complaint := by
  obtain ⟨place, place', hprogram⟩ := program?_of_isName h
  refine ⟨⟨.resolving, (ScopeFault.undefined place' name (nearest? name [resultVariable])).message⟩,
    fun predeclared hnone => ?_⟩
  simp only [interpreter, hprogram, interpret_of_undefined place place' hresult hnone huniversal]

/-- Of the predeclared names, the program of a name depends on this one only. -/
lemma dependsOnlyOn_of_isName (huniversal : Value.universal? name = none) {names : Text → Prop}
    (hnames : names name) :
    (interpreter unreadable).DependsOnlyOn (programText name) names := by
  intro predeclared predeclared' hagree
  have hname := hagree name hnames
  cases hvalue : predeclared name with
  | none =>
    obtain ⟨complaint, hrun⟩ :=
      exists_run_programText_eq_error unreadable h hresult huniversal
    rw [hrun _ hvalue, hrun _ (hname.symm.trans hvalue)]
  | some w =>
    rw [run_programText_of_equate unreadable h hresult hvalue,
      run_programText_of_equate unreadable h hresult (hname.symm.trans hvalue)]

end

/-- A name by itself has the value that it was predeclared with. -/
lemma evaluatesNames_interpreter (unreadable : Text → Text) :
    (interpreter unreadable).EvaluatesNames :=
  fun _ hname hresult _ _ hw =>
    ⟨_, run_programText_of_equate unreadable hname hresult hw, if_pos rfl⟩

end

/-! ### Words of letters -/

section

variable {s : String} (hs : s.toList ≠ []) (halpha : s.toList.all Char.isAlpha = true)
  (hreserved : (s : Text) ∉ reservedWords) (hresult : (s : Text) ≠ resultVariable)
  {equate? : Text → Option Int64}

include hs halpha hreserved hresult

/-- A word of ASCII letters, unless it is reserved, has the value of its equate. -/
lemma evaluate_standard {w : Int64} (hw : equate? s = some w) :
    evaluate standard equate? s = .ok w := by
  let _ : Characters := Unicode.version17
  exact evaluate_of_equate (evaluatesNames_interpreter _) (isName_of_isAlpha hs halpha hreserved)
    hresult hw

lemma exists_evaluate_standard_eq_error (huniversal : Value.universal? (s : Text) = none)
    (hnone : equate? s = none) : ∃ fault, evaluate standard equate? s = .error fault := by
  let _ : Characters := Unicode.version17
  obtain ⟨complaint, hrun⟩ := exists_run_programText_eq_error (fun _ => [])
    (isName_of_isAlpha hs halpha hreserved) hresult huniversal
  exact ⟨.interpreter complaint, evaluate_of_run_eq_error (hrun equate? hnone)⟩

end

end Script

end CoreWar
