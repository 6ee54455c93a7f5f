import CoreWar.Proofs.Script.Identifier

/-!
# A comparison with the result variable

The program of an expression is an assignment to the result variable. An expression that starts with
an equals sign makes a comparison with this variable of it: then the variable has to be predeclared,
and no value is assigned to it.
-/

namespace CoreWar

namespace Script

open Expression

/-- The program that a comparison of the result variable with a number makes. -/
def comparison (i : Int) : Program :=
  [.evaluate (.binary .eq (.name ⟨1, 1⟩ resultVariable) (.literal (.int i)))]

variable [Characters]

lemma tokens_of_comparison :
    tokens ['r', 'c', '=', '=', '1', '\n'] =
      some [⟨.name resultVariable, ⟨1, 1⟩⟩, ⟨.symbol .equal, ⟨1, 3⟩⟩, ⟨.int 1, ⟨1, 5⟩⟩,
        ⟨.newline, ⟨1, 6⟩⟩] := by
  let r : Reader := ⟨['1', '\n'], ⟨1, 5⟩, 0, false⟩
  have hone : startsName '1' = false := startsName_of_lt (by decide)
  have hread : r.stride = r.read (.int 1) 1 := by
    have hr : r.AtToken '1' := ⟨rfl, by decide, rfl⟩
    have hnumber : r.readLiteral (Literal.number r.rest) = r.read (.int 1) 1 := rfl
    simp only [hr.stride_eq, Reader.readPlain, hone, Bool.false_eq_true, if_false, hnumber]
    rfl
  rw [tokens_compare]
  exact tokensFrom_read hread

lemma program?_of_comparison : program? (programText "=1") = some (comparison 1) := by
  have htext : programText "=1" =
      ['r', 'c', '=', '=', '1', '\n'].flatMap String.utf8EncodeChar := rfl
  rw [program?, htext, Glyph.decode_flatMap]
  exact congrArg (Option.bind · Program.ofTokens?) tokens_of_comparison

section

variable (i : Int) {predeclared : Text → Option Int64}

lemma scopeFault?_comparison :
    (comparison i).scopeFault? ((comparison i).scope predeclared) =
      if Scope.defines ⟨[], predeclared⟩ resultVariable then none
      else some (.undefined ⟨1, 1⟩ resultVariable none) := by
  have hscope : (comparison i).scope predeclared = ⟨[], predeclared⟩ := rfl
  have hmeant : nearest? resultVariable (Scope.sortedTargets ⟨[], predeclared⟩) = none := by
    rw [Scope.sortedTargets, List.mergeSort_nil]
    rfl
  rw [hscope, comparison, scopeFault?_singleton rfl rfl, hmeant]

lemma interpret_comparison_of_none (h : predeclared resultVariable = none) :
    (comparison i).interpret predeclared =
      .error ⟨.resolving, (ScopeFault.undefined ⟨1, 1⟩ resultVariable none).message⟩ := by
  have huniversal : Value.universal? resultVariable = none := by decide +kernel
  have hdefines : Scope.defines ⟨[], predeclared⟩ resultVariable = false := by
    simp [Scope.defines, h, huniversal]
  simp only [Program.interpret, scopeFault?_comparison, hdefines, Bool.false_eq_true, if_false]

lemma interpret_comparison_of_some {w : Int64} (h : predeclared resultVariable = some w) :
    (comparison i).interpret predeclared = .ok fun _ => none := by
  have hscope : (comparison i).scope predeclared = ⟨[], predeclared⟩ := rfl
  have hdefines : Scope.defines ⟨[], predeclared⟩ resultVariable = true := by
    simp [Scope.defines, h]
  have hvalue : Environment.value ⟨⟨[], predeclared⟩, []⟩ resultVariable = .ok (.int w.toInt) := by
    simp [Environment.value, h]
  have hrun : (comparison i).run ((comparison i).scope predeclared) = .ok [] := by
    simp only [hscope]
    simp only [comparison, Program.run, List.foldlM_cons, Statement.run, Term.eval, hvalue]
    rfl
  simp only [Program.interpret, scopeFault?_comparison, hdefines, if_true, hrun, List.lookup_nil,
    Option.bind_none]

end

/-- The two faults of a comparison: the result variable is not known, or it has got no value. -/
lemma evaluate_comparison_eq (unreadable : Text → Text) (equate? : Text → Option Int64) :
    evaluate (interpreter unreadable) equate? "=1" = .error
      (if equate? resultVariable = none then .interpreter ⟨.resolving, "expr:1:1: undefined: rc"⟩
        else .notInteger) := by
  have hrun : (interpreter unreadable).run (programText "=1") equate? =
      (comparison 1).interpret equate? := by
    simp only [interpreter, program?_of_comparison]
  rw [evaluate, hrun]
  cases h : equate? resultVariable with
  | none =>
    rw [interpret_comparison_of_none 1 h, if_pos rfl]
    rfl
  | some w => rw [interpret_comparison_of_some 1 h, if_neg (Option.some_ne_none w)]

end Script

end CoreWar
