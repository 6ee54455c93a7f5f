import CoreWar.Proofs.Expression.Name
import CoreWar.Script.Interpreter

/-!
# Tokens that are read

How the reader passes a word, an equals sign and the end of a line, and with which tokens the
program of every expression starts (`tokens_assign`, `tokens_compare`).
-/

namespace CoreWar

namespace Script

open Expression

/-! ### Characters with a meaning -/

/-- The characters that have a meaning for the lines of a text. -/
def lineMarks : List Char :=
  ['\x00', '\t', '\n', '\r', ' ', '#', '\\']

/-- The characters that end a name and have a meaning of their own. -/
def marks : List Char :=
  lineMarks ++ ['"', '\x27', '=']

/-- No string starts where there are no quotes. -/
lemma string?_of_no_quotes {cs : List Char} (h : ∀ c ∈ cs, c ≠ '"' ∧ c ≠ '\x27') :
    Literal.string? cs = none := by
  have hnone : ∀ raw n, Literal.quotation? raw (cs.drop n) = none := by
    intro raw n
    cases hdrop : cs.drop n with
    | nil => rfl
    | cons c rest =>
      obtain ⟨hdouble, hsingle⟩ := h c (List.mem_of_mem_drop (hdrop ▸ List.mem_cons_self))
      simp only [Literal.quotation?, hdouble, hsingle, or_self, if_false]
  simp only [Literal.string?, hnone, Option.map_none, ite_self]

variable [Characters]

lemma notMem_marks_of_continuesName {c : Char} (hc : continuesName c = true) : c ∉ marks := by
  have hmarks : marks.all fun d =>
      d.isDigit = false ∧ d ≠ '_' ∧ (d.toNat < 0x41 ∨ d.toNat = 0x5C) := by decide
  intro hmem
  obtain ⟨hdigit, hunderscore, hnumber⟩ := of_decide_eq_true (List.all_eq_true.mp hmarks c hmem)
  simp only [continuesName, startsName, hdigit, Bool.false_or, Bool.or_eq_true, beq_iff_eq,
    hunderscore, false_or] at hc
  have hletter := toNat_of_isLetter hc
  omega

lemma continuesName_of_mem_marks {c : Char} (hc : c ∈ marks) : continuesName c = false :=
  Bool.eq_false_iff.mpr fun h => notMem_marks_of_continuesName h hc

/-! ### Strides of the reader -/

namespace Reader

/-- The text that is left to read goes on with a character that has no meaning for the lines of the
text and starts no string. -/
structure AtToken (r : Reader) (c : Char) : Prop where
  head : r.rest.head? = some c
  plain : c ∉ lineMarks
  no_string : Literal.string? r.rest = none

lemma AtToken.stride_eq {r : Reader} {c : Char} (h : r.AtToken c) : r.stride = r.readPlain c := by
  obtain ⟨hhead, hplain, hstring⟩ := h
  obtain ⟨rest, hrest⟩ := List.head?_eq_some_iff.mp hhead
  simp only [lineMarks, List.mem_cons, List.not_mem_nil, or_false, not_or] at hplain
  obtain ⟨hzero, htab, hfeed, hreturn, hspace, hhash, hslash⟩ := hplain
  have hblank : isSpace c = false := by simp [isSpace, hspace, htab]
  have hend : isLineEnd c = false := by simp [isLineEnd, hfeed, hreturn]
  have hskip : r.skipSpace = r := by
    rw [skipSpace, hrest, List.takeWhile_cons_of_neg (by simp [hblank])]
    rfl
  have hindented : (r.fresh && r.rest.head?.any isSpace) = false := by simp [hhead, hblank]
  simp only [stride, hskip, hindented]
  rw [hrest]
  simp only [hzero, if_false, strideFrom, hhash, hend, Bool.false_eq_true, Bool.false_and, hslash,
    readToken, hstring]

/-- A word is read as far as it goes. -/
lemma stride_word {r : Reader} {c : Char} {word rest : List Char} (hr : r.AtToken c)
    (hrest : r.rest = c :: word ++ rest) (hc : startsName c = true)
    (hword : ∀ d ∈ word, continuesName d = true)
    (hend : ∀ d ∈ rest.head?, continuesName d = false)
    (hkeyword : Keyword.ofText? ((c :: word).flatMap String.utf8EncodeChar) = none) :
    r.stride = r.read (.name ((c :: word).flatMap String.utf8EncodeChar)) (c :: word).length := by
  have htake : r.rest.takeWhile continuesName = c :: word := by
    have hall : ∀ d ∈ c :: word, continuesName d = true :=
      List.forall_mem_cons.mpr ⟨continuesName_of_startsName hc, hword⟩
    rw [hrest, List.takeWhile_append_of_pos hall]
    cases rest with
    | nil => exact List.append_nil _
    | cons d rest => rw [List.takeWhile_cons_of_neg (by simp [hend d rfl]), List.append_nil]
  simp only [hr.stride_eq, readPlain, hc, if_true, readWord, htake, hkeyword]

/-- A sign of comparison or assignment is read as far as it goes. -/
lemma stride_equals {r : Reader} (hr : r.AtToken '=') {s : Symbol}
    (hs : Symbol.atStart? r.rest = some s) : r.stride = r.readSymbol s := by
  have hname : startsName '=' = false := startsName_of_lt (by decide)
  have hdigit : ('='.isDigit || ('=' == '.' && (r.rest.drop 1).head?.any Char.isDigit)) = false :=
    rfl
  simp only [hr.stride_eq, readPlain, hname, hdigit, Bool.false_eq_true, if_false, hs]

omit [Characters] in
lemma atStart?_assign {cs : List Char} (h : '=' ∉ cs.head?) :
    Symbol.atStart? ('=' :: cs) = some .assign := by
  cases cs with
  | nil => rfl
  | cons d cs =>
    have hd : '=' ≠ d := fun heq => h (congrArg some heq.symm)
    simp [Symbol.atStart?, Symbol.all, List.find?, Symbol.spelling, List.isPrefixOf, hd]

/-- A line that is not blank ends with a token of its own, and after the last one there is nothing
more to read. -/
lemma stride_newline {r : Reader} (hrest : r.rest = ['\n']) (hfresh : r.fresh = false)
    (hdepth : r.depth = 0) :
    ∃ next, r.stride = .read ⟨.newline, r.place⟩ next ∧ next.stride = .stop := by
  obtain ⟨rest, place, depth, fresh⟩ := r
  cases hrest
  cases hfresh
  cases hdepth
  exact ⟨_, rfl, rfl⟩

end Reader

/-! ### Tokens of a program -/

lemma tokensFrom_read {fuel : Nat} {found : List Lexeme} {r next : Reader} {l : Lexeme}
    (h : r.stride = .read l next) :
    tokensFrom (fuel + 1) found r = tokensFrom fuel (l :: found) next := by
  rw [tokensFrom, h]

section

variable (cs : List Char)

/-- A program starts with the result variable. -/
lemma tokens_result :
    tokens ('r' :: 'c' :: '=' :: cs) = tokensFrom (cs.length + 3) [⟨.name resultVariable, ⟨1, 1⟩⟩]
      ⟨'=' :: cs, ⟨1, 3⟩, 0, false⟩ := by
  have hrest : (Reader.start ('r' :: 'c' :: '=' :: cs)).rest = 'r' :: ['c'] ++ '=' :: cs := rfl
  have hc := continuesName_of_startsName (startsName_of_isAlpha (c := 'c') (by decide))
  have hread := Reader.stride_word ⟨rfl, by decide, rfl⟩ hrest (startsName_of_isAlpha (by decide))
    (List.forall_mem_singleton.mpr hc)
    (by rintro d ⟨⟩; exact continuesName_of_mem_marks (by decide)) (by decide +kernel)
  exact tokensFrom_read hread

/-- A program goes on with an assignment, unless a second equals sign makes it a comparison. -/
lemma tokens_assign (h : '=' ∉ cs.head?) :
    tokens ('r' :: 'c' :: '=' :: cs) =
      tokensFrom (cs.length + 2) [⟨.symbol .assign, ⟨1, 3⟩⟩, ⟨.name resultVariable, ⟨1, 1⟩⟩]
        ⟨cs, ⟨1, 4⟩, 0, false⟩ := by
  have hread := Reader.stride_equals (r := ⟨'=' :: cs, ⟨1, 3⟩, 0, false⟩) ⟨rfl, by decide, rfl⟩
    (Reader.atStart?_assign h)
  rw [tokens_result]
  exact tokensFrom_read hread

/-- A program with a second equals sign goes on with a comparison. -/
lemma tokens_compare :
    tokens ('r' :: 'c' :: '=' :: '=' :: cs) =
      tokensFrom (cs.length + 3) [⟨.symbol .equal, ⟨1, 3⟩⟩, ⟨.name resultVariable, ⟨1, 1⟩⟩]
        ⟨cs, ⟨1, 5⟩, 0, false⟩ := by
  have hread := Reader.stride_equals (r := ⟨'=' :: '=' :: cs, ⟨1, 3⟩, 0, false⟩)
    ⟨rfl, by decide, rfl⟩ rfl
  rw [tokens_result]
  exact tokensFrom_read hread

end

end Script

end CoreWar
