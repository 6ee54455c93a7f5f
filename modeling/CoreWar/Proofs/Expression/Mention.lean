import Mathlib.Tactic.Lemma
import Mathlib.Tactic.SplitIfs
import CoreWar.Expression.Basic
import CoreWar.Expression.Name

/-!
# Names that are mentioned

Which names are written in a text can be told without knowing what the text means: they stand there
as whole words, outside of strings and comments. In the program of an expression these are the names
of the expression and the result variable (`identifiers_programText`). Of an interpreter it is
assumed that it sees no other predeclared names (`Interpreter.SeesMentioned`), and then what an
expression comes to depends on the equates of its own names only (`evaluate_congr`).
-/

namespace CoreWar

namespace Expression

/-! ### Words of a text -/

/-- Whether a byte can stand in a name: that of an ASCII letter, of a digit or of an underscore, and
every byte of a character that is not ASCII. -/
def isNameByte (b : UInt8) : Bool :=
  Text.isLetter b || Text.isDigit b || b == '_'.toUInt8 || decide (0x80 ≤ b)

/-- Whether a word goes on with a byte. There may be points in a number. -/
def continuesWord (word : Text) (b : UInt8) : Bool :=
  isNameByte b || (b == '.'.toUInt8 && word.head?.any Text.isDigit)

def isQuote (b : UInt8) : Bool :=
  b == '"'.toUInt8 || b == '\x27'.toUInt8

/-- The words that belong to a string if they stand directly in front of it. -/
def stringMarks : List Text := ["r", "b", "rb"]

/-- The name that a word is, unless it is empty, a number or reserved. -/
def nameOfWord (word : Text) : List Text :=
  if (word.head?.any fun b => !Text.isDigit b) && !reservedWords.contains word then [word] else []

/-- Where the next byte of a text stands. -/
inductive Spot where
  /-- Outside of strings and comments, and after the given part of a word. -/
  | word (start : Text)
  | comment
  /-- After one quotation mark or two of them, which may be all that opens a string. -/
  | opening (quote : UInt8) (two : Bool)
  /-- In a string that is closed by `marks` quotation marks, right after `seen` of them. -/
  | string (quote : UInt8) (marks seen : Nat)
  /-- After a backslash in a string. -/
  | escape (quote : UInt8) (marks : Nat)
  /-- After a zero byte, which ends a text. -/
  | outside
  deriving DecidableEq, Repr

namespace Spot

/-- Where the byte after one in a word or between words stands. -/
def afterWord (start : Text) (b : UInt8) : Spot :=
  if continuesWord start b then .word (start ++ [b])
  else if b == '#'.toUInt8 then .comment
  else if isQuote b then .opening b false
  else if b == 0 then .outside
  else .word []

/-- Where the byte after one in a string stands. -/
def afterString (quote : UInt8) (marks seen : Nat) (b : UInt8) : Spot :=
  if b == quote then
    if seen + 1 = marks then .word [] else .string quote marks (seen + 1)
  else if b == '\\'.toUInt8 then .escape quote marks
  else .string quote marks 0

def next : Spot → UInt8 → Spot
  | word start, b => afterWord start b
  | comment, b =>
    if b == '\n'.toUInt8 || b == '\r'.toUInt8 then .word []
    else if b == 0 then .outside
    else .comment
  | opening quote false, b => if b == quote then .opening quote true else afterString quote 1 0 b
  | opening quote true, b => if b == quote then .string quote 3 0 else afterWord [] b
  | string quote marks seen, b => afterString quote marks seen b
  | escape quote marks, _ => .string quote marks 0
  | outside, _ => .outside

/-- The name that is complete if the text ends here. -/
def name : Spot → List Text
  | word start => nameOfWord start
  | comment | opening _ _ | string _ _ _ | escape _ _ | outside => []

/-- The name that is complete because of the next byte. -/
def nameBefore (b : UInt8) : Spot → List Text
  | word start =>
    if continuesWord start b || (isQuote b && stringMarks.contains start) then []
    else nameOfWord start
  | comment | opening _ _ | string _ _ _ | escape _ _ | outside => []

end Spot

/-- The names that are written in a text from a spot on. -/
def identifiersFrom : Spot → Text → List Text
  | s, [] => s.name
  | s, b :: rest => s.nameBefore b ++ identifiersFrom (s.next b) rest

/-- The names that are written in a text. -/
def identifiers (t : Text) : List Text :=
  identifiersFrom (.word []) t

/-! ### The line feed at the end of a program -/

lemma continuesWord_newline (start : Text) : continuesWord start '\n'.toUInt8 = false := by
  rw [continuesWord, Bool.or_eq_false_iff]
  exact ⟨by decide, rfl⟩

namespace Spot

/-- A line feed completes every name. -/
lemma nameBefore_newline (s : Spot) : s.nameBefore '\n'.toUInt8 = s.name := by
  cases s with
  | word start =>
    rw [nameBefore, continuesWord_newline]
    rfl
  | comment | opening | string | escape | outside => rfl

lemma name_afterString (quote : UInt8) (marks seen : Nat) (b : UInt8) :
    (afterString quote marks seen b).name = [] := by
  unfold afterString
  split_ifs <;> rfl

lemma afterWord_newline (start : Text) : afterWord start '\n'.toUInt8 = .word [] := by
  rw [afterWord, continuesWord_newline]
  rfl

lemma name_next_newline (s : Spot) : (s.next '\n'.toUInt8).name = [] := by
  cases s with
  | word start =>
    rw [next, afterWord_newline]
    rfl
  | opening quote two =>
    cases two with
    | false =>
      rw [next]
      split_ifs
      · rfl
      · exact name_afterString quote 1 0 _
    | true =>
      rw [next, afterWord_newline]
      split_ifs <;> rfl
  | string quote marks seen => exact name_afterString quote marks seen _
  | comment | escape | outside => rfl

end Spot

/-- A line feed at the end of a text does not matter. -/
lemma identifiersFrom_append_newline (s : Spot) (t : Text) :
    identifiersFrom s (t ++ ['\n'.toUInt8]) = identifiersFrom s t := by
  induction t generalizing s with
  | nil =>
    rw [List.nil_append, identifiersFrom, identifiersFrom, identifiersFrom, s.nameBefore_newline,
      s.name_next_newline, List.append_nil]
  | cons b t ih => rw [List.cons_append, identifiersFrom, identifiersFrom, ih]

/-- The program of an expression has the names of the expression and the result variable. -/
lemma identifiers_programText (e : Text) :
    identifiers (programText e) = resultVariable :: identifiers e := by
  have hprogram : programText e =
      'r'.toUInt8 :: 'c'.toUInt8 :: '='.toUInt8 :: (e ++ ['\n'.toUInt8]) := by
    simp only [programText, List.append_assoc]
    rfl
  have hassign (t : Text) :
      identifiers ('r'.toUInt8 :: 'c'.toUInt8 :: '='.toUInt8 :: t) =
        resultVariable :: identifiers t := rfl
  rw [hprogram, hassign, identifiers, identifiersFrom_append_newline, identifiers]

example : identifiers "len(r'M' + \"K\") if N else int(1.e5) # L" =
    [("len" : Text), ("N" : Text), ("int" : Text)] := by
  decide +kernel

end Expression

/-! ### What an interpreter sees -/

/-- What becomes of a program depends on the given ones of the predeclared names only. -/
def Interpreter.DependsOnlyOn (I : Interpreter) (program : Text) (names : Text → Prop) : Prop :=
  ∀ predeclared predeclared' : Text → Option Int64,
    (∀ n, names n → predeclared n = predeclared' n) →
    I.run program predeclared = I.run program predeclared'

/-- The predeclared names that an interpreter sees in the program of an expression. -/
structure Interpreter.SeesMentioned (I : Interpreter) (e : Text) : Prop where
  /-- It sees those that the program mentions. -/
  mentioned : I.DependsOnlyOn (Expression.programText e)
    (· ∈ Expression.identifiers (Expression.programText e))
  /-- A variable that the program assigns to hides a predeclared name. The result variable is
  assigned to, unless a second equals sign makes a comparison of the assignment. -/
  assigned : e.head? ≠ some '='.toUInt8 →
    I.DependsOnlyOn (Expression.programText e) (· ≠ Expression.resultVariable)

namespace Expression

variable {I : Interpreter} {e : Text} {equate? equate'? : Text → Option Int64}

/-- The program of an expression depends on the names of the expression, and on the result variable
if the expression starts with an equals sign. -/
lemma run_congr (hI : I.SeesMentioned e) (h : ∀ n ∈ identifiers e, equate? n = equate'? n)
    (hresult : e.head? = some '='.toUInt8 → equate? resultVariable = equate'? resultVariable) :
    I.run (programText e) equate? = I.run (programText e) equate'? := by
  by_cases hhead : e.head? = some '='.toUInt8
  · refine hI.mentioned _ _ ?_
    rw [identifiers_programText]
    exact List.forall_mem_cons.mpr ⟨hresult hhead, h⟩
  · -- one name after the other: first the result variable, and then all that are mentioned
    let between : Text → Option Int64 := fun n =>
      if n = resultVariable then equate'? n else equate? n
    have hhidden : I.run (programText e) equate? = I.run (programText e) between :=
      hI.assigned hhead _ _ fun n hn => (if_neg hn).symm
    have hmentioned : I.run (programText e) between = I.run (programText e) equate'? := by
      refine hI.mentioned _ _ ?_
      rw [identifiers_programText]
      refine List.forall_mem_cons.mpr ⟨if_pos rfl, fun n hn => ?_⟩
      simp only [between]
      split_ifs
      · rfl
      · exact h n hn
    exact hhidden.trans hmentioned

lemma evaluate_congr (hI : I.SeesMentioned e) (h : ∀ n ∈ identifiers e, equate? n = equate'? n)
    (hresult : e.head? = some '='.toUInt8 → equate? resultVariable = equate'? resultVariable) :
    evaluate I equate? e = evaluate I equate'? e := by
  rw [evaluate, evaluate, run_congr hI h hresult]

end Expression

end CoreWar
