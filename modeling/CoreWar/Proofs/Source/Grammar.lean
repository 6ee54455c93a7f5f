import Mathlib.Data.List.TakeWhile
import Mathlib.Data.Nat.Digits.Defs
import CoreWar.Proofs.Source.Line

/-!
# The grammar of a line

A line of a source is an instruction if it opens with a mnemonic, and what follows are one or two
operands:

    ws sigil? ws sign? digits ws (',' ws sigil? ws sign? digits)? ws

The grammar says which texts are operands and what they stand for, without saying how they are
found. The reader finds exactly these: `operands?_eq_some_iff` and `word?_eq_some_iff`.
-/

namespace CoreWar

namespace Text

lemma mem_head?_dropWhile {p : UInt8 → Bool} {t : Text} {b : UInt8}
    (hb : b ∈ (t.dropWhile p).head?) : p b = false := by
  have h := List.head?_dropWhile_not p t
  rw [Option.mem_def.mp hb] at h
  exact h

end Text

namespace Line

/-! ### Words of the grammar -/

/-- White space, possibly none. -/
def Blanks (t : Text) : Prop :=
  ∀ b ∈ t, Text.isBlank b = true

/-- Decimal digits, at least one of them. -/
def Digits (t : Text) : Prop :=
  t ≠ [] ∧ ∀ b ∈ t, Text.isDigit b = true

/-- The number that decimal digits stand for, by the weight of each place. -/
def decimal (digits : Text) : Nat :=
  Nat.ofDigits 10 (digits.reverse.map Text.digitValue)

/-- A sigil, which may be left out, and the way of addressing that it stands for. -/
inductive Sigil : Text → Addressing → Prop where
  | absent : Sigil [] .relative
  | immediate : Sigil ['#'.toUInt8] .immediate
  | relative : Sigil ['$'.toUInt8] .relative
  | indirect : Sigil ['@'.toUInt8] .indirect

/-- A sign, which may be left out, as the factor that it stands for. -/
inductive Sign : Text → Int → Prop where
  | absent : Sign [] 1
  | plus : Sign ['+'.toUInt8] 1
  | minus : Sign ['-'.toUInt8] (-1)

/-- An operand, and what is written with it. -/
inductive OperandText : Text → Written → Prop where
  | mk {before sigil between sign digits : Text} {α : Addressing} {factor : Int}
      (hbefore : Blanks before) (hsigil : Sigil sigil α) (hbetween : Blanks between)
      (hsign : Sign sign factor) (hdigits : Digits digits) :
      OperandText (before ++ (sigil ++ (between ++ (sign ++ digits))))
        ⟨α, factor * decimal digits⟩

/-- One or two operands, and what is written with them. -/
inductive OperandsText : Text → Written → Option Written → Prop where
  | one {t after : Text} {a : Written} (ha : OperandText t a) (hafter : Blanks after) :
      OperandsText (t ++ after) a none
  | two {t between u after : Text} {a b : Written} (ha : OperandText t a)
      (hbetween : Blanks between) (hb : OperandText u b) (hafter : Blanks after) :
      OperandsText (t ++ (between ++ ','.toUInt8 :: (u ++ after))) a (some b)

/-- A line that opens, after white space, with the word of an operation in any case. No letter
follows the word. -/
structure Opens (line : Text) (op : Operation) (word rest : Text) : Prop where
  split : ∃ before, Blanks before ∧ line = before ++ (word ++ rest)
  letters : ∀ b ∈ word, Text.isLetter b = true
  maximal : ∀ b ∈ rest.head?, Text.isLetter b = false
  mnemonic : word.map Text.upperByte = op.mnemonic

/-! ### White space -/

lemma skipBlanks_append {before : Text} (hbefore : Blanks before) (t : Text) :
    Text.skipBlanks (before ++ t) = t.skipBlanks :=
  List.dropWhile_append_of_pos hbefore

lemma exists_skipBlanks (t : Text) : ∃ before, Blanks before ∧ t = before ++ t.skipBlanks :=
  ⟨t.takeWhile Text.isBlank, fun _ hb => List.mem_takeWhile_imp hb,
    List.takeWhile_append_dropWhile.symm⟩

/-- White space is all that a text has exactly if nothing is left of it. -/
lemma blanks_iff {t : Text} : Blanks t ↔ t.skipBlanks = [] := by
  rw [Blanks, Text.skipBlanks, List.dropWhile_eq_nil_iff]

/-! ### Numbers -/

lemma toNat_eq_decimal (digits : Text) : Text.toNat digits = decimal digits := by
  rw [Text.toNat, decimal, Nat.ofDigits_eq_foldr, List.foldr_map, List.foldl_eq_foldr_reverse]
  simp only [Nat.add_comm, Nat.cast_id]

def isNumberByte (b : UInt8) : Bool :=
  b == '+'.toUInt8 || b == '-'.toUInt8 || Text.isDigit b

lemma exists_head?_of_number {sign digits : Text} {factor : Int} (hsign : Sign sign factor)
    (hdigits : Digits digits) (rest : Text) :
    ∃ b t, sign ++ (digits ++ rest) = b :: t ∧ isNumberByte b = true := by
  obtain ⟨hne, hall⟩ := hdigits
  cases hsign with
  | absent =>
    obtain ⟨d, digits, rfl⟩ := List.exists_cons_of_ne_nil hne
    exact ⟨d, digits ++ rest, rfl, by simp [isNumberByte, hall d List.mem_cons_self]⟩
  | plus => exact ⟨_, _, rfl, rfl⟩
  | minus => exact ⟨_, _, rfl, rfl⟩

lemma exists_sign (t : Text) :
    ∃ sign, Sign sign (if (Numeral.sign t).1 then -1 else 1) ∧ t = sign ++ (Numeral.sign t).2 := by
  cases t with
  | nil => exact ⟨[], .absent, rfl⟩
  | cons b t =>
    by_cases hminus : b = '-'.toUInt8
    · subst hminus
      exact ⟨_, .minus, rfl⟩
    · by_cases hplus : b = '+'.toUInt8
      · subst hplus
        exact ⟨_, .plus, rfl⟩
      · rw [Numeral.sign, if_neg hminus, if_neg hplus]
        exact ⟨[], .absent, rfl⟩

lemma sign_append {sign t : Text} {factor : Int} (hsign : Sign sign factor)
    (ht : ∀ b ∈ t.head?, Text.isDigit b = true) :
    Numeral.sign (sign ++ t) = (decide (factor = -1), t) := by
  cases hsign with
  | absent => exact sign_of_isDigit ht
  | plus => rfl
  | minus => rfl

/-- A number of the grammar is read as far as its digits go. -/
lemma number?_append {sign digits rest : Text} {factor : Int} (hsign : Sign sign factor)
    (hdigits : Digits digits) (hrest : ∀ b ∈ rest.head?, Text.isDigit b = false) :
    number? (sign ++ (digits ++ rest)) = some (factor * decimal digits, rest) := by
  obtain ⟨hne, hall⟩ := hdigits
  obtain ⟨htake, hdrop⟩ := Text.span_append hall hrest
  have hhead : ∀ b ∈ (digits ++ rest).head?, Text.isDigit b = true :=
    fun b hb => hall b (Text.mem_of_mem_head?_append hne hb)
  have hempty : digits.isEmpty = false := by simp [hne]
  simp only [number?, sign_append hsign hhead, htake, hdrop, hempty, toNat_eq_decimal]
  cases hsign <;> simp

/-- What is read as a number is one of the grammar. -/
lemma exists_of_number? {t rest : Text} {i : Int} (h : number? t = some (i, rest)) :
    ∃ sign digits factor, Sign sign factor ∧ Digits digits ∧ t = sign ++ (digits ++ rest) ∧
      i = factor * decimal digits ∧ ∀ b ∈ rest.head?, Text.isDigit b = false := by
  obtain ⟨sign, hsign, ht⟩ := exists_sign t
  simp only [number?] at h
  generalize Numeral.sign t = parts at h hsign ht
  obtain ⟨minus, u⟩ := parts
  split at h
  · cases h
  · rename_i hempty
    cases h
    have hdigits : Digits (u.takeWhile Text.isDigit) :=
      ⟨by simpa using hempty, fun b hb => List.mem_takeWhile_imp hb⟩
    refine ⟨sign, _, _, hsign, hdigits, ?_, ?_, fun b hb => Text.mem_head?_dropWhile hb⟩
    · rw [List.takeWhile_append_dropWhile]
      exact ht
    · rw [toNat_eq_decimal]
      cases minus with
      | true => exact (neg_one_mul _).symm
      | false => exact (one_mul _).symm

/-! ### Sigils -/

/-- A byte with a way of addressing is the sigil of that way. -/
lemma sigil_of_ofSigil? {b : UInt8} {α : Addressing} (h : Addressing.ofSigil? [b] = some α) :
    Sigil [b] α := by
  have hb : α.sigil = [b] := by
    rw [Addressing.ofSigil?, if_neg (List.cons_ne_nil b [])] at h
    simpa using List.find?_some h
  rw [← hb]
  cases α with
  | immediate => exact .immediate
  | relative => exact .relative
  | indirect => exact .indirect

/-- What is taken for a sigil is one, or there is none. -/
lemma exists_sigil (t : Text) : ∃ s, Sigil s (sigil t).1 ∧ t = s ++ (sigil t).2 := by
  cases t with
  | nil => exact ⟨[], .absent, rfl⟩
  | cons b t =>
    cases hb : Addressing.ofSigil? [b] with
    | none =>
      simp only [sigil, hb]
      exact ⟨[], .absent, rfl⟩
    | some α =>
      simp only [sigil, hb]
      exact ⟨[b], sigil_of_ofSigil? hb, rfl⟩

/-- What a number starts with is no sigil. -/
lemma sigil_of_isNumberByte {b : UInt8} (hb : isNumberByte b = true) (t : Text) :
    sigil (b :: t) = (.relative, b :: t) := by
  have hnone : Addressing.ofSigil? [b] = none := by
    cases h : Addressing.ofSigil? [b] with
    | none => rfl
    | some α => cases sigil_of_ofSigil? h <;> exact absurd hb (by decide)
  simp only [sigil, hnone]

lemma not_isBlank_of_isNumberByte {b : UInt8} (hb : isNumberByte b = true) :
    Text.isBlank b = false := by
  simp only [isNumberByte, Bool.or_eq_true, beq_iff_eq] at hb
  rcases hb with (rfl | rfl) | hdigit
  · decide
  · decide
  · exact Text.not_isBlank_of_isDigit hdigit

/-! ### Operands -/

/-- The sigil of an operand and the white space around it, in front of a number. -/
lemma skipBlanks_sigil {before s between t : Text} {α : Addressing} {b : UInt8}
    (hbefore : Blanks before) (hs : Sigil s α) (hbetween : Blanks between)
    (hb : isNumberByte b = true) :
    (sigil (Text.skipBlanks (before ++ (s ++ (between ++ b :: t))))).1 = α ∧
      Text.skipBlanks (sigil (Text.skipBlanks (before ++ (s ++ (between ++ b :: t))))).2 =
        b :: t := by
  have hnumber : Text.skipBlanks (b :: t) = b :: t := by
    refine Text.skipBlanks_of_head ?_
    rintro d ⟨⟩
    exact not_isBlank_of_isNumberByte hb
  rw [skipBlanks_append hbefore]
  cases hs with
  | absent =>
    rw [List.nil_append, skipBlanks_append hbetween, hnumber, sigil_of_isNumberByte hb]
    exact ⟨rfl, hnumber⟩
  | immediate | relative | indirect =>
    exact ⟨rfl, (skipBlanks_append hbetween _).trans hnumber⟩

/-- An operand of the grammar is read as far as its digits go. -/
lemma operand?_append {t rest : Text} {w : Written} (ht : OperandText t w)
    (hrest : ∀ b ∈ rest.head?, Text.isDigit b = false) :
    operand? (t ++ rest) = some (w, rest) := by
  obtain ⟨hbefore, hsigil, hbetween, hsign, hdigits⟩ := ht
  obtain ⟨b, u, hu, hb⟩ := exists_head?_of_number hsign hdigits rest
  have hnumber := number?_append hsign hdigits hrest
  simp only [List.append_assoc]
  rw [hu] at hnumber ⊢
  obtain ⟨hα, hskip⟩ := skipBlanks_sigil (t := u) hbefore hsigil hbetween hb
  simp only [operand?, hα, hskip, hnumber, Option.map_some]

/-- What is read as an operand is one of the grammar. -/
lemma exists_of_operand? {t rest : Text} {w : Written} (h : operand? t = some (w, rest)) :
    ∃ u, OperandText u w ∧ t = u ++ rest ∧ ∀ b ∈ rest.head?, Text.isDigit b = false := by
  obtain ⟨before, hbefore, hskip⟩ := exists_skipBlanks t
  obtain ⟨s, hs, hsplit⟩ := exists_sigil t.skipBlanks
  obtain ⟨between, hbetween, hskip'⟩ := exists_skipBlanks (sigil t.skipBlanks).2
  simp only [operand?] at h
  obtain ⟨⟨i, rest⟩, hnumber, heq⟩ := Option.map_eq_some_iff.mp h
  cases heq
  obtain ⟨sign, digits, factor, hsign, hdigits, ht, rfl, hrest⟩ := exists_of_number? hnumber
  refine ⟨_, .mk hbefore hs hbetween hsign hdigits, ?_, hrest⟩
  calc t
    _ = before ++ t.skipBlanks := hskip
    _ = before ++ (s ++ (sigil t.skipBlanks).2) := by rw [← hsplit]
    _ = before ++ (s ++ (between ++ (sign ++ (digits ++ rest)))) := by rw [← ht, ← hskip']
    _ = before ++ (s ++ (between ++ (sign ++ digits))) ++ rest := by
      simp only [List.append_assoc]

lemma not_isDigit_of_isBlank {b : UInt8} (h : Text.isBlank b = true) : Text.isDigit b = false := by
  rw [Bool.eq_false_iff]
  intro hdigit
  rw [Text.not_isBlank_of_isDigit hdigit] at h
  cases h

/-- White space in front of something that is no digit does not go on with a number. -/
lemma not_isDigit_of_mem_head? {between t : Text} (hbetween : Blanks between)
    (ht : ∀ b ∈ t.head?, Text.isDigit b = false) :
    ∀ b ∈ (between ++ t).head?, Text.isDigit b = false := by
  cases between with
  | nil => exact ht
  | cons c between =>
    rintro b ⟨⟩
    exact not_isDigit_of_isBlank (hbetween c List.mem_cons_self)

/-- Operands of the grammar are read. -/
lemma operands?_of_operandsText {t : Text} {a : Written} {b : Option Written}
    (h : OperandsText t a b) : operands? t = some (a, b) := by
  cases h with
  | @one t after a ha hafter =>
    have hrest := not_isDigit_of_mem_head? hafter (t := []) (by simp)
    rw [List.append_nil] at hrest
    rw [operands?, operand?_append ha hrest]
    simp only [Option.bind_eq_bind, Option.bind_some, blanks_iff.mp hafter]
  | @two t between u after a b ha hbetween hb hafter =>
    have hcomma : Text.skipBlanks (','.toUInt8 :: (u ++ after)) = ','.toUInt8 :: (u ++ after) :=
      Text.skipBlanks_of_head (by rintro d ⟨⟩; decide)
    have hrest := not_isDigit_of_mem_head? hafter (t := []) (by simp)
    rw [List.append_nil] at hrest
    rw [operands?, operand?_append ha (not_isDigit_of_mem_head? hbetween (by rintro d ⟨⟩; decide))]
    simp only [Option.bind_eq_bind, Option.bind_some, skipBlanks_append hbetween, hcomma,
      operand?_append hb hrest, blanks_iff.mp hafter, if_true, List.isEmpty_nil]

/-- What is read as operands is one of the grammar. -/
lemma operandsText_of_operands? {t : Text} {a : Written} {b : Option Written}
    (h : operands? t = some (a, b)) : OperandsText t a b := by
  obtain ⟨⟨first, rest⟩, hfirst, hread⟩ := Option.bind_eq_some_iff.mp h
  obtain ⟨u, hu, rfl, -⟩ := exists_of_operand? hfirst
  obtain ⟨between, hbetween, hrest⟩ := exists_skipBlanks rest
  dsimp only at hread
  cases hskip : rest.skipBlanks with
  | nil =>
    rw [hskip] at hread
    cases hread
    exact .one hu (blanks_iff.mpr hskip)
  | cons c rest' =>
    simp only [hskip] at hread
    split_ifs at hread with hcomma
    obtain ⟨⟨second, rest''⟩, hsecond, hend⟩ := Option.bind_eq_some_iff.mp hread
    obtain ⟨v, hv, rfl, -⟩ := exists_of_operand? hsecond
    dsimp only at hend
    split_ifs at hend with hblanks
    cases hend
    rw [hrest, hskip, hcomma]
    exact .two hu hbetween hv (blanks_iff.mpr (by simpa using hblanks))

/-- The reader takes exactly the operands of the grammar. -/
lemma operands?_eq_some_iff {t : Text} {a : Written} {b : Option Written} :
    operands? t = some (a, b) ↔ OperandsText t a b :=
  ⟨operandsText_of_operands?, operands?_of_operandsText⟩

/-! ### Mnemonics -/

lemma not_isBlank_of_isLetter {b : UInt8} (h : Text.isLetter b = true) :
    Text.isBlank b = false := by
  rw [Bool.eq_false_iff]
  intro hblank
  simp only [Text.isBlank, Bool.or_eq_true, beq_iff_eq] at hblank
  rcases hblank with (((rfl | rfl) | rfl) | rfl) | rfl <;> exact absurd h (by decide)

/-- The word of a line is the run of letters after its white space. -/
lemma word?_eq_some_iff {line word rest : Text} :
    word? line = some (word, rest) ↔
      (∃ before, Blanks before ∧ line = before ++ (word ++ rest)) ∧ word ≠ [] ∧
        (∀ b ∈ word, Text.isLetter b = true) ∧ ∀ b ∈ rest.head?, Text.isLetter b = false := by
  constructor
  · intro h
    obtain ⟨before, hbefore, hline⟩ := exists_skipBlanks line
    simp only [word?] at h
    split_ifs at h with hempty
    cases h
    refine ⟨⟨before, hbefore, ?_⟩, by simpa using hempty,
      fun b hb => List.mem_takeWhile_imp hb, fun b hb => Text.mem_head?_dropWhile hb⟩
    rw [List.takeWhile_append_dropWhile]
    exact hline
  · rintro ⟨⟨before, hbefore, rfl⟩, hne, hletters, hrest⟩
    obtain ⟨htake, hdrop⟩ := Text.span_append hletters hrest
    have hskip : Text.skipBlanks (before ++ (word ++ rest)) = word ++ rest := by
      rw [skipBlanks_append hbefore]
      refine Text.skipBlanks_of_head fun b hb => ?_
      exact not_isBlank_of_isLetter (hletters b (Text.mem_of_mem_head?_append hne hb))
    have hempty : word.isEmpty = false := by simp [hne]
    simp only [word?, hskip, htake, hdrop, hempty, Bool.false_eq_true, if_false]

/-- On letters the capitals are those of each byte. -/
lemma upper_of_isLetter {word : Text} (h : ∀ b ∈ word, Text.isLetter b = true) :
    word.upper = word.map Text.upperByte := by
  fun_induction Text.upper word with
  | case1 => rfl
  | case2 rest => exact absurd (h 0xC5 List.mem_cons_self) (by decide)
  | case3 rest => exact absurd (h 0xC4 List.mem_cons_self) (by decide)
  | case4 b rest _ _ ih =>
    rw [List.map_cons, ih fun c hc => h c (List.mem_cons_of_mem b hc)]

lemma ofMnemonic?_eq_some_iff {word : Text} (h : ∀ b ∈ word, Text.isLetter b = true)
    {op : Operation} :
    Operation.ofMnemonic? word = some op ↔ word.map Text.upperByte = op.mnemonic := by
  rw [Operation.ofMnemonic?, upper_of_isLetter h]
  constructor
  · intro hfind
    have hmnemonic := List.find?_some hfind
    exact (beq_iff_eq.mp hmnemonic).symm
  · intro hmnemonic
    rw [hmnemonic]
    cases op <;> rfl

/-- A line opens with the word of an operation exactly if the reader finds the word and knows it. -/
lemma opens_iff {line word rest : Text} {op : Operation} :
    Opens line op word rest ↔
      word? line = some (word, rest) ∧ Operation.ofMnemonic? word = some op := by
  constructor
  · rintro ⟨hsplit, hletters, hmaximal, hmnemonic⟩
    refine ⟨word?_eq_some_iff.mpr ⟨hsplit, ?_, hletters, hmaximal⟩,
      (ofMnemonic?_eq_some_iff hletters).mpr hmnemonic⟩
    rintro rfl
    cases op <;> cases hmnemonic
  · rintro ⟨hword, hop⟩
    obtain ⟨hsplit, -, hletters, hmaximal⟩ := word?_eq_some_iff.mp hword
    exact ⟨hsplit, hletters, hmaximal, (ofMnemonic?_eq_some_iff hletters).mp hop⟩

end Line

end CoreWar
