import CoreWar.Proofs.Source.Expansion

/-!
# Texts with expressions

A template is a text with expressions in it, given as what stands in front of the first one and then
each expression with what follows it. It is expanded slot by slot (`expand_text`): every expression
is found as it was put in, although it reaches to the last closing parenthesis in front of the next
dollar sign, and although a dollar sign may also stand for itself right in front of it.
-/

namespace CoreWar

namespace Expansion

/-! ### Expansion in parts -/

lemma pieces_append_dollar (u v : Text) :
    pieces (u ++ '$'.toUInt8 :: v) =
      pieces u ++ (v.splitOn '$'.toUInt8).flatMap afterDollar := by
  obtain ⟨first, rest, hsplit⟩ := List.exists_cons_of_ne_nil (List.splitOn_ne_nil '$'.toUInt8 u)
  rw [pieces, pieces, List.splitOn_append_cons_self, hsplit]
  simp

variable (I : Interpreter) (equate? : Text → Option Int64)

lemma expand_eq_map (t : Text) :
    expand I equate? t = ((pieces t).mapM (Piece.expand I equate?)).map List.flatten := by
  rw [expand]
  cases (pieces t).mapM (Piece.expand I equate?) <;> rfl

/-- A text can be expanded in parts that are divided in front of a dollar sign. -/
lemma expand_append {u v : Text} (hv : ∀ b ∈ v.head?, b = '$'.toUInt8) :
    expand I equate? (u ++ v) = return (← expand I equate? u) ++ (← expand I equate? v) := by
  cases v with
  | nil =>
    rw [List.append_nil]
    cases expand I equate? u with
    | error f => rfl
    | ok t => exact congrArg Except.ok (List.append_nil t).symm
  | cons b v =>
    obtain rfl := hv b rfl
    -- the part before the first dollar sign of the second text is empty
    have hsecond : pieces ('$'.toUInt8 :: v) =
        .literal [] :: (v.splitOn '$'.toUInt8).flatMap afterDollar :=
      pieces_append_dollar [] v
    rw [expand_eq_map, expand_eq_map, expand_eq_map, pieces_append_dollar, hsecond,
      List.mapM_append, List.mapM_cons]
    cases (pieces u).mapM (Piece.expand I equate?) with
    | error f => rfl
    | ok ts =>
      cases ((v.splitOn '$'.toUInt8).flatMap afterDollar).mapM (Piece.expand I equate?) with
      | error f => rfl
      | ok ts' => exact congrArg Except.ok List.flatten_append

/-! ### One expression -/

/-- An expression up to the next dollar sign is replaced by its value. -/
lemma expand_expression {e after : Text} (he : '$'.toUInt8 ∉ e) (hdollar : '$'.toUInt8 ∉ after)
    (hafter : ')'.toUInt8 ∉ after) :
    expand I equate? ('$'.toUInt8 :: '('.toUInt8 :: (e ++ ')'.toUInt8 :: after)) =
      (Piece.expand I equate? (.expression e)).map (· ++ after) := by
  have hmem : '$'.toUInt8 ∉ '('.toUInt8 :: (e ++ ')'.toUInt8 :: after) := by
    simp [he, hdollar]
    decide
  have hpieces : pieces ('$'.toUInt8 :: '('.toUInt8 :: (e ++ ')'.toUInt8 :: after)) =
      [.literal [], .expression e, .literal after] := by
    have h := pieces_append_dollar [] ('('.toUInt8 :: (e ++ ')'.toUInt8 :: after))
    rw [List.splitOn_eq_singleton hmem, List.flatMap_singleton, afterDollar,
      splitAtLastClose?_append hafter] at h
    exact h
  rw [expand_eq_map, hpieces]
  cases hvalue : Piece.expand I equate? (.expression e) with
  | error f =>
    simp only [List.mapM_cons, hvalue]
    rfl
  | ok t =>
    simp only [List.mapM_cons, hvalue]
    exact congrArg (fun u => Except.ok (t ++ u)) (List.append_nil after)

/-! ### Templates -/

/-- An expression in a text, and what follows it up to the next one. -/
structure Slot where
  expression : Text
  after : Text

namespace Slot

def text (s : Slot) : Text :=
  '$'.toUInt8 :: '('.toUInt8 :: (s.expression ++ ')'.toUInt8 :: s.after)

/-- The slot with the decimal digits of a value in place of the expression. -/
def filled (value : Text → Int64) (s : Slot) : Text :=
  Text.ofInt (value s.expression).toInt ++ s.after

/-- The slot is read as it is written: there is no dollar sign in its expression, what follows has
no further expression, and in front of the next dollar sign it does not close a parenthesis. -/
structure WellFormed (s : Slot) : Prop where
  expression : '$'.toUInt8 ∉ s.expression
  plain : ¬['$'.toUInt8, '('.toUInt8] <:+: s.after
  unclosed : ')'.toUInt8 ∉ s.after.takeWhile (· != '$'.toUInt8)

/-- The slot with the value of its expression put in. -/
def expand (s : Slot) : Except Failure Text :=
  (Piece.expand I equate? (.expression s.expression)).map (· ++ s.after)

end Slot

/-- A text with expressions in it. -/
structure Template where
  /-- What stands in front of the first expression. -/
  front : Text
  slots : List Slot

namespace Template

def text (t : Template) : Text :=
  t.front ++ t.slots.flatMap Slot.text

/-- The template with the decimal digits of values in place of its expressions. -/
def filled (value : Text → Int64) (t : Template) : Text :=
  t.front ++ t.slots.flatMap (Slot.filled value)

/-- The expressions of a template, from the left. -/
def expressions (t : Template) : List Text :=
  t.slots.map Slot.expression

/-- Every part of the template is read as it is written. -/
structure WellFormed (t : Template) : Prop where
  front : ¬['$'.toUInt8, '('.toUInt8] <:+: t.front
  slots : ∀ s ∈ t.slots, s.WellFormed

end Template

/-! ### The expansion of templates -/

lemma eq_dollar_of_mem_head?_slots {slots : List Slot} {b : UInt8}
    (hb : b ∈ (slots.flatMap Slot.text).head?) : b = '$'.toUInt8 := by
  cases slots with
  | nil => cases hb
  | cons s slots =>
    cases hb
    rfl

lemma eq_dollar_of_mem_head?_dropWhile {t : Text} {b : UInt8}
    (hb : b ∈ (t.dropWhile (· != '$'.toUInt8)).head?) : b = '$'.toUInt8 := by
  have h := List.head?_dropWhile_not (· != '$'.toUInt8) t
  rw [Option.mem_def.mp hb] at h
  simpa using h

/-- A slot is expanded by itself. -/
lemma Slot.WellFormed.expand_text {s : Slot} (hs : s.WellFormed) :
    Expansion.expand I equate? s.text = s.expand I equate? := by
  obtain ⟨e, after⟩ := s
  obtain ⟨he, hplain, hunclosed⟩ := hs
  -- up to the next dollar sign the text belongs to the expression, and from there on it is plain
  have hrest : Plain (after.dropWhile (· != '$'.toUInt8)) := by
    have hafter : Plain after := plain_iff.mpr hplain
    rw [← List.takeWhile_append_dropWhile (p := (· != '$'.toUInt8)) (l := after)] at hafter
    exact hafter.right_of_append
  have hdollar : '$'.toUInt8 ∉ after.takeWhile (· != '$'.toUInt8) :=
    fun h => absurd (List.mem_takeWhile_imp h) (by decide)
  have hsplit : Slot.text ⟨e, after⟩ =
      '$'.toUInt8 :: '('.toUInt8 ::
        (e ++ ')'.toUInt8 :: after.takeWhile (· != '$'.toUInt8)) ++
          after.dropWhile (· != '$'.toUInt8) := by
    simp [Slot.text]
  rw [hsplit, expand_append I equate? fun b hb => eq_dollar_of_mem_head?_dropWhile hb,
    expand_expression I equate? he hdollar hunclosed, expand_of_plain I equate? hrest, Slot.expand]
  cases Piece.expand I equate? (.expression e) with
  | error f => rfl
  | ok v =>
    have hjoin : (v ++ after.takeWhile (· != '$'.toUInt8)) ++
        after.dropWhile (· != '$'.toUInt8) = v ++ after := by
      rw [List.append_assoc, List.takeWhile_append_dropWhile]
    exact congrArg Except.ok hjoin

/-- Slots are expanded one after the other, up to the first failure. -/
lemma expand_slots {slots : List Slot} (hslots : ∀ s ∈ slots, s.WellFormed) :
    expand I equate? (slots.flatMap Slot.text) =
      (slots.mapM (Slot.expand I equate?)).map List.flatten := by
  induction slots with
  | nil => rfl
  | cons s slots ih =>
    have hs := (hslots s List.mem_cons_self).expand_text I equate?
    have hrest := ih fun s' hs' => hslots s' (List.mem_cons_of_mem s hs')
    rw [List.flatMap_cons, expand_append I equate? fun b hb => eq_dollar_of_mem_head?_slots hb, hs,
      hrest, List.mapM_cons]
    cases s.expand I equate? with
    | error f => rfl
    | ok v =>
      cases slots.mapM (Slot.expand I equate?) with
      | error f => rfl
      | ok vs => rfl

/-- A template is expanded slot by slot. -/
lemma Template.WellFormed.expand_text {t : Template} (ht : t.WellFormed) :
    expand I equate? t.text =
      (t.slots.mapM (Slot.expand I equate?)).map fun vs => t.front ++ vs.flatten := by
  rw [Template.text, expand_append I equate? fun b hb => eq_dollar_of_mem_head?_slots hb,
    expand_of_plain I equate? (plain_iff.mpr ht.front), expand_slots I equate? ht.slots]
  cases t.slots.mapM (Slot.expand I equate?) <;> rfl

section

variable {I equate?}

lemma Slot.expand_of_value {s : Slot} {w : Int64}
    (h : Expression.evaluate I equate? s.expression = .ok w) :
    s.expand I equate? = .ok (Text.ofInt w.toInt ++ s.after) := by
  rw [Slot.expand, Piece.expand_of_value h]
  rfl

lemma Slot.expand_of_fault {s : Slot} {f : Expression.Fault}
    (h : Expression.evaluate I equate? s.expression = .error f) :
    s.expand I equate? = .error ⟨s.expression, f⟩ := by
  simp only [Slot.expand, Piece.expand, h]
  rfl

lemma mapM_expand_of_value {slots : List Slot} {value : Text → Int64}
    (h : ∀ s ∈ slots, Expression.evaluate I equate? s.expression = .ok (value s.expression)) :
    slots.mapM (Slot.expand I equate?) = .ok (slots.map (Slot.filled value)) := by
  induction slots with
  | nil => rfl
  | cons s slots ih =>
    rw [List.mapM_cons, Slot.expand_of_value (h s List.mem_cons_self),
      ih fun s' hs' => h s' (List.mem_cons_of_mem s hs')]
    rfl

lemma mapM_expand_of_fault {earlier later : List Slot} {s : Slot} {f : Expression.Fault}
    (hearlier : ∀ s' ∈ earlier, ∃ w, Expression.evaluate I equate? s'.expression = .ok w)
    (hs : Expression.evaluate I equate? s.expression = .error f) :
    (earlier ++ s :: later).mapM (Slot.expand I equate?) = .error ⟨s.expression, f⟩ := by
  induction earlier with
  | nil =>
    rw [List.nil_append, List.mapM_cons, Slot.expand_of_fault hs]
    rfl
  | cons first earlier ih =>
    obtain ⟨w, hw⟩ := hearlier first List.mem_cons_self
    rw [List.cons_append, List.mapM_cons, Slot.expand_of_value hw,
      ih fun s' hs' => hearlier s' (List.mem_cons_of_mem first hs')]
    rfl

/-- If all expressions have a value, these stand in their places. -/
lemma Template.WellFormed.expand_of_value {t : Template} (ht : t.WellFormed)
    {value : Text → Int64}
    (h : ∀ e ∈ t.expressions, Expression.evaluate I equate? e = .ok (value e)) :
    expand I equate? t.text = .ok (t.filled value) := by
  rw [ht.expand_text, mapM_expand_of_value fun s hs => h _ (List.mem_map_of_mem hs),
    Template.filled, List.flatMap_def]
  rfl

/-- The first expression without a value decides. -/
lemma Template.WellFormed.expand_of_fault {t : Template} (ht : t.WellFormed)
    {earlier later : List Text} {e : Text} (hsplit : t.expressions = earlier ++ e :: later)
    (hearlier : ∀ e' ∈ earlier, ∃ w, Expression.evaluate I equate? e' = .ok w)
    {f : Expression.Fault} (he : Expression.evaluate I equate? e = .error f) :
    expand I equate? t.text = .error ⟨e, f⟩ := by
  obtain ⟨before, rest, hslots, rfl, hrest⟩ := List.map_eq_append_iff.mp hsplit
  obtain ⟨s, after, rfl, rfl, -⟩ := List.map_eq_cons_iff.mp hrest
  have hbefore : ∀ s' ∈ before, ∃ w, Expression.evaluate I equate? s'.expression = .ok w :=
    fun s' hs' => hearlier _ (List.mem_map_of_mem hs')
  rw [ht.expand_text, hslots, mapM_expand_of_fault hbefore he]
  rfl

/-! ### Filled templates -/

/-- A number does not complete an expression that a dollar sign in front of it would start. -/
lemma notMem_head?_filled (value : Text → Int64) (slots : List Slot) :
    '('.toUInt8 ∉ (slots.flatMap (Slot.filled value)).head? := by
  cases slots with
  | nil => simp
  | cons s slots =>
    intro h
    rw [List.flatMap_cons, Slot.filled, List.append_assoc] at h
    exact Text.notMem_ofInt (by decide) (by decide) _
      (Text.mem_of_mem_head?_append (Text.ofInt_ne_nil _) h)

lemma Plain.append_of_head {u v : Text} (hu : Plain u) (hv : Plain v)
    (hhead : '('.toUInt8 ∉ v.head?) : Plain (u ++ v) := by
  refine List.isChain_append.mpr ⟨hu, hv, ?_⟩
  rintro b - c hc - rfl
  exact hhead hc

lemma plain_slots_filled (value : Text → Int64) {slots : List Slot}
    (hslots : ∀ s ∈ slots, s.WellFormed) : Plain (slots.flatMap (Slot.filled value)) := by
  induction slots with
  | nil => exact List.isChain_nil
  | cons s slots ih =>
    have hs : Plain (s.filled value) :=
      Plain.append (dollar_notMem (Text.all_isWordByte_ofInt _))
        (plain_iff.mpr (hslots s List.mem_cons_self).plain)
    exact hs.append_of_head (ih fun s' hs' => hslots s' (List.mem_cons_of_mem s hs'))
      (notMem_head?_filled value slots)

/-- There is no expression left in a filled template. -/
lemma Template.WellFormed.plain_filled {t : Template} (ht : t.WellFormed)
    (value : Text → Int64) : Plain (t.filled value) :=
  (plain_iff.mpr ht.front).append_of_head (plain_slots_filled value ht.slots)
    (notMem_head?_filled value t.slots)

end

end Expansion

end CoreWar
