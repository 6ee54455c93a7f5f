import Mathlib.Algebra.Ring.Divisibility.Basic
import Mathlib.Data.Int.ModEq
import Mathlib.Data.Nat.Prime.Pow
import CoreWar.Battle.Basic
import CoreWar.Proofs.Core.Span
import CoreWar.Proofs.Machine.Step

/-!
# Pointers modulo the size of the core

A turn takes the pointer of its player modulo the number of cells before anything else, so a pointer
and its address are the same to it (`step_wrapIp`). To resolve an operand or to measure an offset,
something is first added to the pointer as it is or subtracted from it, and the sum may wrap round.
A sum that wraps round is off by `2 ^ 64`, which is no multiple of the number of cells unless that
is a power of two. So a pointer and its address lead to the same place exactly if their sums wrap
round the same way or the number of cells divides `2 ^ 64` (`wrapIp_exact`); near the ends of the
range of words they may part (`resolve_wrapIp_ne`).
-/

namespace CoreWar

/-! ### Sums that wrap round -/

/-- On which side of the range of words an integer lies. -/
def overflow (i : Int) : Int :=
  if i < -0x8000000000000000 then -1 else if 0x8000000000000000 ≤ i then 1 else 0

/-- The sums or differences of two words are at most one round off. -/
lemma bmod_eq_sub_overflow {i : Int} (hlow : -0x10000000000000000 ≤ i)
    (hhigh : i < 0x10000000000000000) :
    i.bmod 0x10000000000000000 = i - overflow i * 0x10000000000000000 := by
  unfold overflow
  simp only [Int.bmod]
  split_ifs <;> omega

/-- Two integers wrap round the same way, or it does not matter in a core of the given size. -/
def SameOverflow (size : CoreSize) (i j : Int) : Prop :=
  overflow i = overflow j ∨ size.count ∣ 0x10000000000000000

instance (size : CoreSize) (i j : Int) : Decidable (SameOverflow size i j) :=
  inferInstanceAs (Decidable (_ ∨ _))

variable {size : CoreSize}

/-- Two rounds of all words are no better than one. -/
lemma CoreSize.dvd_of_dvd_two_mul (h : size.count ∣ 2 * 0x10000000000000000) :
    size.count ∣ 0x10000000000000000 := by
  have hlt := size.lt
  -- the size is a power of two, and below `2 ^ 63`
  obtain ⟨k, -, hk⟩ := (Nat.dvd_prime_pow Nat.prime_two (m := 65)).mp h
  have hk64 : k ≤ 64 := by
    by_contra hlarge
    have hpow : 2 ^ 65 ≤ 2 ^ k := Nat.pow_le_pow_right (by decide) (by omega)
    omega
  have hdvd : 2 ^ k ∣ 2 ^ 64 := Nat.pow_dvd_pow 2 hk64
  rw [hk]
  exact hdvd

/-- Integers are at most two rounds apart in how they wrap round. -/
lemma overflow_sub_dvd_two {i j : Int} (h : overflow i ≠ overflow j) :
    overflow i - overflow j ∣ 2 := by
  have hcases : overflow i - overflow j = 1 ∨ overflow i - overflow j = -1 ∨
      overflow i - overflow j = 2 ∨ overflow i - overflow j = -2 := by
    unfold overflow at h ⊢
    split_ifs at h ⊢ <;> omega
  rcases hcases with h | h | h | h <;> rw [h] <;> decide

/-- A difference of rounds vanishes in the core only if it is none or a whole round does. -/
lemma dvd_overflow_sub_iff (i j : Int) :
    (size.count : Int) ∣ (overflow i - overflow j) * 0x10000000000000000 ↔
      SameOverflow size i j := by
  constructor
  · intro h
    by_cases heq : overflow i = overflow j
    · exact .inl heq
    · have htwo : (size.count : Int) ∣ 2 * 0x10000000000000000 :=
        h.trans (mul_dvd_mul_right (overflow_sub_dvd_two heq) _)
      exact .inr (CoreSize.dvd_of_dvd_two_mul (Int.natCast_dvd_natCast.mp htwo))
  · rintro (heq | hdvd)
    · rw [heq, sub_self, zero_mul]
      exact dvd_zero _
    · exact (Int.natCast_dvd_natCast.mpr hdvd).mul_left _

namespace Address

/-- Two integers that agree modulo the number of cells, each wrapped round to a word, lead to the
same place exactly if they wrap round the same way. -/
lemma wrap_eq_wrap_iff {w w' : Int64} {i j : Int} (hw : w.toInt = i.bmod 0x10000000000000000)
    (hw' : w'.toInt = j.bmod 0x10000000000000000) (hcongr : i % size.count = j % size.count)
    (hi : -0x10000000000000000 ≤ i ∧ i < 0x10000000000000000)
    (hj : -0x10000000000000000 ≤ j ∧ j < 0x10000000000000000) :
    (wrap w : Address size) = wrap w' ↔ SameOverflow size i j := by
  have hdvd : (size.count : Int) ∣ i - j := Int.ModEq.dvd (Eq.symm hcongr)
  have hsub : j - overflow j * 0x10000000000000000 - (i - overflow i * 0x10000000000000000) =
      (overflow i - overflow j) * 0x10000000000000000 - (i - j) := by
    omega
  rw [wrap, wrap, hw, hw', bmod_eq_sub_overflow hi.1 hi.2, bmod_eq_sub_overflow hj.1 hj.2,
    ofInt_eq_ofInt_iff, ← dvd_overflow_sub_iff, ← dvd_sub_left hdvd, ← hsub]
  exact Int.modEq_iff_dvd

/-- A pointer and its address, with the same added to both, lead to the same place exactly if the
sums wrap round the same way. -/
lemma wrap_word_wrap_add_eq_iff (w k : Int64) :
    (wrap ((wrap w : Address size).word + k) : Address size) = wrap (w + k) ↔
      SameOverflow size (w.toInt % size.count + k.toInt) (w.toInt + k.toInt) := by
  have hlt := size.lt
  have hmem := toInt_word_mem (wrap w : Address size)
  have hw := And.intro w.le_toInt w.toInt_lt
  have hk := And.intro k.le_toInt k.toInt_lt
  rw [← toInt_word_wrap]
  refine wrap_eq_wrap_iff (Int64.toInt_add _ _) (Int64.toInt_add _ _) ?_ (by omega) (by omega)
  rw [toInt_word_wrap, Int.emod_add_emod]

/-- A pointer and its address, with the same subtracted from both, lead to the same place exactly if
the differences wrap round the same way. -/
lemma wrap_word_wrap_sub_eq_iff (w k : Int64) :
    (wrap ((wrap w : Address size).word - k) : Address size) = wrap (w - k) ↔
      SameOverflow size (w.toInt % size.count - k.toInt) (w.toInt - k.toInt) := by
  have hlt := size.lt
  have hmem := toInt_word_mem (wrap w : Address size)
  have hw := And.intro w.le_toInt w.toInt_lt
  have hk := And.intro k.le_toInt k.toInt_lt
  rw [← toInt_word_wrap]
  refine wrap_eq_wrap_iff (Int64.toInt_sub _ _) (Int64.toInt_sub _ _) ?_ (by omega) (by omega)
  rw [toInt_word_wrap, Int.emod_sub_emod]

end Address

/-! ### Machines and matches -/

namespace Machine

/-- The machine with the pointer of a player reduced to its address. -/
def wrapIp (m : Machine size) (p : Player) : Machine size :=
  { m with ip := m.ip.set p (m.fetchAddress p).word }

variable (m : Machine size) (p : Player)

lemma ip_wrapIp : (m.wrapIp p).ip.get p = (Address.wrap (m.ip.get p) : Address size).word :=
  Sides.get_set_self _ _ _

lemma fetchAddress_wrapIp : (m.wrapIp p).fetchAddress p = m.fetchAddress p := by
  rw [fetchAddress, ip_wrapIp, Address.wrap_word, fetchAddress]

/-- A turn reduces the pointer itself. -/
lemma step_wrapIp : (m.wrapIp p).step p = m.step p := by
  have hfetch := m.fetchAddress_wrapIp p
  have hfetched : (m.wrapIp p).fetched p = m.fetched p := by
    rw [fetched, hfetch]
    rfl
  have hturn : turn (m.wrapIp p).core p ((m.wrapIp p).fetchAddress p) =
      turn m.core p (m.fetchAddress p) := by
    rw [hfetch]
    rfl
  rcases step_cases m p with ⟨f, h, hstep⟩ | ⟨e, h, hstep⟩
  · rw [hstep, step_of_error (hturn.trans h), hfetched, hfetch, wrapIp, Sides.set_set_self]
  · rw [hstep, step_of_ok (hturn.trans h), hfetched, wrapIp, Sides.set_set_self]

lemma wrap_ip_add_eq_iff (f : Int32) :
    (Address.wrap ((m.wrapIp p).ip.get p + f.toInt64) : Address size) =
      .wrap (m.ip.get p + f.toInt64) ↔
      SameOverflow size ((m.ip.get p).toInt % size.count + f.toInt)
        ((m.ip.get p).toInt + f.toInt) := by
  rw [ip_wrapIp, Address.wrap_word_wrap_add_eq_iff, Int32.toInt_toInt64]

/-- Nothing but the addition of the field can set the pointer apart from its address. -/
lemma resolve_wrapIp {o : Operand}
    (h : o.mode.addressing? = some .relative ∨ o.mode.addressing? = some .indirect →
      SameOverflow size ((m.ip.get p).toInt % size.count + o.field.toInt)
        ((m.ip.get p).toInt + o.field.toInt)) :
    resolve m.core ((m.wrapIp p).ip.get p) o = resolve m.core (m.ip.get p) o := by
  unfold resolve
  cases hα : o.mode.addressing? with
  | none => rfl
  | some α =>
    cases α with
    | immediate => simp only [ip_wrapIp, Address.wrap_word]
    | relative => simp only [(m.wrap_ip_add_eq_iff p o.field).mpr (h (.inl hα))]
    | indirect => simp only [(m.wrap_ip_add_eq_iff p o.field).mpr (h (.inr hα))]

lemma resolve_wrapIp_eq_iff {o : Operand} (ho : o.mode.addressing? = some .relative) :
    resolve m.core ((m.wrapIp p).ip.get p) o = resolve m.core (m.ip.get p) o ↔
      SameOverflow size ((m.ip.get p).toInt % size.count + o.field.toInt)
        ((m.ip.get p).toInt + o.field.toInt) := by
  rw [← wrap_ip_add_eq_iff]
  simp only [resolve, ho, Option.some.injEq]

end Machine

namespace Battle

/-- Where a pointer matters modulo the number of cells only. If the pointer of a player is replaced
by its address, the turn of the player stays as it is. So does an operand that adds no field to the
pointer. One that does stays as it is if the sum with the pointer and the sum with the address wrap
round the same way, or if the number of cells divides the number of words; a relative one only then.
An offset stays as it is exactly if this holds of the two differences to the origin. -/
theorem wrapIp_exact (b : Battle size) (p : Player) :
    let m := b.machine.wrapIp p
    let ip := (b.machine.ip.get p).toInt
    let origin := (b.origin.get p).toInt
    (m.ip.get p).toInt = ip % size.count ∧
    m.step p = b.machine.step p ∧
    (∀ o : Operand,
      (o.mode.addressing? = some .relative ∨ o.mode.addressing? = some .indirect →
        SameOverflow size (ip % size.count + o.field.toInt) (ip + o.field.toInt)) →
      Machine.resolve m.core (m.ip.get p) o =
        Machine.resolve b.machine.core (b.machine.ip.get p) o) ∧
    (∀ o : Operand, o.mode.addressing? = some .relative →
      (Machine.resolve m.core (m.ip.get p) o =
          Machine.resolve b.machine.core (b.machine.ip.get p) o ↔
        SameOverflow size (ip % size.count + o.field.toInt) (ip + o.field.toInt))) ∧
    (({ b with machine := m } : Battle size).offset p = b.offset p ↔
      SameOverflow size (ip % size.count - origin) (ip - origin)) := by
  intro m ip origin
  have hip := b.machine.ip_wrapIp p
  refine ⟨?ip, b.machine.step_wrapIp p, ?operands, ?relative, ?offset⟩
  case ip => rw [hip, Address.toInt_word_wrap]
  case operands =>
    intro o h
    exact b.machine.resolve_wrapIp p h
  case relative =>
    intro o ho
    exact b.machine.resolve_wrapIp_eq_iff p ho
  case offset =>
    rw [← Address.wrap_word_wrap_sub_eq_iff, ← hip]
    rfl

/-- The last word but one for a pointer, to which one can still be added, and the first of all words
for an origin, so that the differences of both the pointer and its address to it wrap round. -/
theorem wrapIp_exact_at_end :
    let b : Battle ⟨3, by decide, by decide⟩ :=
      { (blank ⟨0⟩ : Battle ⟨3, by decide, by decide⟩) with
        origin := ⟨Int64.minValue, 0⟩
        machine := ⟨.blank, ⟨Int64.maxValue - 1, 0⟩, .both .zero⟩ }
    let m := b.machine.wrapIp .a
    (SameOverflow ⟨3, by decide, by decide⟩ (0 + 1) (0x7ffffffffffffffe + 1) ∧
      Machine.resolve m.core (m.ip.get .a) ⟨.ofAddressing .indirect, 1⟩ =
        Machine.resolve b.machine.core (b.machine.ip.get .a) ⟨.ofAddressing .indirect, 1⟩) ∧
    ({ b with machine := m } : Battle ⟨3, by decide, by decide⟩).offset .a = b.offset .a := by
  intro b m
  obtain ⟨-, -, hoperands, -, hoffset⟩ := wrapIp_exact b .a
  have hsum : SameOverflow ⟨3, by decide, by decide⟩ (0 + 1) (0x7ffffffffffffffe + 1) := by decide
  exact ⟨⟨hsum, hoperands ⟨.ofAddressing .indirect, 1⟩ fun _ => by decide⟩,
    hoffset.mpr (by decide)⟩

/-- A pointer on the last of all words and its address part as soon as one is added, and so do a
pointer on the first of all words and its address as soon as one is subtracted. -/
theorem resolve_wrapIp_ne :
    let b : Battle ⟨3, by decide, by decide⟩ :=
      { (blank ⟨0⟩ : Battle ⟨3, by decide, by decide⟩) with
        origin := ⟨0, 1⟩
        machine := ⟨.blank, ⟨Int64.maxValue, Int64.minValue⟩, .both .zero⟩ }
    let m := b.machine.wrapIp .a
    let m' := b.machine.wrapIp .b
    (Machine.resolve b.machine.core (b.machine.ip.get .a) ⟨.ofAddressing .relative, 1⟩ = some 1 ∧
      Machine.resolve m.core (m.ip.get .a) ⟨.ofAddressing .relative, 1⟩ = some 2) ∧
    b.offset .b = 1 ∧
      ({ b with machine := m' } : Battle ⟨3, by decide, by decide⟩).offset .b = 0 := by
  decide

end Battle

end CoreWar
