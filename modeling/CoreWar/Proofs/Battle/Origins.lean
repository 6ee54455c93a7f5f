import Mathlib.Probability.Distributions.Uniform
import CoreWar.Proofs.Battle.Consistency
import CoreWar.Proofs.Battle.Placement

/-!
# Where warriors can be placed

A load draws the place of the first warrior and the distance to the second one. Each way to place
two warriors apart from each other on the ring is drawn by exactly one pair of draws, and nothing
else is drawn (`origins_bijOn`). So if all pairs of draws are equally likely, then so are all
placements.
-/

namespace CoreWar

variable {size : CoreSize}

/-- A word in range is an address. -/
lemma InRange.exists_word {w : Int64} (h : InRange size w) : ∃ x : Address size, w = x.word := by
  have hlt : w.toInt.toNat < size.count := by
    have := h.1
    have := h.2
    omega
  refine ⟨⟨w.toInt.toNat, hlt⟩, ?_⟩
  rw [← Int64.toInt_inj, Address.toInt_word]
  exact (Int.toNat_of_nonneg h.1).symm

namespace Address

lemma word_inj {x y : Address size} : x.word = y.word ↔ x = y := by
  rw [← Int64.toInt_inj, toInt_word, toInt_word, Int.ofNat_inj, Fin.ext_iff]

lemma toInt_word_add_emod (x : Address size) (n : Nat) :
    (x.word.toInt + n) % size.count = (x.advance n).val := by
  rw [toInt_word, advance_eq_ofInt, val_ofInt]

/-- A place that is apart from another one is reached from it over the whole span that starts
there, and by a distance that leaves room for its own span. -/
lemma exists_gap_of_disjoint {x y : Address size} {m n : Nat} (hm : 1 ≤ m) (hn : 1 ≤ n)
    (h : ∀ z ∈ x.span m, z ∉ y.span n) :
    ∃ gap, m + gap + n ≤ size.count ∧ x.advance (m + gap) = y := by
  obtain ⟨k, hk, rfl⟩ := exists_advance_eq x y
  have hafter : m ≤ k := by
    by_contra hlt
    refine h (x.advance k) (mem_span.mpr ⟨k, by omega, rfl⟩) (mem_span.mpr ⟨0, hn, ?_⟩)
    rw [advance_zero]
  have hround : k + n ≤ size.count := by
    -- otherwise the second span goes once round the ring to where the first one starts
    by_contra hlt
    refine h x (mem_span.mpr ⟨0, hm, advance_zero x⟩)
      (mem_span.mpr ⟨size.count - k, by omega, ?_⟩)
    rw [advance_advance, Nat.add_sub_cancel' hk.le]
    apply Fin.ext
    rw [val_advance, Nat.add_mod_right, Nat.mod_eq_of_lt x.isLt]
  exact ⟨k - m, by omega, by rw [Nat.add_sub_cancel' hafter]⟩

end Address

namespace Battle

/-! ### Placements -/

/-- Spans of the given lengths at two origins of the core do not meet. -/
structure Apart (size : CoreSize) (m n : Nat) (o : Sides Int64) : Prop where
  a : InRange size o.a
  b : InRange size o.b
  disjoint : ∀ i < m, ∀ j < n, (o.a.toInt + i) % size.count ≠ (o.b.toInt + j) % size.count

lemma apart_word_iff {x y : Address size} {m n : Nat} :
    Apart size m n ⟨x.word, y.word⟩ ↔ ∀ z ∈ x.span m, z ∉ y.span n := by
  have hmeet : ∀ i j : Nat, (x.word.toInt + i) % size.count = (y.word.toInt + j) % size.count ↔
      y.advance j = x.advance i := by
    intro i j
    rw [Address.toInt_word_add_emod, Address.toInt_word_add_emod, Int.ofNat_inj, ← Fin.ext_iff,
      eq_comm]
  constructor
  · intro h z hx hy
    obtain ⟨i, hi, rfl⟩ := Address.mem_span.mp hx
    obtain ⟨j, hj, heq⟩ := Address.mem_span.mp hy
    exact h.disjoint i hi j hj ((hmeet i j).mpr heq)
  · intro h
    refine ⟨inRange_word x, inRange_word y, fun i hi j hj heq => ?_⟩
    exact h (x.advance i) (Address.mem_span.mpr ⟨i, hi, rfl⟩)
      (Address.mem_span.mpr ⟨j, hj, (hmeet i j).mp heq⟩)

/-! ### Draws -/

/-- The two draws of a load: the place of the first warrior, and the distance from its end to the
second one. -/
def loadDraws (size : CoreSize) {σ : Type} (dice : Dice σ) (first second : List Cell) (s : σ) :
    Address size × Fin (gapCount size first second) :=
  let x := dice.draw size.count size.pos s
  (x.1, (dice.draw (gapCount size first second) (gapCount_pos first second) x.2).1)

/-- The origins of the two warriors that a pair of draws leads to. -/
def originsOf (b : Battle size) (first second : List Cell)
    (d : Address size × Fin (gapCount size first second)) : Sides Int64 :=
  (b.place first second d.1 d.2).origin

section

variable (b : Battle size) {first second : List Cell}

lemma originsOf_eq (d : Address size × Fin (gapCount size first second)) :
    b.originsOf first second d = ⟨d.1.word, (d.1.advance (first.length + d.2)).word⟩ := rfl

variable (hfit : first.length + second.length ≤ size.count)

include hfit

lemma add_gap_le (r : Fin (gapCount size first second)) :
    first.length + r + second.length ≤ size.count := by
  have hr := r.isLt
  unfold gapCount at hr
  omega

lemma origin_loadBy {σ : Type} (dice : Dice σ) (s : σ) :
    (loadBy dice s b first second).2 = none ∧ (loadBy dice s b first second).1.1.origin =
      b.originsOf first second (loadDraws size dice first second s) := by
  rw [loadBy, if_neg (Nat.not_lt.mpr hfit)]
  exact ⟨rfl, rfl⟩

lemma origin_load : (b.load first second).2 = none ∧ (b.load first second).1.origin =
    b.originsOf first second (loadDraws size .pcg first second b.generator) := by
  rw [load_eq_loadBy]
  exact origin_loadBy b hfit .pcg b.generator

lemma apart_originsOf (d : Address size × Fin (gapCount size first second)) :
    Apart size first.length second.length (b.originsOf first second d) := by
  rw [originsOf_eq, apart_word_iff]
  intro z hz
  exact Address.notMem_span_of_mem_span (add_gap_le hfit d.2) hz

lemma originsOf_injective (hsecond : 1 ≤ second.length) :
    Function.Injective (b.originsOf first second) := by
  rintro ⟨x, r⟩ ⟨x', r'⟩ h
  have hr := add_gap_le hfit r
  have hr' := add_gap_le hfit r'
  simp only [originsOf_eq, Sides.mk.injEq, Address.word_inj] at h
  obtain ⟨rfl, hgap⟩ := h
  rw [Address.advance_inj x (by omega) (by omega)] at hgap
  rw [Prod.mk.injEq, Fin.ext_iff]
  exact ⟨rfl, by omega⟩

lemma exists_originsOf_eq (hfirst : 1 ≤ first.length) (hsecond : 1 ≤ second.length)
    {o : Sides Int64} (ho : Apart size first.length second.length o) :
    ∃ d, b.originsOf first second d = o := by
  obtain ⟨a, c⟩ := o
  obtain ⟨x, rfl⟩ : ∃ x : Address size, a = x.word := ho.a.exists_word
  obtain ⟨y, rfl⟩ : ∃ y : Address size, c = y.word := ho.b.exists_word
  obtain ⟨gap, hround, rfl⟩ :=
    Address.exists_gap_of_disjoint hfirst hsecond (apart_word_iff.mp ho)
  have hgap : gap < gapCount size first second := by
    unfold gapCount
    omega
  exact ⟨(x, ⟨gap, hgap⟩), rfl⟩

end

/-! ### Chances -/

/-- A value that comes of a single cause is as likely as its cause. -/
lemma map_apply_of_injective {α β : Type} (law : PMF α) {f : α → β} (hf : Function.Injective f)
    (a : α) : law.map f (f a) = law a := by
  classical
  rw [PMF.map_apply, tsum_eq_single a]
  · rw [if_pos rfl]
  · intro a' ha'
    exact if_neg fun h => ha' (hf h).symm

/-- A placement is as likely as the draws that lead to it. -/
lemma map_origin_loadBy (b : Battle size) {first second : List Cell}
    (hfit : first.length + second.length ≤ size.count) (hsecond : 1 ≤ second.length) {σ : Type}
    (dice : Dice σ) (seeds : PMF σ) (d : Address size × Fin (gapCount size first second)) :
    seeds.map (fun s => (loadBy dice s b first second).1.1.origin) (b.originsOf first second d) =
      seeds.map (loadDraws size dice first second) d := by
  have hresult : (fun s => (loadBy dice s b first second).1.1.origin) =
      b.originsOf first second ∘ loadDraws size dice first second :=
    funext fun s => (origin_loadBy b hfit dice s).2
  rw [hresult, ← PMF.map_comp]
  exact map_apply_of_injective _ (originsOf_injective b hfit hsecond) d

/-- A load misses no placement and favours none. The origins of two warriors that fit are apart
whatever is drawn, and every pair of origins that are apart is that of exactly one of the
`N (N - l₀ - l₁ + 1)` pairs of draws. If these are equally likely, then so are all placements. -/
theorem origins_bijOn (b : Battle size) {first second : List Cell} (hfirst : 1 ≤ first.length)
    (hsecond : 1 ≤ second.length) (hfit : first.length + second.length ≤ size.count) :
    (gapCount size first second : Int) = size.count - first.length - second.length + 1 ∧
    -- the origins after a load are those of its two draws, whatever is drawn and by what source
    ((b.load first second).2 = none ∧ (b.load first second).1.origin =
      b.originsOf first second (loadDraws size .pcg first second b.generator)) ∧
    (∀ (σ : Type) (dice : Dice σ) (s : σ),
      (loadBy dice s b first second).2 = none ∧ (loadBy dice s b first second).1.1.origin =
        b.originsOf first second (loadDraws size dice first second s)) ∧
    -- draws and placements correspond
    Set.BijOn (b.originsOf first second) Set.univ
      {o | Apart size first.length second.length o} ∧
    -- equally likely draws make equally likely placements
    ∀ (σ : Type) (dice : Dice σ) (seeds : PMF σ) (chance : ENNReal),
      (∀ d, seeds.map (loadDraws size dice first second) d = chance) →
      ∀ o, Apart size first.length second.length o →
        seeds.map (fun s => (loadBy dice s b first second).1.1.origin) o = chance := by
  refine ⟨toInt_gapCount hfit, origin_load b hfit, ?_, ⟨?_, ?_, ?_⟩, ?_⟩
  · intro σ dice s
    exact origin_loadBy b hfit dice s
  · intro d _
    exact apart_originsOf b hfit d
  · exact (originsOf_injective b hfit hsecond).injOn
  · intro o ho
    obtain ⟨d, hd⟩ := exists_originsOf_eq b hfit hfirst hsecond ho
    exact ⟨d, trivial, hd⟩
  · intro σ dice seeds chance huniform o ho
    obtain ⟨d, rfl⟩ := exists_originsOf_eq b hfit hfirst hsecond ho
    rw [map_origin_loadBy b hfit hsecond]
    exact huniform d

/-- The first warrior at the last address and the second one right behind it, drawn from six equally
likely pairs. -/
theorem origins_bijOn_across_end :
    let size : CoreSize := ⟨3, by decide, by decide⟩
    let b : Battle size := blank ⟨0⟩
    let dice : Dice (Nat × Nat) := ⟨fun n hn s => (⟨s.1 % n, Nat.mod_lt _ hn⟩, s.swap)⟩
    let seeds : PMF (Nat × Nat) :=
      (PMF.uniformOfFintype (Fin 3 × Fin 2)).map fun d => (d.1.val, d.2.val)
    Apart size 1 1 ⟨2, 0⟩ ∧ (∃ d, b.originsOf [.empty] [.empty] d = ⟨2, 0⟩) ∧
      seeds.map (fun s => (loadBy dice s b [.empty] [.empty]).1.1.origin) ⟨2, 0⟩ = 6⁻¹ := by
  intro size b dice seeds
  have hapart : Apart size 1 1 ⟨2, 0⟩ := ⟨⟨by decide, by decide⟩, ⟨by decide, by decide⟩, by decide⟩
  have huniform : ∀ d, seeds.map (loadDraws size dice [.empty] [.empty]) d = 6⁻¹ := by
    have hdraws : loadDraws size dice [.empty] [.empty] ∘
        (fun d : Fin 3 × Fin 2 => (d.1.val, d.2.val)) = id := by
      funext ⟨x, r⟩
      exact Prod.ext (Fin.ext (Nat.mod_eq_of_lt x.isLt)) (Fin.ext (Nat.mod_eq_of_lt r.isLt))
    have hlaw : seeds.map (loadDraws size dice [.empty] [.empty]) =
        PMF.uniformOfFintype (Fin 3 × Fin 2) := by
      rw [PMF.map_comp, hdraws]
      exact PMF.map_id _
    intro (d : Fin 3 × Fin 2)
    have hchance : PMF.uniformOfFintype (Fin 3 × Fin 2) d = 6⁻¹ := by
      have hcard : Fintype.card (Fin 3 × Fin 2) = 6 := rfl
      rw [PMF.uniformOfFintype_apply, hcard, Nat.cast_ofNat]
    exact (DFunLike.congr_fun hlaw d).trans hchance
  have hone : 1 ≤ [Cell.empty].length := by decide
  have hfit : [Cell.empty].length + [Cell.empty].length ≤ size.count := by decide
  obtain ⟨-, -, -, hbij, hlikely⟩ := origins_bijOn b hone hone hfit
  obtain ⟨d, -, hd⟩ := hbij.surjOn hapart
  exact ⟨hapart, ⟨d, hd⟩, hlikely _ dice seeds _ huniform _ hapart⟩

end Battle

end CoreWar
