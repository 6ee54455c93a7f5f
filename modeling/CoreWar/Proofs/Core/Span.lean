import Mathlib.Data.Nat.ModEq
import CoreWar.Proofs.Core.Address

/-!
# Spans of the core

Counting on from an address leads round the ring: two distances of less than a round lead to
different addresses, and every address is reached from every other one. The addresses that follow
each other from a place on are a span. A list of cells that is no longer than the core fills a span
cell by cell and leaves the rest of the core alone.
-/

namespace CoreWar

variable {size : CoreSize}

namespace Address

/-! ### Counting on -/

@[simp] lemma val_advance (x : Address size) (n : Nat) :
    (x.advance n).val = (x.val + n) % size.count := rfl

lemma ofInt_eq_ofInt_iff {i j : Int} :
    (ofInt i : Address size) = ofInt j ↔ i % size.count = j % size.count := by
  rw [Fin.ext_iff, ← Int.ofNat_inj, val_ofInt, val_ofInt]

lemma advance_eq_ofInt (x : Address size) (n : Nat) : x.advance n = ofInt (x.val + n) := by
  rw [Fin.ext_iff, ← Int.ofNat_inj, val_ofInt, val_advance]
  simp

@[simp] lemma advance_zero (x : Address size) : x.advance 0 = x := by
  rw [advance_eq_ofInt, Int.natCast_zero, Int.add_zero, ofInt_val]

@[simp] lemma advance_advance (x : Address size) (m n : Nat) :
    (x.advance m).advance n = x.advance (m + n) := by
  apply Fin.ext
  simp only [val_advance, Nat.mod_add_mod, Nat.add_assoc]

/-- Distances of less than a round lead to different addresses. -/
lemma advance_inj (x : Address size) {i j : Nat} (hi : i < size.count) (hj : j < size.count) :
    x.advance i = x.advance j ↔ i = j := by
  constructor
  · intro h
    have hmod : x.val + i ≡ x.val + j [MOD size.count] := Fin.ext_iff.mp h
    exact (Nat.ModEq.add_left_cancel' x.val hmod).eq_of_lt_of_lt hi hj
  · rintro rfl
    rfl

/-- Every address is reached from every other one in less than a round. -/
lemma exists_advance_eq (x y : Address size) : ∃ k < size.count, x.advance k = y := by
  have hpos := size.pos
  refine ⟨(ofInt (y.val - x.val) : Address size).val, Fin.isLt _, ?_⟩
  rw [advance_eq_ofInt, val_ofInt]
  nth_rewrite 2 [← ofInt_val y]
  rw [ofInt_eq_ofInt_iff, Int.add_emod_emod]
  congr 1
  omega

/-! ### Spans -/

/-- The addresses from a place on, one after the other. -/
def span (x : Address size) (n : Nat) : List (Address size) :=
  (List.range n).map x.advance

lemma mem_span {x y : Address size} {n : Nat} : y ∈ x.span n ↔ ∃ k < n, x.advance k = y := by
  simp [span]

lemma span_succ (x : Address size) (n : Nat) : x.span (n + 1) = x :: (x.advance 1).span n := by
  simp [span, List.range_succ_eq_map, Function.comp_def, Nat.add_comm]

/-- A span that starts after another one and ends within the round does not meet it. -/
lemma notMem_span_of_mem_span {x y : Address size} {m gap n : Nat}
    (hround : m + gap + n ≤ size.count) (hy : y ∈ x.span m) :
    y ∉ (x.advance (m + gap)).span n := by
  obtain ⟨i, hi, rfl⟩ := mem_span.mp hy
  intro hmem
  obtain ⟨j, hj, heq⟩ := mem_span.mp hmem
  rw [advance_advance, advance_inj x (by omega) (by omega)] at heq
  omega

end Address

/-! ### Cells in a span -/

namespace Core

lemma get_setFrom_of_notMem (core : Core size) {x y : Address size} {cells : List Cell}
    (h : y ∉ x.span cells.length) : (core.setFrom x cells).get y = core.get y := by
  induction cells generalizing core x with
  | nil => rfl
  | cons c cells ih =>
    rw [List.length_cons, Address.span_succ, List.mem_cons, not_or] at h
    rw [setFrom, ih _ h.2, get_set_of_ne _ h.1]

/-- Cells that are no more than the core has fill a span one by one. -/
lemma get_setFrom_advance (core : Core size) (x : Address size) {cells : List Cell}
    (hfit : cells.length ≤ size.count) {k : Nat} (hk : k < cells.length) :
    (core.setFrom x cells).get (x.advance k) = cells[k] := by
  induction cells generalizing core x k with
  | nil => cases hk
  | cons c cells ih =>
    rw [List.length_cons] at hfit
    cases k with
    | zero =>
      have hlater : x ∉ (x.advance 1).span cells.length := by
        have hfirst : x ∈ x.span 1 := Address.mem_span.mpr ⟨0, by omega, Address.advance_zero x⟩
        have hround : 1 + 0 + cells.length ≤ size.count := by omega
        exact Address.notMem_span_of_mem_span hround hfirst
      rw [setFrom, Address.advance_zero, get_setFrom_of_notMem _ hlater, get_set_self]
      rfl
    | succ k =>
      have hnext : x.advance (k + 1) = (x.advance 1).advance k := by
        rw [Address.advance_advance, Nat.add_comm]
      rw [setFrom, hnext]
      exact ih _ _ (by omega) (Nat.lt_of_succ_lt_succ hk)

end Core

end CoreWar
