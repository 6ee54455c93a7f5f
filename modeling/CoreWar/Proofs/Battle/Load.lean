import CoreWar.Battle.Load
import CoreWar.Proofs.Core.Address

/-!
# Loads

A load succeeds exactly if the warriors fit, and then it places them by two draws that are in the
range they are asked for. `LoadsTo` says what may come of a load, whatever is drawn.
-/

namespace CoreWar

namespace Pcg

lemma drawBelow_lt {n : Nat} (hn : 0 < n) (fuel : Nat) (g : Pcg) : (drawBelow n fuel g).1 < n := by
  induction fuel generalizing g with
  | zero => exact hn
  | succ fuel ih =>
    rw [drawBelow]
    split_ifs
    · exact ih g.next.2
    · have hword := g.next.1.toNat_lt
      apply Nat.div_lt_of_lt_mul
      exact Nat.mul_lt_mul_of_pos_right hword hn

lemma below_lt {n : Nat} (hn : 0 < n) (g : Pcg) : (g.below n).1 < n := by
  unfold below
  split_ifs
  · exact Nat.mod_lt _ hn
  · exact drawBelow_lt hn _ g

end Pcg

namespace Battle

variable {size : CoreSize}

/-- The match may become `loaded` by a load of two warriors that fit, whatever is drawn. -/
def LoadsTo (b : Battle size) (first second : List Cell) (loaded : Battle size) : Prop :=
  first.length + second.length ≤ size.count ∧
    ∃ start gap generator, gap < gapCount size first second ∧
      loaded = { b.place first second start gap with generator := generator }

lemma exists_load_of_fits (b : Battle size) {first second : List Cell}
    (hfit : first.length + second.length ≤ size.count) :
    ∃ loaded, b.load first second = (loaded, none) := by
  unfold load
  rw [if_neg (Nat.not_lt.mpr hfit)]
  exact ⟨_, rfl⟩

/-- Warriors that do not fit leave the match as it was. -/
lemma load_of_not_fits (b : Battle size) {first second : List Cell}
    (hfit : size.count < first.length + second.length) :
    b.load first second = (b, some ⟨⟨first.length, second.length⟩, size.count⟩) := by
  unfold load
  rw [if_pos hfit]

/-- What the generator of a match draws is one of the possible draws. -/
lemma loadsTo_of_load {b loaded : Battle size} {first second : List Cell}
    (h : b.load first second = (loaded, none)) : b.LoadsTo first second loaded := by
  by_cases hfit : size.count < first.length + second.length
  · rw [load_of_not_fits b hfit] at h
    cases h
  · have hloaded : (b.load first second).1 = loaded := congrArg Prod.fst h
    rw [load, if_neg hfit] at hloaded
    exact ⟨Nat.not_lt.mp hfit, _, _, _, Pcg.below_lt (Nat.succ_pos _) _, hloaded.symm⟩

end Battle

end CoreWar
