import Mathlib.Data.List.Nodup
import CoreWar.Assembler.Equates

/-!
# Tables of equates

Setting the text of a name in a table changes this text and no other one. A table is sorted by name,
so that no name has two texts, and to set all the entries of one table in another is to prefer the
texts of the first.
-/

namespace CoreWar

namespace Equates

lemma lookup_cons (k v name : Text) (l : List (Text × Text)) :
    ((k, v) :: l).lookup name = if name = k then some v else l.lookup name := by
  by_cases h : name = k
  · simp [h]
  · simp [List.lookup_cons, beq_false_of_ne h, h]

/-! ### One entry -/

lemma lookup_insertEntry (k v name : Text) (l : List (Text × Text)) :
    (insertEntry k v l).lookup name = if name = k then some v else l.lookup name := by
  fun_induction insertEntry k v l with
  | case1 => exact lookup_cons k v name []
  | case2 entry rest h =>
    obtain ⟨k', v'⟩ := entry
    subst h
    rw [lookup_cons, lookup_cons]
    split <;> rfl
  | case3 entry rest h hlt => exact lookup_cons k v name (entry :: rest)
  | case4 entry rest h hlt ih =>
    obtain ⟨k', v'⟩ := entry
    rw [lookup_cons, ih, lookup_cons]
    by_cases hk : name = k
    · subst hk
      rw [if_neg h, if_pos rfl, if_pos rfl]
    · rw [if_neg hk, if_neg hk]

lemma text?_insert (e : Equates) (k v name : Text) :
    (e.insert k v).text? name = if name = k then some v else e.text? name :=
  lookup_insertEntry k v name e.entries

lemma insertEntry_insertEntry (k v w : Text) (l : List (Text × Text)) :
    insertEntry k w (insertEntry k v l) = insertEntry k w l := by
  fun_induction insertEntry k v l with
  | case1 => simp [insertEntry]
  | case2 entry rest h => simp [insertEntry, h]
  | case3 entry rest h hlt => simp [insertEntry, h, hlt]
  | case4 entry rest h hlt ih => simp [insertEntry, h, hlt, ih]

/-- Of two texts that are set for one name, the second is left. -/
lemma insert_insert (e : Equates) (k v w : Text) : (e.insert k v).insert k w = e.insert k w :=
  congrArg Equates.mk (insertEntry_insertEntry k v w e.entries)

/-! ### Sorted tables -/

def Sorted (e : Equates) : Prop :=
  e.entries.Pairwise fun x y => x.1 < y.1

lemma sorted_empty : empty.Sorted :=
  List.Pairwise.nil

lemma mem_insertEntry {k v : Text} {l : List (Text × Text)} {x : Text × Text}
    (h : x ∈ insertEntry k v l) : x = (k, v) ∨ x ∈ l := by
  fun_induction insertEntry k v l with
  | case1 => exact .inl (List.mem_singleton.mp h)
  | case2 entry rest _ => exact (List.mem_cons.mp h).imp_right (List.mem_cons_of_mem entry)
  | case3 entry rest _ _ => exact List.mem_cons.mp h
  | case4 entry rest _ _ ih =>
    rcases List.mem_cons.mp h with rfl | h
    · exact .inr List.mem_cons_self
    · exact (ih h).imp_right (List.mem_cons_of_mem entry)

lemma pairwise_insertEntry (k v : Text) {l : List (Text × Text)}
    (h : l.Pairwise fun x y => x.1 < y.1) :
    (insertEntry k v l).Pairwise fun x y => x.1 < y.1 := by
  fun_induction insertEntry k v l with
  | case1 => exact List.pairwise_singleton _ _
  | case2 entry rest hk =>
    subst hk
    exact List.pairwise_cons.mpr (List.pairwise_cons.mp h)
  | case3 entry rest _ hlt =>
    refine List.pairwise_cons.mpr ⟨fun x hx => ?_, h⟩
    rcases List.mem_cons.mp hx with rfl | hx
    · exact hlt
    · exact List.lt_trans hlt ((List.pairwise_cons.mp h).1 x hx)
  | case4 entry rest hne hlt ih =>
    obtain ⟨hhead, hrest⟩ := List.pairwise_cons.mp h
    refine List.pairwise_cons.mpr ⟨fun x hx => ?_, ih hrest⟩
    rcases mem_insertEntry hx with rfl | hx
    · exact Std.lt_of_le_of_ne hlt (Ne.symm hne)
    · exact hhead x hx

lemma Sorted.insert {e : Equates} (h : e.Sorted) (k v : Text) : (e.insert k v).Sorted :=
  pairwise_insertEntry k v h

lemma Sorted.insertAll {e : Equates} (h : e.Sorted) (more : List (Text × Text)) :
    (e.insertAll more).Sorted := by
  induction more generalizing e with
  | nil => exact h
  | cons entry more ih => exact ih (h.insert entry.1 entry.2)

/-- No name has two texts in a sorted table. -/
lemma Sorted.nodup {e : Equates} (h : e.Sorted) : (e.entries.map Prod.fst).Nodup :=
  List.pairwise_map.mpr (h.imp fun hlt => Std.ne_of_lt hlt)

/-! ### Several entries -/

lemma lookup_eq_none {l : List (Text × Text)} {name : Text} (h : name ∉ l.map Prod.fst) :
    l.lookup name = none := by
  refine List.lookup_eq_none_iff.mpr fun entry hentry => bne_iff_ne.mpr ?_
  rintro rfl
  exact h (List.mem_map_of_mem hentry)

/-- Where no name has two texts, an entry is one that is looked up. -/
lemma mem_iff_lookup {l : List (Text × Text)} (h : (l.map Prod.fst).Nodup) {name text : Text} :
    (name, text) ∈ l ↔ l.lookup name = some text := by
  induction l with
  | nil => simp
  | cons entry l ih =>
    obtain ⟨k, v⟩ := entry
    obtain ⟨hk, hl⟩ := List.nodup_cons.mp h
    rw [lookup_cons, List.mem_cons, ih hl]
    by_cases hname : name = k
    · subst hname
      simp [lookup_eq_none hk, eq_comm]
    · simp [hname]

/-- The text of a name after several have been set, each name once. -/
lemma text?_insertAll (e : Equates) {more : List (Text × Text)} (h : (more.map Prod.fst).Nodup)
    (name : Text) : (e.insertAll more).text? name = (more.lookup name).or (e.text? name) := by
  induction more generalizing e with
  | nil => rfl
  | cons entry more ih =>
    obtain ⟨k, v⟩ := entry
    obtain ⟨hk, hmore⟩ := List.nodup_cons.mp h
    have hrest : ((e.insert k v).insertAll more).text? name =
        (more.lookup name).or ((e.insert k v).text? name) := ih (e.insert k v) hmore
    rw [lookup_cons, show e.insertAll ((k, v) :: more) = (e.insert k v).insertAll more from rfl,
      hrest, text?_insert]
    by_cases hname : name = k
    · subst hname
      simp [lookup_eq_none hk]
    · simp [hname]

end Equates

end CoreWar
