import Mathlib.Data.List.Intervals
import CoreWar.Proofs.Core.Address
import CoreWar.Proofs.Source.Lines
import CoreWar.Proofs.Text.Decimal
import CoreWar.Report.CoreMap
import CoreWar.Report.Delivery

/-!
# The core map as it is read

A map is the header and a row for every full or last partial number of cells, so each address has
its letter in exactly one row. The loop that writes a map keeps a row until the next one starts, and
still it offers exactly these rows (`writeMap_eq`). A receiver that stops accepting gets whole rows
(`map_delivered`).
-/

namespace CoreWar

variable {size : CoreSize}

lemma Owner.mem_letter {o : Owner} {b : UInt8} (h : b ∈ o.letter) : b ∈ ("AB_" : Text) := by
  unfold letter at h
  split at h
  all_goals
    rw [List.mem_singleton.mp h]
    decide

lemma Owner.letter_ne_nil (o : Owner) : o.letter ≠ [] := by
  unfold letter
  split <;> exact List.cons_ne_nil _ _

/-! ### Deliveries -/

namespace Receiver

/-- Offers chunks one after another, up to the first that is refused. -/
def offerAll (r : Receiver) : List Text → Receiver × Bool
  | [] => (r, true)
  | chunk :: chunks =>
    match r.offer chunk with
    | (r, true) => r.offerAll chunks
    | (r, false) => (r, false)

lemma offerAll_singleton (r : Receiver) (chunk : Text) : r.offerAll [chunk] = r.offer chunk := by
  rw [offerAll]
  rcases r.offer chunk with ⟨r, _ | _⟩ <;> rfl

/-- A receiver without a limit accepts every chunk. -/
lemma offerAll_none (taken chunks : List Text) :
    offerAll ⟨none, taken⟩ chunks = (⟨none, chunks.reverse ++ taken⟩, true) := by
  induction chunks generalizing taken with
  | nil => rfl
  | cons chunk chunks ih => simp [offerAll, offer, ih]

/-- A receiver with a limit accepts as many chunks from the first on. -/
lemma offerAll_some (room : Nat) (taken chunks : List Text) :
    offerAll ⟨some room, taken⟩ chunks =
      (⟨some (room - chunks.length), (chunks.take room).reverse ++ taken⟩,
        decide (chunks.length ≤ room)) := by
  induction chunks generalizing room taken with
  | nil => simp [offerAll]
  | cons chunk chunks ih =>
    cases room with
    | zero => simp [offerAll, offer]
    | succ room => simp [offerAll, offer, ih]

lemma chunks_offerAll_new (limit : Option Nat) (chunks : List Text) :
    ((new limit).offerAll chunks).1.chunks = limit.elim chunks chunks.take := by
  cases limit with
  | none => simp [new, offerAll_none, Receiver.chunks]
  | some n => simp [new, offerAll_some, Receiver.chunks]

/-- A chunk is refused if the limit is below the number of chunks. -/
lemma snd_offerAll_new_eq_false_iff (limit : Option Nat) (chunks : List Text) :
    ((new limit).offerAll chunks).2 = false ↔ ∃ n ∈ limit, n < chunks.length := by
  cases limit with
  | none => simp [new, offerAll_none]
  | some n => simp [new, offerAll_some]

/-- A receiver that did not refuse anything has all chunks. -/
lemma chunks_offerAll_new_of_snd {limit : Option Nat} {chunks : List Text}
    (h : ((new limit).offerAll chunks).2 = true) :
    ((new limit).offerAll chunks).1.chunks = chunks := by
  rw [chunks_offerAll_new]
  cases limit with
  | none => rfl
  | some n =>
    rw [new, offerAll_some, decide_eq_true_iff] at h
    exact List.take_of_length_le h

end Receiver

namespace Delivery

/-- A delivery is what offering the chunks one after another leads to. -/
lemma deliver_eq_offerAll (limit : Option Nat) (chunks : List Text) :
    deliver limit chunks =
      ⟨((Receiver.new limit).offerAll chunks).1.chunks.flatten,
        ((Receiver.new limit).offerAll chunks).2⟩ := by
  rw [Receiver.chunks_offerAll_new]
  induction chunks generalizing limit with
  | nil => rcases limit with _ | limit <;> simp [deliver, Receiver.offerAll]
  | cons chunk chunks ih =>
    rcases limit with _ | _ | limit
    · simp [deliver, ih, after, Receiver.new, Receiver.offerAll_none]
    · rfl
    · simp [deliver, ih, after, Receiver.new, Receiver.offerAll_some]

lemma deliver_none (chunks : List Text) : deliver none chunks = ⟨chunks.flatten, true⟩ := by
  rw [deliver_eq_offerAll, Receiver.chunks_offerAll_new, Receiver.new, Receiver.offerAll_none]
  rfl

end Delivery

namespace Core

/-- The letter for the owner of the cell at an address that is given by its number. -/
def letterAt (core : Core size) (i : Nat) : Text :=
  (core.get (.ofInt i)).owner.letter

/-- The owners are those of the cells at all addresses from the first one on. -/
lemma owners_eq (core : Core size) :
    core.owners = (List.range size.count).map fun i : Nat => (core.get (.ofInt i)).owner := by
  apply List.ext_getElem
  · simp [owners]
  · intro i hi hi'
    have hlt : i < size.count := by simpa [owners] using hi
    have haddress : (Address.ofInt (i : Int) : Address size) = ⟨i, hlt⟩ :=
      Address.ofInt_val ⟨i, hlt⟩
    simp [owners, haddress, get_eq_getElem]

lemma length_owners (core : Core size) : core.owners.length = size.count := by
  simp [owners]

end Core

namespace CoreMap

lemma rowWidth_pos (width : Int64) : 0 < rowWidth width := by
  unfold rowWidth
  split
  · decide
  · rename_i h
    have h' : ¬width.toInt ≤ 0 := by simpa [Int64.le_iff_toInt_le] using h
    rw [← Int64.toNat_toInt]
    omega

lemma rowWidth_eq (width : Int64) :
    rowWidth width = if 0 < width.toInt then width.toInt.toNat else 80 := by
  have hpositive : width ≤ 0 ↔ ¬0 < width.toInt := by
    rw [Int64.le_iff_toInt_le, Int64.toInt_zero, Int.not_lt]
  simp only [rowWidth, hpositive, ite_not]
  rfl

/-! ### Cutting into rows -/

/-- The number of rows for a number of cells, the last of which may be shorter. -/
def rowCount (cells width : Nat) : Nat :=
  (cells + width - 1) / width

lemma rowCount_zero {width : Nat} (hwidth : 0 < width) : rowCount 0 width = 0 :=
  Nat.div_eq_of_lt (by omega)

/-- The first row takes as many cells as it can. -/
lemma rowCount_of_pos {cells width : Nat} (hwidth : 0 < width) (hcells : 0 < cells) :
    rowCount cells width = rowCount (cells - width) width + 1 := by
  have hfirst : cells + width - 1 = cells - 1 + width := by omega
  unfold rowCount
  rw [hfirst, Nat.add_div_right _ hwidth]
  congr 1
  by_cases hfull : width ≤ cells
  · congr 1
    omega
  · rw [Nat.div_eq_of_lt (by omega), Nat.div_eq_of_lt (by omega)]

section

variable {α : Type} {width : Nat}

/-- A list in rows, each of them found by its number. -/
def cut (width : Nat) (l : List α) : List (List α) :=
  (List.range (rowCount l.length width)).map fun k => (l.drop (k * width)).take width

lemma cut_nil (hwidth : 0 < width) : cut width ([] : List α) = [] := by
  rw [cut, List.length_nil, rowCount_zero hwidth, List.range_zero, List.map_nil]

lemma cut_of_ne_nil (hwidth : 0 < width) {l : List α} (hl : l ≠ []) :
    cut width l = l.take width :: cut width (l.drop width) := by
  have hlength : 0 < l.length := List.length_pos_iff.mpr hl
  rw [cut, rowCount_of_pos hwidth hlength, List.range_succ_eq_map, List.map_cons, List.map_map,
    Nat.zero_mul, List.drop_zero, cut, List.length_drop]
  congr 1
  refine List.map_congr_left fun k _ => ?_
  rw [Function.comp_apply, Nat.succ_mul, Nat.add_comm, List.drop_drop]

/-- No element is lost between two rows. -/
lemma flatten_cut (hwidth : 0 < width) (l : List α) : (cut width l).flatten = l := by
  by_cases hl : l = []
  · rw [hl, cut_nil hwidth, List.flatten_nil]
  · have hshort : (l.drop width).length < l.length := by
      have hlength := List.length_pos_iff.mpr hl
      rw [List.length_drop]
      omega
    rw [cut_of_ne_nil hwidth hl, List.flatten_cons, flatten_cut hwidth (l.drop width),
      List.take_append_drop]
termination_by l.length

end

/-! ### Rows -/

/-- The row for owners of cells from an address on. -/
def row (address : Nat) (owners : List Owner) : Text :=
  rowStart address ++ owners.flatMap Owner.letter ++ "\n"

/-- The rows for owners of cells from an address on. -/
def rows (width address : Nat) (owners : List Owner) : List Text :=
  (cut width owners).mapIdx fun k os => row (address + k * width) os

lemma rows_nil {width : Nat} (hwidth : 0 < width) (address : Nat) : rows width address [] = [] := by
  rw [rows, cut_nil hwidth, List.mapIdx_nil]

/-- The first row begins with the first owner, and `width - 1` more stand in it. -/
lemma rows_cons {width : Nat} (hwidth : 0 < width) (address : Nat) (o : Owner)
    (owners : List Owner) :
    rows width address (o :: owners) =
      (rowStart address ++ o.letter ++ (owners.take (width - 1)).flatMap Owner.letter ++ "\n") ::
        rows width (address + 1 + (width - 1)) (owners.drop (width - 1)) := by
  obtain ⟨rest, rfl⟩ : ∃ rest, width = rest + 1 := ⟨width - 1, by omega⟩
  rw [rows, cut_of_ne_nil hwidth (List.cons_ne_nil o owners), List.mapIdx_cons, Nat.zero_mul,
    Nat.add_zero, List.take_succ_cons, List.drop_succ_cons, Nat.add_sub_cancel, row,
    List.flatMap_cons, ← List.append_assoc, rows]
  congr 2
  funext k os
  congr 1
  rw [Nat.succ_mul]
  omega

/-- The first cell of the next row, as it is found after the first cell of a row. -/
lemma add_width_mod {width address : Nat} (hwidth : 0 < width) (haddress : address % width = 0) :
    (address + 1 + (width - 1)) % width = 0 := by
  have hnext : address + 1 + (width - 1) = address + width := by omega
  rw [hnext, Nat.add_mod_right, haddress]

namespace Writing

lemma row_append (w : Writing) (t : Text) : (w.append t).row = w.row ++ t := by
  simp [row, append]

lemma row_append_ne_nil (w : Writing) {t : Text} (ht : t ≠ []) : (w.append t).row ≠ [] := by
  rw [row_append]
  exact List.append_ne_nil_of_right_ne_nil w.row ht

lemma flush_of_row_eq_nil {w : Writing} (hrow : w.row = []) : w.flush = (w, true) := by
  rw [flush, hrow, List.isEmpty_nil, if_pos rfl]

lemma flush_of_row_ne_nil {w : Writing} (hrow : w.row ≠ []) :
    w.flush =
      (⟨(w.receiver.offer (w.row ++ "\n")).1, []⟩, (w.receiver.offer (w.row ++ "\n")).2) := by
  rw [flush, if_neg (by simpa using hrow)]

/-- A row that lacks `left` cells is offered when they have come up, and every later row after it.
The invariant of the loop is that a row has been begun: it is offered one cell late. -/
lemma write_of_row_ne_nil {width : Nat} (hwidth : 0 < width) {w : Writing} {address left : Nat}
    (hrow : w.row ≠ []) (hleft : left < width) (haddress : (address + left) % width = 0)
    (owners : List Owner) :
    write width w address owners =
      w.receiver.offerAll ((w.row ++ (owners.take left).flatMap Owner.letter ++ "\n") ::
        rows width (address + left) (owners.drop left)) := by
  induction owners generalizing w address left with
  | nil =>
    simp only [write, flush_of_row_ne_nil hrow, List.take_nil, List.drop_nil, List.flatMap_nil,
      List.append_nil, rows_nil hwidth, Receiver.offerAll_singleton]
  | cons o owners ih =>
    cases left with
    | zero =>
      -- The row is full, and this cell starts the next one.
      rw [Nat.add_zero] at haddress
      rw [write, if_pos haddress, flush_of_row_ne_nil hrow, List.take_zero, List.flatMap_nil,
        List.append_nil, List.drop_zero, Nat.add_zero, rows_cons hwidth, Receiver.offerAll]
      rcases w.receiver.offer (w.row ++ "\n") with ⟨r, _ | _⟩
      · rfl
      · dsimp only
        rw [ih (row_append_ne_nil _ o.letter_ne_nil) (Nat.sub_one_lt_of_lt hwidth)
          (add_width_mod hwidth haddress), row_append, row_append]
        rfl
    | succ left =>
      have hinner : address % width ≠ 0 := by
        intro hzero
        rw [Nat.add_mod, hzero, Nat.zero_add, Nat.mod_mod, Nat.mod_eq_of_lt hleft] at haddress
        omega
      have hnext : address + 1 + left = address + (left + 1) := by omega
      rw [← hnext] at haddress
      rw [write, if_neg hinner, ih (row_append_ne_nil w o.letter_ne_nil) (Nat.lt_of_succ_lt hleft)
        haddress, hnext, row_append, List.take_succ_cons, List.drop_succ_cons,
        List.flatMap_cons, List.append_assoc w.row]
      rfl

/-- The loop offers the rows of the owners. -/
lemma write_zero {width : Nat} (hwidth : 0 < width) (r : Receiver) (owners : List Owner) :
    write width ⟨r, []⟩ 0 owners = r.offerAll (rows width 0 owners) := by
  cases owners with
  | nil => rw [write, flush_of_row_eq_nil rfl, rows_nil hwidth, Receiver.offerAll]
  | cons o owners =>
    have haddress : 0 % width = 0 := Nat.zero_mod width
    rw [write, if_pos haddress, flush_of_row_eq_nil rfl, rows_cons hwidth]
    dsimp only
    rw [write_of_row_ne_nil hwidth (row_append_ne_nil _ o.letter_ne_nil)
      (Nat.sub_one_lt_of_lt hwidth) (add_width_mod hwidth haddress), row_append, row_append]
    rfl

end Writing

/-! ### Lines -/

/-- The line with the given number under the header: the address of its first cell, and the letters
for its cells. -/
def rowLine (core : Core size) (width k : Nat) : Text :=
  Text.padLeft 5 (Text.ofNat (k * width)) ++ ":" ++
    (List.Ico (k * width) (min ((k + 1) * width) size.count)).flatMap core.letterAt

def lines (core : Core size) (width : Nat) : List Text :=
  "Core Map:" :: (List.range (rowCount size.count width)).map (rowLine core width)

lemma flatMap_letter_take_drop (core : Core size) (width k : Nat) :
    ((core.owners.drop (k * width)).take width).flatMap Owner.letter =
      (List.Ico (k * width) (min ((k + 1) * width) size.count)).flatMap core.letterAt := by
  have haddresses : ((List.range size.count).drop (k * width)).take width =
      List.Ico (k * width) (min ((k + 1) * width) size.count) := by
    rw [List.range_eq_range', List.drop_range', List.Ico, Nat.succ_mul]
    by_cases hfull : width ≤ size.count - k * width
    · rw [List.take_range'_of_length_ge hfull]
      congr 1 <;> omega
    · rw [List.take_range'_of_length_le (by omega)]
      congr 1 <;> omega
  rw [Core.owners_eq, ← List.map_drop, ← List.map_take, haddresses, List.flatMap_map]
  rfl

lemma rows_owners (core : Core size) (width : Nat) :
    rows width 0 core.owners =
      (List.range (rowCount size.count width)).map fun k => rowLine core width k ++ "\n" := by
  rw [rows, cut, Core.length_owners]
  apply List.ext_getElem
  · simp
  · intro k hk hk'
    simp [row, rowStart, rowLine, flatMap_letter_take_drop]

/-- The chunks that are offered in writing a map are its lines. -/
lemma writeMap_eq (core : Core size) (width : Int64) (r : Receiver) :
    core.writeMap width r =
      r.offerAll ((lines core (rowWidth width)).map (· ++ ("\n" : Text))) := by
  rw [Core.writeMap, lines, List.map_cons, Receiver.offerAll, List.map_map]
  have hheader : header = ("Core Map:" : Text) ++ ("\n" : Text) := by decide
  rw [hheader]
  rcases r.offer _ with ⟨r, _ | _⟩
  · rfl
  · exact (Writing.write_zero (rowWidth_pos width) r core.owners).trans (by rw [rows_owners]; rfl)

lemma map_eq (core : Core size) (width : Int64) :
    core.map width = (lines core (rowWidth width)).map (· ++ ("\n" : Text)) := by
  rw [Core.map, writeMap_eq, Receiver.chunks_offerAll_new, Option.elim_none]

/-! ### Reading a map -/

/-- The letters of a row, which stand behind its colon. -/
def letters (line : Text) : Text :=
  (line.dropWhile (· != ':'.toUInt8)).tail

lemma mem_address {n : Nat} {b : UInt8} (h : b ∈ Text.padLeft 5 (Text.ofNat n)) :
    b = ' '.toUInt8 ∨ Text.isDigit b = true := by
  rcases List.mem_append.mp h with h | h
  · exact Or.inl (List.eq_of_mem_replicate h)
  · exact Or.inr (Text.isDigit_of_mem_ofNat h)

lemma letters_rowLine (core : Core size) (width k : Nat) :
    letters (rowLine core width k) =
      (List.Ico (k * width) (min ((k + 1) * width) size.count)).flatMap core.letterAt := by
  have hcolon : ∀ b ∈ Text.padLeft 5 (Text.ofNat (k * width)), (b != ':'.toUInt8) = true := by
    intro b hb
    rcases mem_address hb with rfl | hdigit
    · decide
    · simp only [bne_iff_ne]
      rintro rfl
      exact absurd hdigit (by decide)
  rw [letters, rowLine, List.append_assoc, List.dropWhile_append_of_pos hcolon]
  rfl

lemma feed_notMem_lines (core : Core size) (width : Nat) :
    ∀ l ∈ lines core width, '\n'.toUInt8 ∉ l := by
  intro l hl hfeed
  rcases List.mem_cons.mp hl with rfl | hl
  · exact absurd hfeed (by decide)
  · obtain ⟨k, -, rfl⟩ := List.mem_map.mp hl
    rcases List.mem_append.mp hfeed with hfeed | hfeed
    · rcases List.mem_append.mp hfeed with hfeed | hfeed
      · rcases mem_address hfeed with h | h <;> exact absurd h (by decide)
      · exact absurd hfeed (by decide)
    · obtain ⟨i, -, hi⟩ := List.mem_flatMap.mp hfeed
      exact absurd (Owner.mem_letter hi) (by decide)

lemma splitOn_flatten_map (core : Core size) (width : Int64) :
    (core.map width).flatten.splitOn '\n'.toUInt8 = lines core (rowWidth width) ++ [[]] := by
  rw [map_eq, ← List.flatMap_def]
  exact Source.splitOn_flatMap_feed (feed_notMem_lines core _)

/-- The letters of all rows are those of all addresses. -/
lemma flatMap_letters_lines (core : Core size) {width : Nat} (hwidth : 0 < width) :
    (lines core width).tail.flatMap letters = (List.range size.count).flatMap core.letterAt := by
  have hrows : (lines core width).tail.flatMap letters =
      (cut width core.owners).flatMap fun os => os.flatMap Owner.letter := by
    simp only [lines, List.tail_cons, cut, Core.length_owners, List.flatMap_map, letters_rowLine,
      flatMap_letter_take_drop]
  calc (lines core width).tail.flatMap letters
    _ = (cut width core.owners).flatten.flatMap Owner.letter := by
      rw [hrows, List.flatten_eq_flatMap, List.flatMap_assoc]
      rfl
    _ = core.owners.flatMap Owner.letter := by rw [flatten_cut hwidth]
    _ = (List.range size.count).flatMap core.letterAt := by
      rw [Core.owners_eq, List.flatMap_map]
      rfl

end CoreMap

/-- A map is complete, and it is cut only between rows. It consists of the header and of a row for
each `w` cells, with the address of its first cell and a letter for each of its cells; the last row
may be shorter. A receiver that accepts a limited number of chunks gets as many of them from the
first on, and sees a failure exactly if there are more. The letters of a map that was accepted are
those of all addresses, each of them once and in their order. -/
theorem map_delivered (core : Core size) (width : Int64) (limit : Option Nat) :
    let w : Nat := if 0 < width.toInt then width.toInt.toNat else 80
    let count : Nat := (size.count + w - 1) / w
    let chunks : List Text :=
      "Core Map:\n" :: (List.range count).map fun k => CoreMap.rowLine core w k ++ "\n"
    let (receiver, complete) := core.writeMap width (.new limit)
    receiver.chunks = limit.elim chunks chunks.take ∧
    (complete = false ↔ ∃ n ∈ limit, n < 1 + count) ∧
    (complete = true →
      (receiver.chunks.flatten.splitOn '\n'.toUInt8).dropLast.tail.flatMap CoreMap.letters =
        (List.range size.count).flatMap core.letterAt) ∧
    core.map width = chunks ∧
    Delivery.deliver limit (core.map width) = ⟨receiver.chunks.flatten, complete⟩ := by
  intro w count chunks
  have hw : CoreMap.rowWidth width = w := CoreMap.rowWidth_eq width
  have hmap : core.map width = chunks := by
    rw [CoreMap.map_eq, hw, CoreMap.lines, List.map_cons, List.map_map]
    rfl
  have hcount : (core.map width).length = 1 + count := by
    rw [hmap, List.length_cons, List.length_map, List.length_range, Nat.add_comm]
  rw [CoreMap.writeMap_eq, ← CoreMap.map_eq]
  refine ⟨?_, ?_, ?_, hmap, Delivery.deliver_eq_offerAll limit (core.map width)⟩
  · rw [← hmap]
    exact Receiver.chunks_offerAll_new limit (core.map width)
  · rw [← hcount]
    exact Receiver.snd_offerAll_new_eq_false_iff limit (core.map width)
  · intro hcomplete
    rw [Receiver.chunks_offerAll_new_of_snd hcomplete, CoreMap.splitOn_flatten_map,
      List.dropLast_concat, CoreMap.flatMap_letters_lines core (CoreMap.rowWidth_pos width)]

/-- Five cells in rows of two: a receiver of two chunks gets one row, and one of four gets the last
row too, which has one cell. -/
theorem map_delivered_partial_row :
    let core : Core ⟨5, by decide, by decide⟩ :=
      ((Core.blank.set 0 { Cell.empty with owner := ⟨0⟩ }).set 3
        { Cell.empty with owner := ⟨1⟩ }).set 4 { Cell.empty with owner := ⟨7⟩ }
    (core.writeMap 2 (.new (some 2))).1.chunks = ["Core Map:\n", "    0:A_\n"] ∧
      (core.writeMap 2 (.new (some 2))).2 = false ∧
      (core.writeMap 2 (.new (some 4))).1.chunks =
        ["Core Map:\n", "    0:A_\n", "    2:_B\n", "    4:_\n"] ∧
      (core.writeMap 2 (.new (some 4))).2 = true ∧
      ((core.writeMap 2 (.new (some 4))).1.chunks.flatten.splitOn
        '\n'.toUInt8).dropLast.tail.flatMap CoreMap.letters = ("A__B_" : Text) := by
  intro core
  obtain ⟨htwo, hfail, -⟩ := map_delivered core 2 (some 2)
  obtain ⟨hfour, hfail', hletters, -⟩ := map_delivered core 2 (some 4)
  have hcomplete : (core.writeMap 2 (.new (some 4))).2 = true := by
    refine eq_true_of_ne_false fun hfalse => ?_
    obtain ⟨n, hn, hlt⟩ := hfail'.mp hfalse
    rw [← Option.some_inj.mp hn] at hlt
    exact absurd hlt (by decide)
  refine ⟨htwo.trans (by decide +kernel), hfail.mpr ⟨2, rfl, by decide⟩,
    hfour.trans (by decide +kernel), hcomplete, (hletters hcomplete).trans (by decide +kernel)⟩

end CoreWar
