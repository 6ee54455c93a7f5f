import Mathlib.Data.List.TakeWhile
import CoreWar.Source.Lines

/-!
# Lines as they are read back

Lines that are written one after the other are read back if a reader can tell where each of them
ends: none is empty or too long, and none has a line feed in it or a carriage return at its end.
-/

namespace CoreWar

namespace Source

/-- The text consists of the given lines, each of which ends with a line feed; the last one may go
without it. -/
def Listing (ls : List Text) (t : Text) : Prop :=
  t = ls.flatMap (· ++ ['\n'.toUInt8]) ∨ t = ['\n'.toUInt8].intercalate ls

/-- A line that is read back as it is written. -/
structure Readable (line : Text) : Prop where
  ne_nil : line ≠ []
  notMem_feed : '\n'.toUInt8 ∉ line
  getLast?_ne_return : line.getLast? ≠ some '\r'.toUInt8
  fits : fits line = true

/-- Lines that end with a line feed are told apart, whatever comes after them. -/
lemma splitOn_flatMap_feed_append {ls : List Text} (hls : ∀ l ∈ ls, '\n'.toUInt8 ∉ l) (t : Text) :
    List.splitOn '\n'.toUInt8 (ls.flatMap (· ++ ['\n'.toUInt8]) ++ t) =
      ls ++ List.splitOn '\n'.toUInt8 t := by
  induction ls with
  | nil => rfl
  | cons l ls ih =>
    have hl := hls l List.mem_cons_self
    rw [List.flatMap_cons, List.append_assoc, List.append_assoc, List.singleton_append,
      List.splitOn_append_cons_self_of_not_mem hl,
      ih fun l' hl' => hls l' (List.mem_cons_of_mem l hl'), List.cons_append]

/-- The last line feed leaves an empty part behind it. -/
lemma splitOn_flatMap_feed {ls : List Text} (hls : ∀ l ∈ ls, '\n'.toUInt8 ∉ l) :
    List.splitOn '\n'.toUInt8 (ls.flatMap (· ++ ['\n'.toUInt8])) = ls ++ [[]] := by
  have h := splitOn_flatMap_feed_append hls []
  rw [List.append_nil, List.splitOn_nil] at h
  exact h

/-- A text without a line feed is one line, unless it is empty. -/
lemma rawLines_of_notMem {t : Text} (ht : '\n'.toUInt8 ∉ t) :
    rawLines t = if t = [] then [] else [t] := by
  rw [rawLines, List.splitOn_eq_singleton ht]
  simp

/-- What comes after the last line feed is read by itself. -/
lemma rawLines_flatMap_feed_append {ls : List Text} (hls : ∀ l ∈ ls, '\n'.toUInt8 ∉ l) (t : Text) :
    rawLines (ls.flatMap (· ++ ['\n'.toUInt8]) ++ t) = ls ++ rawLines t := by
  obtain hnil | ⟨init, last, hconcat⟩ := (List.splitOn '\n'.toUInt8 t).eq_nil_or_concat
  · exact absurd hnil (List.splitOn_ne_nil _ _)
  · rw [rawLines, rawLines, splitOn_flatMap_feed_append hls, hconcat, List.concat_eq_append,
      ← List.append_assoc]
    simp only [List.getLast?_concat, List.dropLast_concat]
    split_ifs
    · rfl
    · exact List.append_assoc ls init [last]

lemma rawLines_flatMap_feed {ls : List Text} (hls : ∀ l ∈ ls, '\n'.toUInt8 ∉ l) :
    rawLines (ls.flatMap (· ++ ['\n'.toUInt8])) = ls := by
  have h := rawLines_flatMap_feed_append hls []
  rw [List.append_nil] at h
  exact h.trans (List.append_nil ls)

lemma rawLines_append_cons {l : Text} (hl : '\n'.toUInt8 ∉ l) (t : Text) :
    rawLines (l ++ '\n'.toUInt8 :: t) = l :: rawLines t := by
  have h := rawLines_flatMap_feed_append (List.forall_mem_singleton.mpr hl) t
  rw [List.flatMap_singleton, List.append_assoc] at h
  exact h

/-- A text is a last line without a line feed, or a line with its line feed and then a text. -/
@[elab_as_elim]
theorem induction_on_lines {motive : Text → Prop} (last : ∀ t, '\n'.toUInt8 ∉ t → motive t)
    (line : ∀ l t, '\n'.toUInt8 ∉ l → motive t → motive (l ++ '\n'.toUInt8 :: t)) (t : Text) :
    motive t := by
  by_cases hmem : '\n'.toUInt8 ∈ t
  · obtain ⟨l, rest, rfl, hl⟩ := List.eq_append_cons_of_mem hmem
    exact line l rest hl (induction_on_lines last line rest)
  · exact last t hmem
termination_by t.length
decreasing_by
  rw [‹t = _›, List.length_append, List.length_cons]
  omega

/-- The lines of a listing are told apart. -/
lemma rawLines_of_listing {ls : List Text} {t : Text} (ht : Listing ls t)
    (hls : ∀ l ∈ ls, Readable l) : rawLines t = ls := by
  have hfeed : ∀ l ∈ ls, '\n'.toUInt8 ∉ l := fun l hl => (hls l hl).notMem_feed
  rcases ht with rfl | rfl
  · exact rawLines_flatMap_feed hfeed
  · cases ls with
    | nil => rfl
    | cons l ls =>
      have hsplit := List.splitOn_intercalate '\n'.toUInt8 hfeed (List.cons_ne_nil l ls)
      rw [rawLines, hsplit, if_neg]
      intro hlast
      exact (hls [] (List.mem_of_getLast? hlast)).ne_nil rfl

lemma fits_of_listing {ls : List Text} {t : Text} (ht : Listing ls t)
    (hls : ∀ l ∈ ls, Readable l) : ∀ l ∈ rawLines t, fits l = true := by
  rw [rawLines_of_listing ht hls]
  exact fun l hl => (hls l hl).fits

/-- Lines that fit the buffer are all read, and so is a last one without a line feed. -/
lemma lines_of_fits {s : Source} (hs : ∀ l ∈ rawLines s.bytes, fits l = true) :
    s.lines = (rawLines s.bytes).map dropReturn := by
  rw [lines, List.takeWhile_eq_self_iff.mpr hs]

lemma lines_of_listing {ls : List Text} {s : Source} (hs : Listing ls s.bytes)
    (hls : ∀ l ∈ ls, Readable l) : s.lines = ls := by
  have hreturn : ∀ l ∈ ls, dropReturn l = id l :=
    fun l hl => if_neg (hls l hl).getLast?_ne_return
  rw [lines_of_fits (fits_of_listing hs hls), rawLines_of_listing hs hls,
    List.map_congr_left hreturn, List.map_id]

/-- Only a reader that fails keeps lines that fit the buffer from being read to the end. -/
lemma readError?_of_fits {s : Source} (hs : ∀ l ∈ rawLines s.bytes, fits l = true) :
    s.readError? = s.failure?.map .readFailed := by
  have hall : (rawLines s.bytes).all fits = true := List.all_eq_true.mpr hs
  rw [readError?, hall]
  rfl

lemma readError?_of_listing {ls : List Text} {s : Source} (hs : Listing ls s.bytes)
    (hls : ∀ l ∈ ls, Readable l) : s.readError? = s.failure?.map .readFailed :=
  readError?_of_fits (fits_of_listing hs hls)

end Source

end CoreWar
