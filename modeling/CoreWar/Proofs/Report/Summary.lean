import CoreWar.Proofs.Battle.Consistency
import CoreWar.Proofs.Report.CoreMap
import CoreWar.Report.Summary

/-!
# The summary as it is read

A match that is over is drawn and has no loser, or it was ended by a fault of the player who has
lost (`Verdict`). Its summary says so, and it says everything else that it tells about the match
without ambiguity: two summaries have the same text only if they tell the same (`summary_faithful`).
-/

namespace CoreWar

variable {size : CoreSize}

/-! ### Verdicts -/

/-- The reasons and losers with which a match can end. -/
inductive Verdict : Reason → Owner → Prop where
  | draw : Verdict .draw .nobody
  | fault (p : Player) (f : Fault) : Verdict (.ofFault f) (.ofPlayer p)

namespace Reason

lemma exists_ofFault_of_isFatal {r : Reason} (h : r.isFatal = true) : ∃ f, r = ofFault f := by
  obtain ⟨f, hf⟩ := Option.isSome_iff_exists.mp h
  unfold fault? at hf
  have heq := List.find?_some hf
  exact ⟨f, (beq_iff_eq.mp heq).symm⟩

lemma feed_notMem_message (r : Reason) : '\n'.toUInt8 ∉ r.message := by
  unfold message
  split
  · rename_i f _
    cases f <;> decide
  · split_ifs <;> decide

end Reason

namespace Verdict

variable {r r' : Reason} {o o' : Owner}

/-- The words for a reason tell it from all other reasons with which a match can end. -/
lemma message_inj (h : Verdict r o) (h' : Verdict r' o') : r.message = r'.message ↔ r = r' := by
  cases h with
  | draw =>
    cases h' with
    | draw => simp
    | fault p f => cases f <;> decide
  | fault p f =>
    cases h' with
    | draw => cases f <;> decide
    | fault p' f' => cases f <;> cases f' <;> decide

lemma exists_player (h : Verdict r o) (ho : o ≠ .nobody) : ∃ p, o = .ofPlayer p := by
  cases h with
  | draw => exact absurd rfl ho
  | fault p f => exact ⟨p, rfl⟩

end Verdict

namespace Battle

lemma Consistent.verdict {b : Battle size} (h : b.Consistent) (hover : b.status ≠ .running) :
    Verdict b.reason b.snapshot.loser := by
  rcases h.status.resolve_left hover with hstatus | hstatus
  · obtain ⟨hfatal, ⟨p, hblamed⟩, -⟩ := h.aborted hstatus
    obtain ⟨f, hf⟩ := Reason.exists_ofFault_of_isFatal hfatal
    rw [loser_of_aborted hstatus hfatal hblamed, hf]
    exact .fault p f
  · have hloser : b.snapshot.loser = .nobody := by
      rw [← not_ne_iff, h.loser_ne_nobody_iff, hstatus]
      decide
    rw [(h.drawn hstatus).1, hloser]
    exact .draw

/-- A match that was aborted on the way was ended by a fault in one of the cycles. -/
lemma exists_fails_of_iterate_tick {b : Battle size} (hrun : b.status = .running) {n : Nat}
    (habort : (tick^[n] b).status = .aborted) : ∃ k < n, ∃ p f, (tick^[k] b).Fails p f := by
  induction n with
  | zero => exact absurd (hrun.symm.trans habort) (by decide)
  | succ n ih =>
    rw [Function.iterate_succ_apply'] at habort
    by_cases hrunning : (tick^[n] b).status = .running
    · obtain ⟨p, f, hfails⟩ := exists_fails_of_ticked hrunning (ticked_tick _) habort
      exact ⟨n, Nat.lt_succ_self n, p, f, hfails⟩
    · rw [tick_of_over hrunning] at habort
      obtain ⟨k, hk, p, f, hfails⟩ := ih habort
      exact ⟨k, by omega, p, f, hfails⟩

/-- A fault in a cycle ends the match for all later cycles. -/
lemma iterate_tick_of_fails {b : Battle size} {k n : Nat} (hk : k < n) {p : Player} {f : Fault}
    (h : (tick^[k] b).Fails p f) :
    (tick^[n] b).status = .aborted ∧ (tick^[n] b).snapshot.loser = .ofPlayer p := by
  have htick := tick_of_fails h
  have hfixed : tick^[n] b = (tick^[k] b).tick := by
    obtain ⟨j, rfl⟩ := Nat.exists_eq_add_of_lt hk
    have hover : (tick^[k] b).tick.status ≠ .running := by
      rw [htick]
      exact isOver_iff.mp (isOver_abort _ p f)
    rw [Nat.add_right_comm, Nat.add_comm, Function.iterate_add_apply,
      Function.iterate_succ_apply', Function.iterate_fixed (tick_of_over hover)]
  rw [hfixed, htick]
  exact ⟨rfl, loser_of_aborted rfl (Reason.isFatal_ofFault f) rfl⟩

end Battle

/-! ### Patterns with texts -/

namespace Message

/-- What stands before the first percent sign of a pattern is kept. -/
lemma fill_append {before : Text} (hbefore : '%'.toUInt8 ∉ before) (rest : Text)
    (args : List Argument) : fill (before ++ rest) args = before ++ fill rest args := by
  induction before with
  | nil => rfl
  | cons b before ih =>
    obtain ⟨hb, hbefore⟩ := not_or.mp (mt List.mem_cons.mpr hbefore)
    rw [List.cons_append, List.cons_append, ← ih hbefore]
    cases before ++ rest with
    | nil => simp [fill, Ne.symm hb]
    | cons c rest => simp [fill, Ne.symm hb]

/-- The first text stands where the pattern has `%s` first. -/
lemma fill_text {before : Text} (hbefore : '%'.toUInt8 ∉ before) (t rest : Text)
    (args : List Argument) :
    fill (before ++ "%s" ++ rest) (.text t :: args) = before ++ t ++ fill rest args := by
  rw [List.append_assoc, fill_append hbefore, List.append_assoc]
  rfl

lemma fill_of_notMem {t : Text} (ht : '%'.toUInt8 ∉ t) (args : List Argument) :
    fill t args = t := by
  have hfill := fill_append ht [] args
  rwa [List.append_nil, fill, List.append_nil] at hfill

lemma arity_text {before : Text} (hbefore : '%'.toUInt8 ∉ before) (rest : Text) :
    arity (before ++ "%s" ++ rest) = arity rest + 1 := by
  rw [List.append_assoc]
  induction before with
  | nil => rfl
  | cons b before ih =>
    obtain ⟨hb, hbefore⟩ := not_or.mp (mt List.mem_cons.mpr hbefore)
    rw [← ih hbefore, List.cons_append]
    cases before ++ ("%s" ++ rest) with
    | nil => rfl
    | cons c rest => simp [arity, Ne.symm hb]

lemma format_eq_fill {pattern : Text} {args : List Argument} (h : args.length ≤ arity pattern) :
    format pattern args = fill pattern args := by
  simp [format, leftover, List.drop_eq_nil_of_le h]

/-- A pattern for one text. -/
lemma format_text (before after : Text) (hbefore : '%'.toUInt8 ∉ before)
    (hafter : '%'.toUInt8 ∉ after) (t : Text) :
    format (before ++ "%s" ++ after) [.text t] = before ++ t ++ after := by
  have harity : [Argument.text t].length ≤ arity (before ++ "%s" ++ after) := by
    rw [arity_text hbefore]
    exact Nat.le_add_left 1 _
  rw [format_eq_fill harity, fill_text hbefore, fill_of_notMem hafter]

/-- A pattern for two texts. -/
lemma format_text_text (before between after : Text) (hbefore : '%'.toUInt8 ∉ before)
    (hbetween : '%'.toUInt8 ∉ between) (hafter : '%'.toUInt8 ∉ after) (t u : Text) :
    format (before ++ "%s" ++ (between ++ "%s" ++ after)) [.text t, .text u] =
      before ++ t ++ (between ++ u ++ after) := by
  have harity : [Argument.text t, .text u].length ≤
      arity (before ++ "%s" ++ (between ++ "%s" ++ after)) := by
    rw [arity_text hbefore, arity_text hbetween]
    exact Nat.le_add_left 2 _
  rw [format_eq_fill harity, fill_text hbefore, fill_text hbetween, fill_of_notMem hafter]

end Message

/-! ### Lines -/

namespace Snapshot

/-- The line that names the loser, if there is one. -/
def loserName (o : Owner) : List Text :=
  if o = .nobody then [] else ["Loser: " ++ o.letter]

def pointers (a b : Int) : Text :=
  "IP: A@" ++ Text.ofInt a ++ ", B@" ++ Text.ofInt b

def summaryLines (s : Snapshot) : List Text :=
  ("Done: " ++ s.reason.message : Text) :: loserName s.loser ++
    [pointers s.ip.a.toInt s.ip.b.toInt, "Cycle: " ++ Text.ofInt s.cycle.toInt]

lemma summary_eq (s : Snapshot) : s.summary = s.summaryLines.map (· ++ ("\n" : Text)) := by
  have hreason : Message.format "Done: %s\n" [.text s.reason.message] =
      "Done: " ++ s.reason.message ++ "\n" :=
    Message.format_text "Done: " "\n" (by decide) (by decide) _
  have hloser : s.loserLine = (loserName s.loser).map (· ++ ("\n" : Text)) := by
    rw [loserLine, loserName]
    split_ifs
    · rfl
    · have hname : Message.format "Loser: %s\n" [.text s.loser.letter] =
          "Loser: " ++ s.loser.letter ++ "\n" :=
        Message.format_text "Loser: " "\n" (by decide) (by decide) _
      rw [hname, List.map_singleton]
  have hpointers : Message.format "IP: A@%s, B@%s\n"
      [.text (Text.ofInt s.ip.a.toInt), .text (Text.ofInt s.ip.b.toInt)] =
        pointers s.ip.a.toInt s.ip.b.toInt ++ "\n" := by
    rw [pointers, List.append_assoc, List.append_assoc]
    exact Message.format_text_text "IP: A@" ", B@" "\n" (by decide) (by decide) (by decide) _ _
  have hcycle : Message.format "Cycle: %s\n" [.text (Text.ofInt s.cycle.toInt)] =
      "Cycle: " ++ Text.ofInt s.cycle.toInt ++ "\n" :=
    Message.format_text "Cycle: " "\n" (by decide) (by decide) _
  rw [summary, summaryLines, hreason, hloser, hpointers, hcycle, List.map_append, List.map_cons]
  rfl

lemma feed_notMem_summaryLines (s : Snapshot) : ∀ l ∈ s.summaryLines, '\n'.toUInt8 ∉ l := by
  have hnumber := Text.notMem_ofInt (b := '\n'.toUInt8) (by decide) (by decide)
  have hreason := s.reason.feed_notMem_message
  intro l hl
  simp only [summaryLines, List.mem_append, List.mem_cons, List.not_mem_nil, or_false] at hl
  rcases hl with (rfl | hl) | rfl | rfl
  · rw [List.mem_append, not_or]
    exact ⟨by decide, hreason⟩
  · unfold loserName at hl
    split_ifs at hl
    · cases hl
    · rw [List.mem_singleton.mp hl, List.mem_append, not_or]
      exact ⟨by decide, fun h => absurd (Owner.mem_letter h) (by decide)⟩
  · simp only [pointers, List.mem_append, not_or]
    exact ⟨⟨⟨by decide, hnumber _⟩, by decide⟩, hnumber _⟩
  · rw [List.mem_append, not_or]
    exact ⟨by decide, hnumber _⟩

lemma splitOn_summary (s : Snapshot) :
    s.summary.flatten.splitOn '\n'.toUInt8 = s.summaryLines ++ [[]] := by
  rw [summary_eq, ← List.flatMap_def]
  exact Source.splitOn_flatMap_feed s.feed_notMem_summaryLines

lemma numbers_isSuffix (s : Snapshot) :
    [pointers s.ip.a.toInt s.ip.b.toInt, ("Cycle: " ++ Text.ofInt s.cycle.toInt : Text), []] <:+
      s.summaryLines ++ [[]] := by
  refine ⟨("Done: " ++ s.reason.message : Text) :: loserName s.loser, ?_⟩
  rw [summaryLines, List.append_assoc]
  rfl

/-- Summaries have the same text if they have the same lines. -/
lemma flatten_summary_inj {s s' : Snapshot} :
    s.summary.flatten = s'.summary.flatten ↔ s.summaryLines = s'.summaryLines := by
  constructor
  · intro h
    have hsplit := congrArg (List.splitOn '\n'.toUInt8) h
    rw [splitOn_summary, splitOn_summary] at hsplit
    exact List.append_cancel_right hsplit
  · intro h
    rw [summary_eq, summary_eq, h]

/-- The comma between the pointers is in neither of them. -/
lemma pointers_inj {a b a' b' : Int} : pointers a b = pointers a' b' ↔ a = a' ∧ b = b' := by
  have hcomma := Text.notMem_ofInt (b := ','.toUInt8) (by decide) (by decide)
  have hsplit : ∀ a b, pointers a b =
      ("IP: A@" : Text) ++ (Text.ofInt a ++ ','.toUInt8 :: (" B@" ++ Text.ofInt b)) := by
    intro a b
    rw [pointers, List.append_assoc, List.append_assoc]
    rfl
  have htail : ','.toUInt8 ∉ (" B@" : Text) ++ Text.ofInt b := by
    rw [List.mem_append, not_or]
    exact ⟨by decide, hcomma b⟩
  rw [hsplit, hsplit, List.append_right_inj, List.append_cons_inj_of_notMem (hcomma a) htail,
    List.append_right_inj, Text.ofInt_injective.eq_iff, Text.ofInt_injective.eq_iff]
  simp

/-- The line about a loser tells who it is. -/
lemma loserName_inj {r r' : Reason} {o o' : Owner} (h : Verdict r o) (h' : Verdict r' o') :
    loserName o = loserName o' ↔ o = o' := by
  cases h with
  | draw =>
    cases h' with
    | draw => simp
    | fault p f => cases p <;> decide
  | fault p f =>
    cases h' with
    | draw => cases p <;> decide
    | fault p' f' => cases p <;> cases p' <;> decide

/-- The first line and the last two are always there. -/
lemma cons_append_pair_inj {x y z x' y' z' : Text} {l l' : List Text} :
    x :: l ++ [y, z] = x' :: l' ++ [y', z'] ↔ x = x' ∧ l = l' ∧ y = y' ∧ z = z' := by
  constructor
  · intro h
    obtain ⟨hfirst, hlast⟩ := List.append_inj' h rfl
    simp only [List.cons.injEq, and_true] at hfirst hlast
    exact ⟨hfirst.1, hfirst.2, hlast.1, hlast.2⟩
  · rintro ⟨rfl, rfl, rfl, rfl⟩
    rfl

/-- The lines of a match that is over determine all that they tell. -/
lemma summaryLines_inj {s s' : Snapshot} (h : Verdict s.reason s.loser)
    (h' : Verdict s'.reason s'.loser) :
    s.summaryLines = s'.summaryLines ↔
      s.reason = s'.reason ∧ s.loser = s'.loser ∧ s.ip = s'.ip ∧ s.cycle = s'.cycle := by
  have hip : s.ip = s'.ip ↔ s.ip.a.toInt = s'.ip.a.toInt ∧ s.ip.b.toInt = s'.ip.b.toInt := by
    rw [Int64.toInt_inj, Int64.toInt_inj, ← Sides.mk.injEq]
  rw [summaryLines, summaryLines, cons_append_pair_inj, List.append_right_inj, h.message_inj h',
    loserName_inj h h', pointers_inj, ← hip, List.append_right_inj, Text.ofInt_injective.eq_iff,
    Int64.toInt_inj]

/-- A line about a loser is there only if there is one, and it names the loser. -/
lemma eq_of_loser_isPrefix {s : Snapshot} {line : Text} (hline : line ∈ s.summaryLines ++ [[]])
    (h : ("Loser:" : Text) <+: line) :
    s.loser ≠ .nobody ∧ line = "Loser: " ++ s.loser.letter := by
  have hhead : line.head? = some 'L'.toUInt8 := by
    obtain ⟨t, rfl⟩ := h
    rfl
  simp only [summaryLines, List.mem_append, List.mem_cons, List.not_mem_nil, or_false] at hline
  -- every other line starts with another letter
  rcases hline with ((rfl | hname) | rfl | rfl) | rfl
  · cases hhead
  · unfold loserName at hname
    split_ifs at hname with hloser
    · cases hname
    · exact ⟨hloser, List.mem_singleton.mp hname⟩
  · cases hhead
  · cases hhead
  · cases hhead

lemma mem_summaryLines_of_loser {s : Snapshot} (h : s.loser ≠ .nobody) :
    ("Loser: " ++ s.loser.letter : Text) ∈ s.summaryLines ++ [[]] := by
  have hname : ("Loser: " ++ s.loser.letter : Text) ∈ loserName s.loser := by
    rw [loserName, if_neg h]
    exact List.mem_singleton_self _
  simp only [summaryLines, List.mem_append, List.mem_cons, hname, or_true, true_or]

end Snapshot

/-- The text consists of decimal digits only, and they stand for the integer. -/
def Text.PlainDigits (t : Text) (i : Int) : Prop :=
  (∀ b ∈ t, isDigit b = true) ∧ (toNat t : Int) = i

lemma Text.plainDigits_ofInt {i : Int} (hi : 0 ≤ i) : PlainDigits (ofInt i) i := by
  rw [ofInt_of_nonneg (Int.not_lt.mpr hi)]
  refine ⟨fun b hb => isDigit_of_mem_ofNat hb, ?_⟩
  rw [toNat_ofNat, Int.natAbs_of_nonneg hi]

/-! ### Summaries of loaded matches -/

namespace Battle

def losing : Player → Text
  | .a => "Loser: A"
  | .b => "Loser: B"

lemma losing_eq (p : Player) : losing p = "Loser: " ++ (Owner.ofPlayer p).letter := by
  cases p <;> rfl

lemma losing_injective : Function.Injective losing := by
  intro p q h
  cases p with
  | a =>
    cases q with
    | a => rfl
    | b => exact absurd h (by decide)
  | b =>
    cases q with
    | a => exact absurd h (by decide)
    | b => rfl

/-- A player is named as the loser if a turn of the player has failed in one of the cycles. -/
lemma losing_mem_iff {b loaded : Battle size} {first second : List Cell}
    (hload : b.LoadsTo first second loaded) {n : Nat} (p : Player) :
    losing p ∈ (tick^[n] loaded).snapshot.summaryLines ++ [[]] ↔
      ∃ k < n, ∃ f, (tick^[k] loaded).Fails p f := by
  constructor
  · intro hmem
    have hprefix : ("Loser:" : Text) <+: losing p := by
      cases p <;> decide
    obtain ⟨hloser, hline⟩ := Snapshot.eq_of_loser_isPrefix hmem hprefix
    have habort := (hload.consistent.iterate_tick n).loser_ne_nobody_iff.mp hloser
    obtain ⟨k, hk, q, f, hfails⟩ := exists_fails_of_iterate_tick hload.status_eq habort
    have hpq : losing p = losing q := by
      rw [hline, (iterate_tick_of_fails hk hfails).2, losing_eq]
    obtain rfl := losing_injective hpq
    exact ⟨k, hk, f, hfails⟩
  · rintro ⟨k, hk, f, hfails⟩
    obtain ⟨habort, hloser⟩ := iterate_tick_of_fails hk hfails
    rw [losing_eq, ← hloser]
    exact Snapshot.mem_summaryLines_of_loser
      ((hload.consistent.iterate_tick n).loser_ne_nobody_iff.mpr habort)

/-- A summary is faithful. The summary of a loaded match that is over names a loser exactly if the
match was aborted, and it is the player whose turn has failed in one of the cycles. Its numbers are
plain digits. And two such summaries, of matches of any size, have the same text only if the matches
have the same reason, loser, pointers and cycles. -/
theorem summary_faithful {b loaded : Battle size} {first second : List Cell}
    (hload : b.LoadsTo first second loaded) {n : Nat}
    (hover : (tick^[n] loaded).status ≠ .running) :
    let final := tick^[n] loaded
    let text := final.snapshot.summary.flatten
    let lines := text.splitOn '\n'.toUInt8
    -- the loser
    ((∃ line ∈ lines, ("Loser:" : Text) <+: line) ↔ final.status = .aborted) ∧
    (∀ line ∈ lines, ("Loser:" : Text) <+: line → line = losing .a ∨ line = losing .b) ∧
    (∀ p, losing p ∈ lines ↔ ∃ k < n, ∃ f, (tick^[k] loaded).Fails p f) ∧
    -- the numbers
    (∃ a b cycle : Text, Text.PlainDigits a final.machine.ip.a.toInt ∧
      Text.PlainDigits b final.machine.ip.b.toInt ∧ Text.PlainDigits cycle final.cycle.toInt ∧
      [("IP: A@" ++ a ++ ", B@" ++ b : Text), "Cycle: " ++ cycle, []] <:+ lines) ∧
    -- two summaries
    ∀ (size' : CoreSize) (b' loaded' : Battle size') (first' second' : List Cell) (n' : Nat),
      b'.LoadsTo first' second' loaded' → (tick^[n'] loaded').status ≠ .running →
      let final' := tick^[n'] loaded'
      text = final'.snapshot.summary.flatten ↔
        final.reason = final'.reason ∧ final.snapshot.loser = final'.snapshot.loser ∧
          final.machine.ip = final'.machine.ip ∧ final.cycle = final'.cycle := by
  intro final text lines
  have hconsistent : final.Consistent := hload.consistent.iterate_tick n
  have hlines : lines = final.snapshot.summaryLines ++ [[]] := final.snapshot.splitOn_summary
  refine ⟨⟨?_, ?_⟩, ?_, ?_, ?_, ?_⟩
  · rintro ⟨line, hline, hprefix⟩
    rw [hlines] at hline
    exact hconsistent.loser_ne_nobody_iff.mp (Snapshot.eq_of_loser_isPrefix hline hprefix).1
  · intro habort
    have hloser := hconsistent.loser_ne_nobody_iff.mpr habort
    refine ⟨_, hlines ▸ Snapshot.mem_summaryLines_of_loser hloser, ?_⟩
    exact ⟨" " ++ final.snapshot.loser.letter, rfl⟩
  · intro line hline hprefix
    rw [hlines] at hline
    obtain ⟨hloser, rfl⟩ := Snapshot.eq_of_loser_isPrefix hline hprefix
    obtain ⟨p, hp⟩ := (hconsistent.verdict hover).exists_player hloser
    rw [hp, ← losing_eq]
    cases p with
    | a => exact Or.inl rfl
    | b => exact Or.inr rfl
  · intro p
    rw [hlines]
    exact losing_mem_iff hload p
  · refine ⟨_, _, _, Text.plainDigits_ofInt (hconsistent.ip .a).1,
      Text.plainDigits_ofInt (hconsistent.ip .b).1, Text.plainDigits_ofInt hconsistent.cycle_nonneg,
      ?_⟩
    rw [hlines]
    exact final.snapshot.numbers_isSuffix
  · intro size' b' loaded' first' second' n' hload' hover' final'
    have hconsistent' : final'.Consistent := hload'.consistent.iterate_tick n'
    rw [Snapshot.flatten_summary_inj,
      Snapshot.summaryLines_inj (hconsistent.verdict hover) (hconsistent'.verdict hover')]
    rfl

/-- A warrior that has nothing to execute but data, and two that jump on the spot until the match is
drawn. -/
theorem summary_faithful_fault :
    let spin : Cell :=
      ⟨.ofOperation .jmp, ⟨.ofAddressing .relative, 0⟩, ⟨.ofAddressing .relative, 0⟩, .ofPlayer .a⟩
    let b : Battle ⟨3, by decide, by decide⟩ := { blank ⟨0⟩ with maxCycle := 2 }
    let lost := b.place [spin] [.empty] 1 0
    let drawn := b.place [spin] [spin] 1 0
    (b.LoadsTo [spin] [.empty] lost ∧ (tick^[2] lost).status ≠ .running) ∧
      (b.LoadsTo [spin] [spin] drawn ∧ (tick^[2] drawn).status ≠ .running) ∧
      (tick^[2] lost).snapshot.summary.flatten =
        ("Done: DAT Executed\nLoser: B\nIP: A@1, B@2\nCycle: 0\n" : Text) ∧
      (∃ k < 2, ∃ f, (tick^[k] lost).Fails .b f) ∧
      (tick^[2] lost).snapshot.summary.flatten ≠ (tick^[2] drawn).snapshot.summary.flatten := by
  intro spin b lost drawn
  have hlost : b.LoadsTo [spin] [.empty] lost := ⟨by decide, 1, 0, ⟨0⟩, by decide, rfl⟩
  have hdrawn : b.LoadsTo [spin] [spin] drawn := ⟨by decide, 1, 0, ⟨0⟩, by decide, rfl⟩
  have hover : (tick^[2] lost).status ≠ .running := by decide +kernel
  have hover' : (tick^[2] drawn).status ≠ .running := by decide +kernel
  obtain ⟨-, -, hlosing, -, hsame⟩ := summary_faithful hlost hover
  refine ⟨⟨hlost, hover⟩, ⟨hdrawn, hover'⟩, by decide +kernel, (hlosing .b).mp (by decide +kernel),
    fun h => ?_⟩
  obtain ⟨hreason, -⟩ := (hsame _ b drawn [spin] [spin] 2 hdrawn hover').mp h
  exact absurd hreason (by decide +kernel)

end Battle

end CoreWar
