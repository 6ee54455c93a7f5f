import CoreWar.Proofs.Assembler.Grammar
import CoreWar.Proofs.Assembler.Progress
import CoreWar.Script.Interpreter

/-!
# Independence of lines and sources

An assembler is used again and again, and its table of equates outlives the lines and the sources
that it was made for. Nevertheless what comes of a line depends on nothing but the player, the
number of the line, its text without the comment and, if there is an expression in it, the texts
that were predefined last: neither on other lines nor on what the assembler was asked before
(`outcomes_independent`).
-/

namespace CoreWar

namespace Assembler

/-! ### Histories -/

/-- What can be asked of an assembler. -/
inductive Request where
  | predefine (name value : Text)
  | assemble (owner : Owner) (s : Source)

def Request.text? (name : Text) : Request → Option Text
  | predefine k v => if name = k then some v else none
  | assemble _ _ => none

variable (I : Interpreter)

def serve (asm : Assembler) : Request → Assembler
  | .predefine name value => asm.predefine name value
  | .assemble owner s => (asm.assemble I owner s).2

/-- The assembler after requests to a new one, one after the other. -/
def after (history : List Request) : Assembler :=
  history.foldl (serve I) new

/-- The text that a history has given to a name last. -/
def latest? (history : List Request) (name : Text) : Option Text :=
  (history.filterMap (Request.text? name)).getLast?

lemma after_concat (history : List Request) (r : Request) :
    after I (history ++ [r]) = (after I history).serve I r :=
  List.foldl_append

lemma text?_serve (asm : Assembler) (r : Request) (name : Text) :
    (asm.serve I r).predefined.text? name = (r.text? name).or (asm.predefined.text? name) := by
  cases r with
  | predefine k v =>
    simp only [serve, predefine, Request.text?, Equates.text?_insert]
    split <;> rfl
  | assemble owner s => rfl

/-- What an assembler has predefined are the last texts of its history. -/
lemma text?_after I (history : List Request) (name : Text) :
    (after I history).predefined.text? name = latest? history name := by
  -- from the first request on: the last one decides, unless it says nothing about the name
  induction history using List.reverseRecOn with
  | nil => rfl
  | append_singleton history r ih =>
    rw [after_concat, text?_serve, ih]
    cases hr : r.text? name with
    | none => simp [latest?, hr]
    | some v => simp [latest?, hr]

lemma sorted_after I (history : List Request) : (after I history).predefined.Sorted := by
  induction history using List.reverseRecOn with
  | nil => exact Equates.sorted_empty
  | append_singleton history r ih =>
    rw [after_concat]
    cases r with
    | predefine name value => exact ih.insert name value
    | assemble owner s => exact ih

lemma predefined_predefineAll (asm : Assembler) (defs : List (Text × Text)) :
    (asm.predefineAll defs).predefined = asm.predefined.insertAll defs := by
  induction defs generalizing asm with
  | nil => rfl
  | cons entry defs ih => exact ih (asm.predefine entry.1 entry.2)

lemma sorted_predefineAll_new (defs : List (Text × Text)) :
    (new.predefineAll defs).predefined.Sorted := by
  rw [predefined_predefineAll]
  exact Equates.sorted_empty.insertAll defs

lemma text?_predefineAll_new {defs : List (Text × Text)} (h : (defs.map Prod.fst).Nodup)
    (name : Text) : (new.predefineAll defs).predefined.text? name = defs.lookup name := by
  rw [predefined_predefineAll, Equates.text?_insertAll _ h]
  exact Option.or_none

/-! ### Single lines -/

/-- The machine word that a name stands for on a line, by the texts of names: the number of the line
is set by the line itself. -/
def lineEquate? (texts : Text → Option Text) (lineNo : Nat) (name : Text) : Option Int64 :=
  (if name = lineNumberName then some (Text.ofNat lineNo) else texts name).bind
    fun t => (Numeral.signed t).toOption

/-- What a line without its comment adds to the program of a player, by the texts of names. -/
def lineOutcome (owner : Owner) (texts : Text → Option Text) (lineNo : Nat) (line : Text) :
    Program :=
  .ofTraces owner (assembleLine I owner (lineEquate? texts lineNo) lineNo line).toList

lemma lineEquate?_congr {texts texts' : Text → Option Text}
    (h : ∀ name ≠ lineNumberName, texts name = texts' name) (lineNo : Nat) :
    lineEquate? texts lineNo = lineEquate? texts' lineNo := by
  funext name
  rw [lineEquate?, lineEquate?]
  split
  · rfl
  · rename_i hname
    rw [h name hname]

/-- The texts of names matter only on a line with an expression. -/
lemma lineOutcome_congr (owner : Owner) {texts texts' : Text → Option Text} (lineNo : Nat)
    {line : Text} (h : ['$'.toUInt8, '('.toUInt8] <:+: line →
      ∀ name ≠ lineNumberName, texts name = texts' name) :
    lineOutcome I owner texts lineNo line = lineOutcome I owner texts' lineNo line := by
  rw [lineOutcome, lineOutcome]
  by_cases hplain : ['$'.toUInt8, '('.toUInt8] <:+: line
  · rw [lineEquate?_congr (h hplain)]
  · rw [assembleLine_of_plain I owner _ lineNo _ (Expansion.plain_iff.mpr hplain)]

lemma length_lineOutcome_le (owner : Owner) (texts : Text → Option Text) (lineNo : Nat)
    (line : Text) :
    (lineOutcome I owner texts lineNo line).instructions.length +
      (lineOutcome I owner texts lineNo line).errors.length ≤ 1 := by
  rw [lineOutcome]
  cases assembleLine I owner (lineEquate? texts lineNo) lineNo line with
  | none => exact Nat.zero_le 1
  | some t =>
    obtain ⟨lineNo, line, mnemonic, operands, cell, cause?⟩ := t
    cases cause? <;> exact Nat.le_refl 1

/-- The table of a line shows what is predefined, apart from the number of the line. -/
lemma value?_equatesAt {predefined : Equates} (h : predefined.Sorted) (lineNo : Nat) :
    (equatesAt predefined lineNo).value? = lineEquate? predefined.text? lineNo := by
  funext name
  rw [Equates.value?, equatesAt, Equates.text?_insert, lineEquate?]
  split
  · rfl
  · -- the number that the table starts with is no text of another name
    rename_i hname
    rw [initialEquates, Equates.text?_insertAll _ h.nodup, Equates.text?_insert, if_neg hname]
    exact congrArg (Option.bind · _) Option.or_none

/-! ### Sources -/

/-- What the single lines of a source have added to the program. -/
def Assembly.outcomes (a : Assembly) : List Program :=
  a.records.map fun r => .ofTraces a.program.owner r.trace?.toList

lemma program_eq_outcomes (asm : Assembler) (owner : Owner) (s : Source) :
    let assembly := (asm.assemble I owner s).1
    assembly.program = ⟨owner, assembly.outcomes.flatMap Program.instructions,
      assembly.outcomes.flatMap Program.errors⟩ := by
  simp only [program_assemble, traces_eq_filterMap, Assembly.outcomes, Program.ofTraces,
    List.filterMap_eq_flatMap_toList Record.trace?, List.filterMap_flatMap, List.flatMap_map]

/-- Each line of a source adds what it adds by itself, after any history of the assembler. -/
lemma outcomes_assemble_after I (history : List Request) (owner : Owner) (s : Source) :
    ((after I history).assemble I owner s).1.outcomes = s.lines.mapIdx fun i text =>
      lineOutcome I owner (latest? history) (i + 1) (Line.withoutComment text) := by
  have htexts : (after I history).predefined.text? = latest? history :=
    funext (text?_after I history)
  simp only [Assembly.outcomes, program_assemble, records_assemble, recordLine,
    value?_equatesAt (sorted_after I history), htexts, List.mapIdx_eq_zipIdx_map, List.map_map]
  rfl

lemma fst_assemble_congr {asm asm' : Assembler} (h : asm.predefined.Sorted)
    (h' : asm'.predefined.Sorted)
    (htexts : ∀ name ≠ lineNumberName, asm.predefined.text? name = asm'.predefined.text? name)
    (owner : Owner) (s : Source) : (asm.assemble I owner s).1 = (asm'.assemble I owner s).1 := by
  have hrecords : (asm.assemble I owner s).1.records = (asm'.assemble I owner s).1.records := by
    simp only [records_assemble, recordLine, value?_equatesAt h, value?_equatesAt h',
      lineEquate?_congr htexts]
  have htraces : (asm.assemble I owner s).1.traces = (asm'.assemble I owner s).1.traces := by
    rw [traces_eq_filterMap, traces_eq_filterMap, hrecords]
  have hprogram : (asm.assemble I owner s).1.program = (asm'.assemble I owner s).1.program := by
    rw [program_assemble, program_assemble, htraces]
  exact Assembly.ext hrecords htraces hprogram rfl

/-- Lines and sources are independent of each other. Whatever an assembler was asked before, it
makes a program by putting together what each line of the source adds by itself: nothing, an
instruction or an error. What a line adds is the same in another source and after another history if
the player, the number of the line, its text without the comment and, if there is an expression in
it, the texts that were predefined last are the same. And a new assembler comes to the same if it is
given these texts in any order. -/
theorem outcomes_independent (I : Interpreter) (history : List Request) (owner : Owner)
    (s : Source) :
    let assembly := ((after I history).assemble I owner s).1
    (assembly.program = ⟨owner, assembly.outcomes.flatMap Program.instructions,
        assembly.outcomes.flatMap Program.errors⟩ ∧
      (assembly.outcomes = s.lines.mapIdx fun i text =>
        lineOutcome I owner (latest? history) (i + 1) (Line.withoutComment text)) ∧
      ∀ o ∈ assembly.outcomes, o.instructions.length + o.errors.length ≤ 1) ∧
    (∀ (history' : List Request) (s' : Source) (i : Nat) (text text' : Text),
      s.lines[i]? = some text → s'.lines[i]? = some text' →
      Line.withoutComment text = Line.withoutComment text' →
      (['$'.toUInt8, '('.toUInt8] <:+: Line.withoutComment text →
        ∀ name ≠ lineNumberName, latest? history name = latest? history' name) →
      assembly.outcomes[i]? = ((after I history').assemble I owner s').1.outcomes[i]?) ∧
    ∀ defs : List (Text × Text), (defs.map Prod.fst).Nodup →
      (∀ name ≠ lineNumberName, ∀ text,
        (name, text) ∈ defs ↔ latest? history name = some text) →
      ((new.predefineAll defs).assemble I owner s).1 = assembly := by
  intro assembly
  have houtcomes : assembly.outcomes = s.lines.mapIdx fun i text =>
      lineOutcome I owner (latest? history) (i + 1) (Line.withoutComment text) :=
    outcomes_assemble_after I history owner s
  refine ⟨⟨program_eq_outcomes I _ owner s, houtcomes, ?_⟩, ?_, ?_⟩
  · intro o ho
    rw [houtcomes] at ho
    obtain ⟨i, hi, rfl⟩ := List.mem_mapIdx.mp ho
    exact length_lineOutcome_le I owner _ _ _
  · intro history' s' i text text' hi hi' htext htexts
    rw [houtcomes, outcomes_assemble_after, List.getElem?_mapIdx, List.getElem?_mapIdx, hi, hi',
      Option.map_some, Option.map_some, ← htext, lineOutcome_congr I owner (i + 1) htexts]
  · intro defs hnodup hdefs
    have htexts : ∀ name ≠ lineNumberName,
        (new.predefineAll defs).predefined.text? name =
          (after I history).predefined.text? name := by
      intro name hname
      rw [text?_predefineAll_new hnodup, text?_after]
      refine Option.ext fun text => ?_
      exact (Equates.mem_iff_lookup hnodup).symm.trans (hdefs name hname text)
    exact fst_assemble_congr I (sorted_predefineAll_new defs) (sorted_after I history) htexts owner
      s

/-- A history with a text for the number of the line and a source in between, a bad line before the
line with an expression, and a comment after it. -/
theorem outcomes_independent_reused :
    let history : List Request :=
      [.predefine "LINENO" "99", .predefine "N" "1", .assemble ⟨1⟩ ⟨"MOV $(N), $(M)", none⟩,
        .predefine "N" "0x5"]
    let s : Source := ⟨"JMP\nJMP $(N + LINENO);back", none⟩
    let s' : Source := ⟨"MOV 0, 1\nJMP $(N + LINENO)\n", none⟩
    let fresh := new.predefineAll [("N", "0x5")]
    ((after Script.standard history).assemble Script.standard ⟨0⟩ s).1.outcomes[1]? =
        ((after Script.standard [.predefine "N" "0x5"]).assemble
          Script.standard ⟨0⟩ s').1.outcomes[1]? ∧
      (fresh.assemble Script.standard ⟨0⟩ s).1 =
        ((after Script.standard history).assemble Script.standard ⟨0⟩ s).1 := by
  intro history s s' fresh
  have hlatest : ∀ name ≠ lineNumberName,
      latest? history name = if name = ("N" : Text) then some ("0x5" : Text) else none := by
    intro name hname
    have hnumber : name ≠ ("LINENO" : Text) := hname
    by_cases hN : name = ("N" : Text) <;> simp [history, latest?, Request.text?, hnumber, hN]
  obtain ⟨-, hline, hfresh⟩ := outcomes_independent Script.standard history ⟨0⟩ s
  constructor
  · refine hline [.predefine "N" "0x5"] s' 1 ("JMP $(N + LINENO);back" : Text)
      ("JMP $(N + LINENO)" : Text) (by decide +kernel) (by decide +kernel) (by decide +kernel) ?_
    intro _ name hname
    rw [hlatest name hname]
    by_cases hN : name = ("N" : Text) <;> simp [latest?, Request.text?, hN]
  · refine hfresh [("N", "0x5")] (by decide) fun name hname text => ?_
    rw [hlatest name hname]
    by_cases hN : name = ("N" : Text) <;> simp [hN, eq_comm]

end Assembler

end CoreWar
