import CoreWar.Command.Basic
import CoreWar.Proofs.Battle.Load
import CoreWar.Proofs.Battle.Simulation
import CoreWar.Proofs.Report.CoreMap
import CoreWar.Script.Interpreter

/-!
# What the command reports

The command plays a match in a loop of its own, in which it looks at the players before each cycle.
The loop comes to the same end as the match (`watch_fst`), and what is logged on the way does not
change the match (`abreast_run_withLog`). So the standard output holds the core map and the summary
of the match played to its end, however much the command is asked to log or to dump
(`output_eq_report`).
-/

namespace CoreWar

variable {size : CoreSize}

lemma CoreSize.ofNat?_count (size : CoreSize) : ofNat? size.count = some size := by
  rw [ofNat?, dif_pos ⟨size.pos, size.lt⟩]

/-! ### Matches that are watched -/

namespace Battle

/-- Whatever is collected on the way, the loop that plays a match comes to the end of the match. -/
lemma watch_fst (before : Battle size → List Text) (b : Battle size) (lines : List Text) :
    (b.watch before lines).1 = b.run := by
  fun_induction watch before b lines with
  | case1 b lines collected next hnext =>
    obtain ⟨rfl, hover⟩ := tick_of_playCycle hnext
    rw [run_eq, if_pos hover]
  | case2 b lines collected next hnext ih =>
    obtain ⟨rfl, -⟩ := tick_of_playCycle hnext
    rw [ih, run_tick]

/-- The match with other flags for its log and for that of its machine. -/
def withLog (b : Battle size) (verbose traced : Bool) : Battle size :=
  { b with verbose := verbose, traced := traced }

lemma load_withLog (b : Battle size) (verbose traced : Bool) (first second : List Cell) :
    (b.withLog verbose traced).load first second =
      let (loaded, error?) := b.load first second
      (loaded.withLog verbose (if error?.isNone then verbose else traced), error?) := by
  unfold load
  split_ifs
  · rfl
  · rfl

lemma Abreast.snapshot {b b' : Battle size} (h : Abreast Eq b b') : b'.snapshot = b.snapshot := by
  obtain ⟨hmachine, hcycle, -, hstatus, hreason, hblamed⟩ := h
  rw [Battle.snapshot, Battle.snapshot, hmachine, hcycle, hstatus, hreason, hblamed]

/-- What is logged leaves no trace in the machine or the snapshot of a match at its end. -/
lemma abreast_run_withLog (b : Battle size) (verbose traced : Bool) :
    Abreast Eq b.run (b.withLog verbose traced).run := by
  have hlockstep : Machine.Lockstep (Eq : Machine size → Machine size → Prop) :=
    ⟨fun p h => by rw [h], fun p h => by rw [h]⟩
  have h : Abreast Eq b (b.withLog verbose traced) := ⟨rfl, rfl, rfl, rfl, rfl, rfl⟩
  exact h.run hlockstep

end Battle

/-! ### Plans -/

namespace Command

lemma output_outcome_none (plan : Plan) : (plan.outcome none).output = plan.chunks.flatten := by
  simp only [Plan.outcome, Delivery.deliver_none]

/-- The warriors that one assembler, which knows the numbers of a match, makes of two texts one
after the other. -/
def warriors (I : Interpreter) (b : Battle size) (texts : Sides Text) : Sides Program :=
  let first := (Assembler.new.predefineAll b.defines).assemble I (.ofPlayer .a) ⟨texts.a, none⟩
  let second := first.2.assemble I (.ofPlayer .b) ⟨texts.b, none⟩
  ⟨first.1.program, second.1.program⟩

lemma warriors_withLog (I : Interpreter) (b : Battle size) (verbose traced : Bool)
    (texts : Sides Text) : warriors I (b.withLog verbose traced) texts = warriors I b texts := rfl

section

variable (env : Environment)

/-- A file that can be read gives a warrior, whatever is logged about it. -/
lemma program?_readWarrior {path t : Text} (hfile : env.file path = .ok ⟨t, none⟩)
    (hlines : ∀ l ∈ Source.rawLines t, Source.fits l = true) (verbose : Bool) (asm : Assembler)
    (p : Player) :
    (readWarrior env verbose asm p path).program? =
      some (asm.assemble env.interpreter (.ofPlayer p) ⟨t, none⟩).1.program := by
  have hread : (asm.assemble env.interpreter (.ofPlayer p) ⟨t, none⟩).1.readError? = none :=
    Source.readError?_of_fits hlines
  simp only [readWarrior, hfile, hread]

variable {o : Options} {paths texts : Sides Text} {loaded : Battle size}
  (hfile : ∀ p, env.file (paths.get p) = .ok ⟨texts.get p, none⟩)
  (hlines : ∀ p, ∀ l ∈ Source.rawLines (texts.get p), Source.fits l = true)

/-- A match whose warriors are loaded is reported as it ends. -/
lemma chunks_loadPlan {b : Battle size} {programs : Sides Program}
    (hload : b.load programs.a.cells programs.b.cells = (loaded, none)) (paths : Sides Text)
    (log : List Text) : (loadPlan env o paths programs log b).chunks = report o loaded.run := by
  simp only [loadPlan, hload, playPlan, Battle.watch_fst]

include hfile hlines

/-- Two files that can be read lead to the load of their warriors. -/
lemma exists_matchPlan_eq (size : CoreSize) (o : Options) :
    ∃ log, matchPlan env o size paths =
      loadPlan env o paths
        (warriors env.interpreter (newBattle env.generator o : Battle size) texts) log
        (newBattle env.generator o : Battle size) := by
  have hfirst := program?_readWarrior env (hfile .a) (hlines .a)
  have hsecond := program?_readWarrior env (hfile .b) (hlines .b)
  simp only [Sides.get] at hfirst hsecond
  simp only [matchPlan, hfirst, hsecond]
  exact ⟨_, rfl⟩

/-- What a match with two files that can be read writes to the standard output. -/
lemma output_matchPlan (hload : (newBattle env.generator o : Battle size).load
      (warriors env.interpreter (newBattle env.generator o : Battle size) texts).a.cells
      (warriors env.interpreter (newBattle env.generator o : Battle size) texts).b.cells =
        (loaded, none)) :
    ((matchPlan env o size paths).outcome none).output = (report o loaded.run).flatten := by
  obtain ⟨log, hplan⟩ := exists_matchPlan_eq env hfile hlines size o
  rw [output_outcome_none, hplan, chunks_loadPlan env hload]

end

/-- With a seed that is given, a new match differs from another one in its log at most. -/
lemma newBattle_eq_withLog {o : Options} (hseed : o.seed ≠ 0) (generator generator' : Pcg)
    (verbose dump : Bool) :
    (newBattle generator' { o with verbose := verbose, dump := dump } : Battle size) =
      (newBattle generator o).withLog verbose false := by
  simp only [newBattle, if_neg hseed]
  rfl

lemma plan_eq_matchPlan (env : Environment) {arguments : List Text} {o : Options}
    {paths : Sides Text} (hargs : Options.default.parse arguments = .ok (o, [paths.a, paths.b]))
    (hsize : o.coreSize = size.count) : plan env arguments = matchPlan env o size paths := by
  simp only [plan, hargs, hsize, CoreSize.ofNat?_count]

lemma flatten_report (o : Options) (b : Battle size) :
    (report o b).flatten =
      (if o.quiet then [] else (b.machine.core.map o.width).flatten) ++
        b.snapshot.summary.flatten := by
  rw [report, List.flatten_append, apply_ite List.flatten]
  rfl

/-- A report shows the core and the snapshot of a match, and depends on no option about logs. -/
lemma report_of_abreast {b b' : Battle size} (h : Battle.Abreast Eq b b') (o : Options)
    (verbose dump : Bool) : report { o with verbose := verbose, dump := dump } b' = report o b := by
  rw [report, report, h.snapshot, ← h.machine]

/-- The standard output of the command is the report on the match. If both files can be read and
their warriors fit, the loop of the command comes to the end of the match that is played from the
same load, and the output is the map of its core, unless it is left out, and its summary. With a
seed that is given, nothing but the files and the options decides the output, and among the options
neither the logging of everything nor the dump. -/
theorem output_eq_report (env : Environment) {arguments : List Text} {o : Options}
    {paths : Sides Text}
    (hargs : Options.default.parse arguments = .ok (o, [paths.a, paths.b]))
    (hsize : o.coreSize = size.count) (hseed : o.seed ≠ 0) {texts : Sides Text}
    (hfile : ∀ p, env.file (paths.get p) = .ok ⟨texts.get p, none⟩)
    (hlines : ∀ p, ∀ l ∈ Source.rawLines (texts.get p), Source.fits l = true)
    (hfit :
      let programs := warriors env.interpreter (newBattle env.generator o : Battle size) texts
      programs.a.cells.length + programs.b.cells.length ≤ size.count) :
    let b : Battle size := newBattle env.generator o
    let programs := warriors env.interpreter b texts
    ∃ loaded, b.load programs.a.cells programs.b.cells = (loaded, none) ∧
      (∀ before lines, (loaded.watch before lines).1 = loaded.run) ∧
      ((plan env arguments).outcome none).output =
        (if o.quiet then [] else (loaded.run.machine.core.map o.width).flatten) ++
          loaded.run.snapshot.summary.flatten ∧
      ∀ (generator : Pcg) (verbose dump : Bool) (arguments' : List Text),
        Options.default.parse arguments' =
          .ok ({ o with verbose := verbose, dump := dump }, [paths.a, paths.b]) →
        ((plan { env with generator := generator } arguments').outcome none).output =
          ((plan env arguments).outcome none).output := by
  intro b programs
  obtain ⟨loaded, hload⟩ := b.exists_load_of_fits hfit
  have houtput : ((plan env arguments).outcome none).output = (report o loaded.run).flatten := by
    rw [plan_eq_matchPlan env hargs hsize]
    exact output_matchPlan env hfile hlines hload
  refine ⟨loaded, hload, fun before lines => loaded.watch_fst before lines, ?_, ?_⟩
  · rw [houtput, flatten_report]
  · intro generator verbose dump arguments' hargs'
    let o' : Options := { o with verbose := verbose, dump := dump }
    have hnew : (newBattle generator o' : Battle size) = b.withLog verbose false :=
      newBattle_eq_withLog hseed env.generator generator verbose dump
    have hload' : (newBattle generator o' : Battle size).load
        (warriors env.interpreter (newBattle generator o' : Battle size) texts).a.cells
        (warriors env.interpreter (newBattle generator o' : Battle size) texts).b.cells =
          (loaded.withLog verbose verbose, none) := by
      rw [hnew, warriors_withLog, Battle.load_withLog, hload]
      rfl
    have houtput' := output_matchPlan { env with generator := generator } hfile hlines hload'
    rw [houtput, plan_eq_matchPlan _ hargs' hsize, houtput',
      report_of_abreast (loaded.abreast_run_withLog verbose verbose)]

/-- An imp against a warrior with a line that is skipped, with and without the log and the dump. -/
theorem output_eq_report_imp :
    let env : Environment :=
      ⟨fun path => if path = ("imp" : Text) then .ok ⟨"MOV 0, 1", none⟩
        else .ok ⟨"ADD #4, 3\nJMP %1\nJMP @-1 ; back\n", none⟩,
        ⟨0⟩, Script.standard, Unicode.version17, Snapshot.dump⟩
    let arguments : List Text := ["-s", "7", "-c=8", "-m", "3", "imp", "dwarf"]
    ∃ (o : Options) (loaded : Battle ⟨8, by decide, by decide⟩),
      Options.default.parse arguments = .ok (o, ["imp", "dwarf"]) ∧
      ((plan env arguments).outcome none).output =
        (loaded.run.machine.core.map 80).flatten ++ loaded.run.snapshot.summary.flatten ∧
      ((plan env ("-v" :: "-dump" :: arguments)).outcome none).output =
        ((plan env arguments).outcome none).output := by
  intro env arguments
  let o : Options := { Options.default with seed := 7, coreSize := 8, maxCycle := 3 }
  let paths : Sides Text := ⟨"imp", "dwarf"⟩
  let texts : Sides Text := ⟨"MOV 0, 1", "ADD #4, 3\nJMP %1\nJMP @-1 ; back\n"⟩
  have hargs : Options.default.parse arguments = .ok (o, [paths.a, paths.b]) := by rfl
  have hargs' : Options.default.parse ("-v" :: "-dump" :: arguments) =
      .ok ({ o with verbose := true, dump := true }, [paths.a, paths.b]) := by rfl
  have hfile : ∀ p, env.file (paths.get p) = .ok ⟨texts.get p, none⟩ := by
    intro p
    cases p <;> rfl
  have hlines : ∀ p, ∀ l ∈ Source.rawLines (texts.get p), Source.fits l = true := by
    intro p
    cases p <;> decide +kernel
  have hfit :
      let programs := warriors env.interpreter
        (newBattle env.generator o : Battle ⟨8, by decide, by decide⟩) texts
      programs.a.cells.length + programs.b.cells.length ≤ 8 := by
    decide +kernel
  obtain ⟨loaded, -, -, houtput, hsame⟩ :=
    output_eq_report env hargs rfl (by decide) hfile hlines hfit
  exact ⟨o, loaded, hargs, houtput, hsame env.generator true true _ hargs'⟩

end Command

end CoreWar
