import CoreWar.Assembler.Basic
import CoreWar.Battle.Load
import CoreWar.Battle.Run
import CoreWar.Command.Options
import CoreWar.Report.CoreMap
import CoreWar.Report.Delivery
import CoreWar.Report.Log
import CoreWar.Report.Summary

/-!
# The command

The command reads its options and the sources of two warriors, has the warriors fight, and reports
how the match has ended. What it finds outside is its environment: the files, a generator of random
numbers for matches without a seed, and what others have made, the interpreter of expressions, the
version of Unicode and the way in which a snapshot is shown with every detail.

* `Command.plan` is what the command logs, reports and adds.
* `Plan.outcome` is what becomes of it on a standard output with limited room.
-/

namespace CoreWar

namespace Command

/-- What a directory delivers: it can be opened like a file, but not read. -/
def directory (path : Text) : Source :=
  ⟨[], some ("read " ++ path ++ ": is a directory")⟩

/-- What a command finds outside. -/
structure Environment where
  /-- The content of a file, or the reason why it cannot be opened. -/
  file : Text → Except Text Source
  /-- The generator for a match without a seed. -/
  generator : Pcg
  interpreter : Interpreter
  characters : Characters
  /-- A snapshot with every detail, for someone who examines the simulator itself. -/
  dump : Snapshot → Text

/-- What a command does: it logs lines, writes chunks to the standard output, and if all of them are
accepted it adds a text to what is logged and exits. -/
structure Plan where
  log : List Text
  chunks : List Text
  appendix : Text
  exitCode : UInt32

/-- What has become of a command. -/
structure Outcome where
  output : Text
  /-- What was written to the standard error. -/
  errors : Text
  exitCode : UInt32
  deriving DecidableEq, Repr

/-- Why a standard output without room has refused a chunk. -/
def writeFault : Text := "write /dev/stdout: no space left on device"

namespace Plan

/-- A plan that comes to its end before anything is reported. -/
def fatal (log : List Text) : Plan where
  log := log
  chunks := []
  appendix := []
  exitCode := 1

/-- What is written to the standard error after the chunks, and the exit code. -/
def ending (p : Plan) (complete : Bool) : Text × UInt32 :=
  if complete then (p.appendix, p.exitCode) else (Log.entry writeFault, 1)

/-- What becomes of a plan on a standard output that has room for a number of chunks, or for all. -/
def outcome (p : Plan) (room : Option Nat) : Outcome :=
  let delivery := Delivery.deliver room p.chunks
  let (errors, exitCode) := p.ending delivery.complete
  ⟨delivery.accepted, Log.written p.log ++ errors, exitCode⟩

end Plan

/-! ### Messages -/

def programName : Text := "mars"

/-- A message that the command gives under its own name. -/
def announced (message : Text) : Text :=
  programName ++ ": " ++ message

def usage : Text :=
  "Usage of " ++ programName ++ ":\n" ++ Flag.all.flatMap Flag.usage

def operandsMessage : Text :=
  announced ("usage: " ++ programName ++ " [flags] warrior0.red warrior1.red")

/-- The plan after a problem with the options: the problem and the explanation of all options. -/
def Problem.plan [Characters] (problem : Problem) : Plan :=
  let (message, exitCode) : Text × UInt32 :=
    match problem.message? with
    | some m => (m ++ "\n", 2)
    | none => ([], 0)
  { log := [], chunks := [], appendix := message ++ usage, exitCode := exitCode }

/-! ### Warriors -/

/-- What came of the source of a warrior. -/
structure Reading where
  /-- The lines that were logged; without a program the last one says why. -/
  log : List Text
  program? : Option Program

def about (path message : Text) : Text :=
  path ++ ": " ++ message

def readWarrior (env : Environment) (verbose : Bool) (asm : Assembler) (player : Player)
    (path : Text) : Reading :=
  match env.file path with
  | .error reason => ⟨[about path ("open " ++ path ++ ": " ++ reason)], none⟩
  | .ok source =>
    let assembly := (asm.assemble env.interpreter (.ofPlayer player) source).1
    let traced := if verbose then assembly.log else []
    match assembly.readError? with
    | some e => ⟨traced ++ [about path e.message], none⟩
    | none =>
      let program := assembly.program
      ⟨traced ++ program.errors.map fun e => about path e.message, some program⟩

/-! ### Matches -/

section Match

variable {size : CoreSize}

def newBattle (generator : Pcg) (o : Options) : Battle size :=
  let seed := UInt64.ofNat o.seed
  { Battle.blank (if o.seed = 0 then generator else .ofSeed seed seed) with
    verbose := o.verbose
    maxCycle := o.maxCycle }

/-- The line about the place in its source that a player has reached. -/
def placeLine (b : Battle size) (player : Player) (path : Text) (program : Program) : Text :=
  let offset := b.offset player
  let place : Text :=
    match program.instructionAt? offset.word with
    | some i => Text.ofNat i.lineNo ++ ": " ++ i.text
    | none => "+" ++ Text.ofNat offset.val
  about path (Text.ofInt b.cycle.toInt ++ ": " ++ place)

/-- The lines before a cycle: where each player is, if everything is logged. -/
def placeLog (verbose : Bool) (paths : Sides Text) (programs : Sides Program) (b : Battle size) :
    List Text :=
  if verbose then
    [placeLine b .a paths.a programs.a, placeLine b .b paths.b programs.b]
  else []

/-- The chunks that report a match: the core map, unless it is left out, and the summary. -/
def report (o : Options) (b : Battle size) : List Text :=
  (if o.quiet then [] else b.machine.core.map o.width) ++ b.snapshot.summary

/-- The plan that a loaded match is played, after lines that have been logged before. -/
def playPlan (env : Environment) (o : Options) (paths : Sides Text) (programs : Sides Program)
    (log : List Text) (b : Battle size) : Plan :=
  let (final, lines) := b.watch (placeLog o.verbose paths programs) log.reverse
  { log := lines.reverse
    chunks := report o final
    appendix := if o.dump then env.dump final.snapshot else []
    exitCode := 0 }

/-- The plan for two warriors that were assembled, after lines that have been logged before. -/
def loadPlan (env : Environment) (o : Options) (paths : Sides Text) (programs : Sides Program)
    (log : List Text) (b : Battle size) : Plan :=
  let first := programs.a.cells
  let second := programs.b.cells
  match b.load first second with
  | (_, some e) => .fatal (log ++ [announced e.message])
  | (b, none) => playPlan env o paths programs (log ++ b.loadLog first second) b

/-- The plan for a match between the warriors in two files. -/
def matchPlan (env : Environment) (o : Options) (size : CoreSize) (paths : Sides Text) : Plan :=
  let b : Battle size := newBattle env.generator o
  let asm := Assembler.new.predefineAll b.defines
  let first := readWarrior env o.verbose asm .a paths.a
  match first.program? with
  | none => .fatal first.log
  | some programA =>
    let second := readWarrior env o.verbose asm .b paths.b
    match second.program? with
    | none => .fatal (first.log ++ second.log)
    | some programB => loadPlan env o paths ⟨programA, programB⟩ (first.log ++ second.log) b

end Match

/-- What the command does with its arguments. -/
def plan (env : Environment) (arguments : List Text) : Plan :=
  match Options.default.parse arguments with
  | .error problem => @Problem.plan env.characters problem
  | .ok (o, [first, second]) =>
    match CoreSize.ofNat? o.coreSize with
    | none => .fatal [announced "core size must be positive"]
    | some size => matchPlan env o size ⟨first, second⟩
  | .ok _ => .fatal [operandsMessage]

def paths (arguments : List Text) : List Text :=
  match Options.default.parse arguments with
  | .ok (_, operands) => operands
  | .error _ => []

end Command

end CoreWar
