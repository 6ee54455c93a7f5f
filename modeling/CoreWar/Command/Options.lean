import CoreWar.Text.Decimal
import CoreWar.Text.Numeral
import CoreWar.Text.Quoted

/-!
# Options

The arguments of the command start with options. An option is one or two dashes and a name. A
switch may carry its value after an equals sign; every other option has a number, after an equals
sign or as the next argument. The first argument that is no option ends the options, and so do two
dashes alone, which are dropped.
-/

namespace CoreWar

namespace Command

structure Options where
  /-- The seed of the random placement; zero asks for one that cannot be foreseen. -/
  seed : Nat
  coreSize : Nat
  maxCycle : Int64
  /-- The cells in a row of the core map. -/
  width : Int64
  /-- Whether everything is logged. -/
  verbose : Bool
  /-- Whether the core map is left out. -/
  quiet : Bool
  /-- Whether every detail of the final state is shown. -/
  dump : Bool
  deriving DecidableEq, Repr

namespace Options

def default : Options where
  seed := 0
  coreSize := 8000
  maxCycle := 80000
  width := 80
  verbose := false
  quiet := false
  dump := false

end Options

/-! ### Flags -/

inductive Flag where
  | coreSize
  | dump
  | maxCycle
  | quiet
  | seed
  | verbose
  | width
  deriving DecidableEq, Repr

inductive FlagKind where
  | switch
  | unsigned
  | signed
  deriving DecidableEq, Repr

namespace Flag

/-- All options, sorted by name. -/
def all : List Flag :=
  [coreSize, dump, maxCycle, quiet, seed, verbose, width]

def name : Flag → Text
  | coreSize => "c"
  | dump => "dump"
  | maxCycle => "m"
  | quiet => "q"
  | seed => "s"
  | verbose => "v"
  | width => "w"

def ofName? (t : Text) : Option Flag :=
  all.find? fun flag => flag.name = t

def kind : Flag → FlagKind
  | coreSize | seed => .unsigned
  | maxCycle | width => .signed
  | dump | quiet | verbose => .switch

def purpose : Flag → Text
  | coreSize => "Core size"
  | dump => "Dump the final game state"
  | maxCycle => "Cycles before a draw"
  | quiet => "Omit the core map"
  | seed => "Random seed for warrior placement (0 for random)"
  | verbose => "Verbose mode"
  | width => "Core map width"

/-- The number that an option has unless it is given, if that is not zero. -/
def default? : Flag → Option Int
  | coreSize => some Options.default.coreSize
  | maxCycle => some Options.default.maxCycle.toInt
  | width => some Options.default.width.toInt
  | _ => none

/-- The explanation of an option. Its purpose stands on a line of its own unless what comes before
is short enough for a tab to follow it. -/
def usage (flag : Flag) : Text :=
  let value : Text :=
    match flag.kind with
    | .switch => []
    | .unsigned => " uint"
    | .signed => " int"
  let head : Text := "  -" ++ flag.name ++ value
  let gap : Text := if head.length ≤ 4 then "\t" else "\n    \t"
  let standard : Text :=
    match flag.default? with
    | some i => " (default " ++ Text.ofInt i ++ ")"
    | none => []
  head ++ gap ++ flag.purpose ++ standard ++ "\n"

end Flag

/-! ### Problems -/

/-- Why the options cannot be followed. -/
inductive Problem where
  /-- The explanation of the options is asked for. -/
  | help
  | malformed (argument : Text)
  | undefined (name : Text)
  | valueMissing (flag : Flag)
  | switchInvalid (flag : Flag) (value : Text)
  | numberInvalid (flag : Flag) (value : Text) (fault : Numeral.Fault)
  deriving DecidableEq, Repr

def numberFault : Numeral.Fault → Text
  | .malformed => "parse error"
  | .outOfRange => "value out of range"

/-- The words for a problem, unless it is just a question. -/
def Problem.message? [Characters] : Problem → Option Text
  | help => none
  | malformed argument => some ("bad flag syntax: " ++ argument)
  | undefined name => some ("flag provided but not defined: -" ++ name)
  | valueMissing flag => some ("flag needs an argument: -" ++ flag.name)
  | switchInvalid flag value =>
    some ("invalid boolean value " ++ value.quoted ++ " for -" ++ flag.name ++ ": parse error")
  | numberInvalid flag value fault =>
    some ("invalid value " ++ value.quoted ++ " for flag -" ++ flag.name ++ ": " ++
      numberFault fault)

/-! ### Arguments -/

/-- What an argument is as long as options are read. -/
inductive Argument where
  /-- No option. -/
  | operand
  /-- The end of the options. -/
  | terminator
  | malformed
  | option (name : Text) (value? : Option Text)
  deriving DecidableEq, Repr

/-- The name of an option and its value after the first equals sign that does not start the name. -/
def splitValue : Text → Text × Option Text
  | [] => ([], none)
  | b :: rest =>
    let name := b :: rest.takeWhile (· != '='.toUInt8)
    match rest.dropWhile (· != '='.toUInt8) with
    | [] => (name, none)
    | _ :: value => (name, some value)

def Argument.ofBody (body : Text) : Argument :=
  match body with
  | [] => .malformed
  | b :: _ =>
    if b = '-'.toUInt8 ∨ b = '='.toUInt8 then .malformed
    else .option (splitValue body).1 (splitValue body).2

def Argument.ofText : Text → Argument
  | b :: c :: rest =>
    if b ≠ '-'.toUInt8 then .operand
    else if c ≠ '-'.toUInt8 then .ofBody (c :: rest)
    else if rest = [] then .terminator
    else .ofBody rest
  | _ => .operand

def switchValue? (t : Text) : Option Bool :=
  let spelled (words : List String) : Bool := words.any fun w => Text.ofString w = t
  if spelled ["1", "t", "T", "true", "TRUE", "True"] then some true
  else if spelled ["0", "f", "F", "false", "FALSE", "False"] then some false
  else none

namespace Options

def setSwitch (o : Options) (on : Bool) : Flag → Options
  | .dump => { o with dump := on }
  | .quiet => { o with quiet := on }
  | .verbose => { o with verbose := on }
  | _ => o

def setUnsigned (o : Options) (n : Nat) : Flag → Options
  | .coreSize => { o with coreSize := n }
  | .seed => { o with seed := n }
  | _ => o

def setSigned (o : Options) (i : Int64) : Flag → Options
  | .maxCycle => { o with maxCycle := i }
  | .width => { o with width := i }
  | _ => o

def set (o : Options) (flag : Flag) (value : Text) : Except Problem Options :=
  match flag.kind with
  | .switch =>
    match switchValue? value with
    | some on => .ok (o.setSwitch on flag)
    | none => .error (.switchInvalid flag value)
  | .unsigned =>
    match Numeral.unsigned value with
    | .ok n => .ok (o.setUnsigned n flag)
    | .error fault => .error (.numberInvalid flag value fault)
  | .signed =>
    match Numeral.signed value with
    | .ok i => .ok (o.setSigned i flag)
    | .error fault => .error (.numberInvalid flag value fault)

/-- The options after the leading options among the arguments, and the other arguments. An option
that is given twice has the value that it is given last. -/
def parse (o : Options) : List Text → Except Problem (Options × List Text)
  | [] => .ok (o, [])
  | argument :: rest =>
    match Argument.ofText argument with
    | .operand => .ok (o, argument :: rest)
    | .terminator => .ok (o, rest)
    | .malformed => .error (.malformed argument)
    | .option name value? =>
      match Flag.ofName? name with
      | none =>
        if name = ("h" : Text) ∨ name = ("help" : Text) then .error .help
        else .error (.undefined name)
      | some flag =>
        match value?, flag.kind, rest with
        | some value, _, rest => do parse (← o.set flag value) rest
        | none, .switch, rest => parse (o.setSwitch true flag) rest
        | none, _, value :: rest => do parse (← o.set flag value) rest
        | none, _, [] => .error (.valueMissing flag)

end Options

end Command

end CoreWar
