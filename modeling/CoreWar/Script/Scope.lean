import CoreWar.Script.Suggestion
import CoreWar.Script.Term

/-!
# Names and arguments

A program is looked through before anything is evaluated. The arguments of calls have to come in
order, in limited number and without repetition, and no variable may be given a value twice. Then
names are looked up: a name is a variable of the program itself, an equate or a name known to every
expression, in this order. The first name that is none of these is a fault, even if its value would
never be needed.
-/

namespace CoreWar

namespace Script

variable [Characters]

/-- Where something stands in the program of an expression. -/
def Place.render (p : Place) : Text :=
  "expr:" ++ Text.ofNat p.line ++ ":" ++ Text.ofNat p.column

/-- The kinds of arguments, in the order in which they have to come. -/
inductive ArgumentKind where
  | positional
  | named
  | elements
  | entries
  deriving DecidableEq, Repr

/-- What can be wrong with a program before it is evaluated. -/
inductive ScopeFault where
  /-- A name is not defined; another one may have been meant. -/
  | undefined (place : Place) (name : Text) (meant : Option Text)
  /-- A variable is given a value once more. -/
  | reassigned (place : Place) (name : Text) (first : Place)
  /-- An argument comes after one that has to be the last of its kind. -/
  | misplaced (place : Place) (kind after : ArgumentKind)
  /-- An argument has the name of an earlier one. -/
  | repeatedName (place : Place) (name : Text)
  /-- A call has too many arguments of a kind. -/
  | tooMany (place : Place) (kind : ArgumentKind) (count : Nat)

def argumentLimit : Nat := 255

def ArgumentKind.label : ArgumentKind → Text
  | positional => "positional argument"
  | named => "keyword argument"
  | elements => "*args"
  | entries => "**kwargs"

/-- How arguments that have come before are called. -/
def ArgumentKind.earlierLabel : ArgumentKind → Text
  | named => "named"
  | kind => kind.label

namespace ScopeFault

def place : ScopeFault → Place
  | undefined p _ _ => p
  | reassigned p _ _ => p
  | misplaced p _ _ => p
  | repeatedName p _ => p
  | tooMany p _ _ => p

/-- The words for the fault, apart from its place. -/
def description : ScopeFault → Text
  | undefined _ name meant => "undefined: " ++ name ++ hint meant
  | reassigned _ name first =>
    "cannot reassign global " ++ name ++ " declared at " ++ first.render
  | misplaced _ kind after =>
    if kind = after then "multiple " ++ kind.label ++ " not allowed"
    else kind.label ++ " may not follow " ++ after.earlierLabel
  | repeatedName _ name => "keyword argument " ++ Text.quoted name ++ " is repeated"
  | tooMany _ kind count =>
    Text.ofNat count ++ " " ++ kind.label ++ "s in call, limit is " ++ Text.ofNat argumentLimit

def message (f : ScopeFault) : Text :=
  f.place.render ++ ": " ++ f.description

end ScopeFault

/-! ### Arguments -/

namespace Argument

def kind : Argument → ArgumentKind
  | positional .. => .positional
  | named .. => .named
  | elements .. => .elements
  | entries .. => .entries

def place : Argument → Place
  | positional p _ => p
  | named p _ _ => p
  | elements p _ => p
  | entries p _ => p

/-- The name of an argument, if it has one. -/
def name? : Argument → Option Text
  | named _ n _ => some n
  | _ => none

end Argument

/-- What matters of the arguments of a call that have been looked at: the names of those that have
one, and whether there have been arguments of the last two kinds. -/
structure Seen where
  names : List Text
  elements : Bool
  entries : Bool

namespace Seen

def none : Seen := ⟨[], false, false⟩

def add (seen : Seen) : Argument → Seen
  | .positional .. => seen
  | .named _ n _ => { seen with names := n :: seen.names }
  | .elements .. => { seen with elements := true }
  | .entries .. => { seen with entries := true }

/-- Whether there has been an argument of a kind that others must not follow. -/
def has (seen : Seen) : ArgumentKind → Bool
  | .positional => false
  | .named => !seen.names.isEmpty
  | .elements => seen.elements
  | .entries => seen.entries

/-- The kind of earlier arguments that an argument of a kind must not follow. -/
def obstacle? (seen : Seen) : ArgumentKind → Option ArgumentKind
  | .positional => [.elements, .entries, .named].find? seen.has
  | .named => [.entries, .elements].find? seen.has
  | .elements => [.entries, .elements].find? seen.has
  | .entries => [.entries].find? seen.has

/-- What is wrong with an argument after those already seen. -/
def fault? (seen : Seen) (a : Argument) : Option ScopeFault :=
  match seen.obstacle? a.kind, a.name? with
  | some k, _ => some (.misplaced a.place a.kind k)
  | .none, some n =>
    if seen.names.contains n then some (.repeatedName a.place n) else .none
  | .none, .none => .none

end Seen

/-- What is wrong with the number of arguments of a call that starts at a place. -/
def countFault? (place : Place) (args : List Argument) : Option ScopeFault :=
  [ArgumentKind.positional, .named].findSome? fun k =>
    let count := args.countP fun a => a.kind == k
    if argumentLimit < count then some (.tooMany place k count) else none

mutual

/-- The first fault of the calls in a term. Names are not looked up; the condition of a choice comes
first. -/
def Term.callFault? : Term → Option ScopeFault
  | .name _ _ => none
  | .literal _ => none
  | .unary _ x => x.callFault?
  | .binary _ x y => x.callFault? <|> y.callFault?
  | .sum s => s.callFault?
  | .and x y => x.callFault? <|> y.callFault?
  | .or x y => x.callFault? <|> y.callFault?
  | .choice condition yes no => condition.callFault? <|> yes.callFault? <|> no.callFault?
  | .list xs => callFaultOf? xs
  | .tuple xs => callFaultOf? xs
  | .index x i => x.callFault? <|> i.callFault?
  | .call place f args =>
    f.callFault? <|> argumentFaultOf? .none args <|> countFault? place args
  | .member x _ => x.callFault?

def callFaultOf? : List Term → Option ScopeFault
  | [] => none
  | x :: xs => x.callFault? <|> callFaultOf? xs

/-- The first fault of the calls in the term of an argument. -/
def Argument.callFault? : Argument → Option ScopeFault
  | .positional _ x => x.callFault?
  | .named _ _ x => x.callFault?
  | .elements _ x => x.callFault?
  | .entries _ x => x.callFault?

/-- The first fault of arguments after those already seen. -/
def argumentFaultOf? (seen : Seen) : List Argument → Option ScopeFault
  | [] => none
  | a :: args => seen.fault? a <|> a.callFault? <|> argumentFaultOf? (seen.add a) args

/-- The first fault of the calls in the summands of a sum. -/
def Summands.callFault? : Summands → Option ScopeFault
  | .single x => x.callFault?
  | .plus s x => s.callFault? <|> x.callFault?

end

/-- The first fault of the statements of a program, where variables that have been given a value are
known by their first places. -/
def Program.statementFault? (first : List (Text × Place)) : Program → Option ScopeFault
  | [] => none
  | s :: rest =>
    s.term.callFault? <|>
      match s.target? with
      | none => statementFault? first rest
      | some (place, n) =>
        match first.lookup n with
        | some earlier => some (.reassigned place n earlier)
        | none => statementFault? ((n, place) :: first) rest

/-! ### Names -/

/-- The names that a program may use. -/
structure Scope where
  /-- The variables that the program gives values to. -/
  targets : List Text
  /-- The integers that equates stand for. -/
  equate? : Text → Option Int64

namespace Scope

def defines (s : Scope) (n : Text) : Bool :=
  s.targets.contains n || (s.equate? n).isSome || (Value.universal? n).isSome

end Scope

mutual

/-- The names of a term, in the order in which they are looked up, and more names after them. The
condition of a choice comes first. -/
def Term.namesBefore (rest : List (Place × Text)) : Term → List (Place × Text)
  | .name p n => (p, n) :: rest
  | .literal _ => rest
  | .unary _ x => x.namesBefore rest
  | .binary _ x y => x.namesBefore (y.namesBefore rest)
  | .sum s => s.namesBefore rest
  | .and x y => x.namesBefore (y.namesBefore rest)
  | .or x y => x.namesBefore (y.namesBefore rest)
  | .choice condition yes no =>
    condition.namesBefore (yes.namesBefore (no.namesBefore rest))
  | .list xs => namesOfTerms rest xs
  | .tuple xs => namesOfTerms rest xs
  | .index x i => x.namesBefore (i.namesBefore rest)
  | .call _ f args => f.namesBefore (namesOfArguments rest args)
  | .member x _ => x.namesBefore rest

/-- The names of several terms, and more names after them. -/
def namesOfTerms (rest : List (Place × Text)) : List Term → List (Place × Text)
  | [] => rest
  | x :: xs => x.namesBefore (namesOfTerms rest xs)

/-- The names of the term of an argument, and more names after them. -/
def Argument.namesBefore (rest : List (Place × Text)) : Argument → List (Place × Text)
  | .positional _ x => x.namesBefore rest
  | .named _ _ x => x.namesBefore rest
  | .elements _ x => x.namesBefore rest
  | .entries _ x => x.namesBefore rest

/-- The names of several arguments, and more names after them. -/
def namesOfArguments (rest : List (Place × Text)) : List Argument → List (Place × Text)
  | [] => rest
  | a :: args => a.namesBefore (namesOfArguments rest args)

/-- The names of the summands of a sum, and more names after them. -/
def Summands.namesBefore (rest : List (Place × Text)) : Summands → List (Place × Text)
  | .single x => x.namesBefore rest
  | .plus s x => s.namesBefore (x.namesBefore rest)

end

def Term.names (x : Term) : List (Place × Text) :=
  x.namesBefore []

def Program.names (p : Program) : List (Place × Text) :=
  p.flatMap fun s => s.term.names

def Scope.sortedTargets (s : Scope) : List Text :=
  s.targets.mergeSort fun a b => (Ord.compare a b).isLE

/-- The first name of a program that is not defined. A variable of the program may have been
meant. -/
def Program.undefined? (p : Program) (s : Scope) : Option ScopeFault :=
  (p.names.find? fun n => !s.defines n.2).map fun (place, n) =>
    .undefined place n (nearest? n s.sortedTargets)

/-- What is wrong with a program before it is evaluated. -/
def Program.scopeFault? (p : Program) (s : Scope) : Option ScopeFault :=
  p.statementFault? [] <|> p.undefined? s

end Script

end CoreWar
