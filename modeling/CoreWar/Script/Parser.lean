import CoreWar.Script.Term

/-!
# Reading terms

Terms are read from tokens by recursive descent. From the loosest to the tightest binding, the
levels are `or`, `and`, `not`, the comparisons, which do not chain, `|`, `^`, `&`, the shifts, sums
and products; then come signs, and at last calls and indices. A choice `x if c else y` binds more
loosely than all of them.

Every reader takes the tokens that are left and returns what it has read and the tokens after it.
Between two tokens the readers call each other through no more than a fixed number of levels, so a
fuel in proportion to the number of tokens is enough.
-/

namespace CoreWar

namespace Script

namespace Parser

/-- What a reader has read and the tokens after it. -/
abbrev Parsed (α : Type) := α × List Lexeme

/-- The levels of the binary operations, the loosest first. -/
inductive Level where
  | or
  | and
  | not
  | comparison
  | bitOr
  | bitXor
  | bitAnd
  | shift
  | sum
  | product

def Level.next? : Level → Option Level
  | or => some and
  | and => some not
  | not => some comparison
  | comparison => some bitOr
  | bitOr => some bitXor
  | bitXor => some bitAnd
  | bitAnd => some shift
  | shift => some sum
  | sum => some product
  | product => none

/-- The operation of a level that a token stands for. -/
def Level.operation? : Level → Token → Option (Term → Term → Term)
  | .or, .keyword .or => some .or
  | .and, .keyword .and => some .and
  | .comparison, .symbol .equal => some (.binary .eq)
  | .comparison, .symbol .unequal => some (.binary .ne)
  | .comparison, .symbol .less => some (.binary (.order .lt))
  | .comparison, .symbol .atMost => some (.binary (.order .le))
  | .comparison, .symbol .greater => some (.binary (.order .gt))
  | .comparison, .symbol .atLeast => some (.binary (.order .ge))
  | .comparison, .keyword .isIn => some (.binary .isIn)
  | .bitOr, .symbol .bar => some (.binary .bitOr)
  | .bitXor, .symbol .caret => some (.binary .bitXor)
  | .bitAnd, .symbol .ampersand => some (.binary .bitAnd)
  | .shift, .symbol .shiftLeft => some (.binary .shiftLeft)
  | .shift, .symbol .shiftRight => some (.binary .shiftRight)
  | .sum, .symbol .plus => some .add
  | .sum, .symbol .minus => some (.binary .sub)
  | .product, .symbol .star => some (.binary .mul)
  | .product, .symbol .slash => some (.binary .div)
  | .product, .symbol .floorDiv => some (.binary .floorDiv)
  | .product, .symbol .percent => some (.binary .mod)
  | _, _ => none

/-- The operation of a level at the start of the tokens. -/
def Level.operationAt? : Level → List Lexeme → Option (Parsed (Term → Term → Term))
  | .comparison, ⟨.keyword .not, _⟩ :: ⟨.keyword .isIn, _⟩ :: rest => some (.binary .isNotIn, rest)
  | l, t :: rest => (l.operation? t.token).map fun f => (f, rest)
  | _, [] => none

/-- Whether operations of a level may follow each other without parentheses. -/
def Level.chains : Level → Bool
  | .comparison => false
  | _ => true

/-- The sign in front of a term that a token stands for. -/
def signOf? : Token → Option UnaryOp
  | .symbol .plus => some .plus
  | .symbol .minus => some .minus
  | .symbol .tilde => some .invert
  | _ => none

def expect (s : Symbol) : List Lexeme → Option (List Lexeme)
  | ⟨.symbol t, _⟩ :: rest => if s = t then some rest else none
  | _ => none

def startsWith (s : Symbol) (ts : List Lexeme) : Bool :=
  (expect s ts).isSome

/-- Whether a sequence of terms ends here: at the end of a line or in front of a closing bracket or
an assignment. -/
def endsSequence : List Lexeme → Bool
  | [] => true
  | ⟨.newline, _⟩ :: _ => true
  | ts => startsWith .closeParen ts || startsWith .closeBracket ts || startsWith .assign ts

mutual

/-- A term, possibly a choice. -/
def term : Nat → List Lexeme → Option (Parsed Term)
  | 0, _ => none
  | fuel + 1, ts => do
    let (x, ts) ← operations fuel .or ts
    match ts with
    | ⟨.keyword .if, _⟩ :: ts =>
      let (c, ts) ← operations fuel .or ts
      match ts with
      | ⟨.keyword .else, _⟩ :: ts =>
        let (y, ts) ← term fuel ts
        some (.choice c x y, ts)
      | _ => none
    | _ => some (x, ts)

/-- A term of operations that bind at least as tightly as a level. -/
def operations : Nat → Level → List Lexeme → Option (Parsed Term)
  | 0, _, _ => none
  | fuel + 1, .not, ⟨.keyword .not, _⟩ :: ts => do
    let (x, ts) ← operations fuel .not ts
    some (.unary .not x, ts)
  | fuel + 1, l, ts => do
    let (x, ts) ← operand fuel l ts
    operationsAfter fuel l x ts

def operand : Nat → Level → List Lexeme → Option (Parsed Term)
  | 0, _, _ => none
  | fuel + 1, l, ts =>
    match l.next? with
    | some l => operations fuel l ts
    | none => primary fuel ts

def operationsAfter : Nat → Level → Term → List Lexeme → Option (Parsed Term)
  | 0, _, _, _ => none
  | fuel + 1, l, x, ts =>
    match l.operationAt? ts with
    | some (f, ts) => do
      let (y, ts) ← operand fuel l ts
      if l.chains then operationsAfter fuel l (f x y) ts
      else if (l.operationAt? ts).isSome then none
      else some (f x y, ts)
    | none => some (x, ts)

/-- A term without operations, or one with a sign in front. -/
def primary : Nat → List Lexeme → Option (Parsed Term)
  | 0, _ => none
  | fuel + 1, t :: ts =>
    match signOf? t.token with
    | some op => do
      let (x, ts) ← primary fuel ts
      some (.unary op x, ts)
    | none => do
      let (x, ts) ← atom fuel t ts
      suffixes fuel t.place x ts
  | _ + 1, [] => none

/-- The term that starts with a token which is no sign in front of it. -/
def atom : Nat → Lexeme → List Lexeme → Option (Parsed Term)
  | 0, _, _ => none
  | fuel + 1, t, ts =>
    match t.token with
    | .name n => some (.name t.place n, ts)
    | .int i => some (.literal (.int i), ts)
    | .float x => some (.literal (.float x), ts)
    | .string s => some (.literal (.string s), ts)
    | .symbol .openParen =>
      match expect .closeParen ts with
      | some ts => some (.tuple [], ts)
      | none => do
        let (x, ts) ← sequence fuel true ts
        let ts ← expect .closeParen ts
        some (x, ts)
    | .symbol .openBracket =>
      match expect .closeBracket ts with
      | some ts => some (.list [], ts)
      | none => do
        let (x, ts) ← term fuel ts
        let (xs, ts) ← elementsAfter fuel true [x] ts
        let ts ← expect .closeBracket ts
        some (.list xs, ts)
    | _ => none

/-- The calls, indices and members that follow a term, which starts at the given place. -/
def suffixes : Nat → Place → Term → List Lexeme → Option (Parsed Term)
  | 0, _, _, _ => none
  | fuel + 1, start, x, ts =>
    match ts with
    | ⟨.symbol .dot, _⟩ :: ⟨.name n, _⟩ :: ts => suffixes fuel start (.member x n) ts
    | ⟨.symbol .openBracket, _⟩ :: ts => do
      let (i, ts) ← sequence fuel false ts
      let ts ← expect .closeBracket ts
      suffixes fuel start (.index x i) ts
    | ⟨.symbol .openParen, _⟩ :: ts => do
      let (args, ts) ← argumentsAfter fuel [] ts
      suffixes fuel start (.call start x args) ts
    | _ => some (x, ts)

def argument : Nat → List Lexeme → Option (Parsed Argument)
  | 0, _ => none
  | _ + 1, [] => none
  | fuel + 1, ⟨.symbol .star, place⟩ :: ts => do
    let (x, ts) ← term fuel ts
    some (.elements place x, ts)
  | fuel + 1, ⟨.symbol .starStar, place⟩ :: ts => do
    let (x, ts) ← term fuel ts
    some (.entries place x, ts)
  | fuel + 1, ⟨.name n, place⟩ :: ⟨.symbol .assign, _⟩ :: ts => do
    let (x, ts) ← term fuel ts
    some (.named place n x, ts)
  | fuel + 1, t :: ts => do
    let (x, ts) ← term fuel (t :: ts)
    some (.positional t.place x, ts)

/-- The arguments of a call up to the closing parenthesis, after those already found, which are
given in reverse. A comma may also come last. -/
def argumentsAfter : Nat → List Argument → List Lexeme → Option (Parsed (List Argument))
  | 0, _, _ => none
  | fuel + 1, found, ts =>
    match expect .closeParen ts with
    | some ts => some (found.reverse, ts)
    | none => do
      let ts ← if found.isEmpty then some ts else expect .comma ts
      match expect .closeParen ts with
      | some ts => some (found.reverse, ts)
      | none =>
        let (a, ts) ← argument fuel ts
        argumentsAfter fuel (a :: found) ts

/-- A term, or a tuple of terms with commas between them; `trailing` says whether a comma may also
come last. -/
def sequence : Nat → Bool → List Lexeme → Option (Parsed Term)
  | 0, _, _ => none
  | fuel + 1, trailing, ts => do
    let (x, ts) ← term fuel ts
    if startsWith .comma ts then
      let (xs, ts) ← elementsAfter fuel trailing [x] ts
      some (.tuple xs, ts)
    else some (x, ts)

/-- The terms with a comma in front of each, after those already found, which are given in
reverse. -/
def elementsAfter : Nat → Bool → List Term → List Lexeme → Option (Parsed (List Term))
  | 0, _, _, _ => none
  | fuel + 1, trailing, found, ts =>
    match expect .comma ts with
    | none => some (found.reverse, ts)
    | some ts =>
      if endsSequence ts then if trailing then some (found.reverse, ts) else none
      else do
        let (x, ts) ← term fuel ts
        elementsAfter fuel trailing (x :: found) ts

end

/-- The fuel for a number of tokens. -/
def fuel (ts : List Lexeme) : Nat :=
  32 * (ts.length + 1)

def statement (ts : List Lexeme) : Option (Parsed Statement) := do
  let (x, rest) ← sequence (fuel ts) false ts
  match expect .assign rest, x with
  | some rest, .name place n =>
    let (y, rest) ← sequence (fuel ts) false rest
    some (.assign place n y, rest)
  | some _, _ => none
  | none, x => some (.evaluate x, rest)

/-- The statements of a program, after those already found, which are given in reverse. -/
def statementsAfter : Nat → List Statement → List Lexeme → Option Program
  | 0, _, _ => none
  | _ + 1, found, [] => some found.reverse
  | fuel + 1, found, ⟨.newline, _⟩ :: ts => statementsAfter fuel found ts
  | fuel + 1, found, ts => do
    let (s, ts) ← statement ts
    match ts with
    | [] => some (s :: found).reverse
    | ⟨.newline, _⟩ :: ts => statementsAfter fuel (s :: found) ts
    | _ => none

end Parser

/-- The program that tokens stand for, if they are well-formed. -/
def Program.ofTokens? (ts : List Lexeme) : Option Program :=
  Parser.statementsAfter (ts.length + 1) [] ts

end Script

end CoreWar
