import CoreWar.Script.Literal

/-!
# Reading tokens

A text is read into tokens line by line. Blank space is space and tab, a hash sign starts a comment,
a backslash joins a line with the next one, and a line does not end inside brackets. No line may be
indented.
-/

namespace CoreWar

namespace Script

open Expression (startsName continuesName)

variable [Characters]

def isLineEnd (c : Char) : Bool :=
  c == '\n' || c == '\r'

def isSpace (c : Char) : Bool :=
  c == ' ' || c == '\t'

def Place.after (p : Place) : List Char → Place
  | [] => p
  | '\r' :: '\n' :: rest => after ⟨p.line + 1, 1⟩ rest
  | c :: rest => after (if isLineEnd c then ⟨p.line + 1, 1⟩ else ⟨p.line, p.column + 1⟩) rest

/-- What is left to read, and where. -/
structure Reader where
  rest : List Char
  place : Place
  /-- The number of open brackets. -/
  depth : Nat
  /-- Whether the line has been blank so far. -/
  fresh : Bool

namespace Reader

def start (cs : List Char) : Reader :=
  ⟨cs, ⟨1, 1⟩, 0, true⟩

/-- The reader `n` characters further on. -/
def advance (r : Reader) (n : Nat) : Reader :=
  { r with rest := r.rest.drop n, place := r.place.after (r.rest.take n) }

/-- The reader after the end of a line that it stands at. -/
def nextLine (r : Reader) : Reader :=
  match r.rest with
  | '\r' :: '\n' :: _ => r.advance 2
  | _ => r.advance 1

def skipSpace (r : Reader) : Reader :=
  r.advance (r.rest.takeWhile isSpace).length

/-- One stride of the reader. -/
inductive Stride where
  /-- The text is at its end. -/
  | stop
  /-- The text cannot be read. -/
  | fail
  /-- Something without a token has been passed. -/
  | pass (next : Reader)
  /-- A token has been read. -/
  | read (l : Lexeme) (next : Reader)

/-- The stride over a token with the given number of characters. -/
def read (r : Reader) (t : Token) (n : Nat) : Stride :=
  .read ⟨t, r.place⟩ { r.advance n with fresh := false }

/-- The stride over a literal, if there is one. -/
def readLiteral (r : Reader) : Option (Token × Nat) → Stride
  | some (t, n) => r.read t n
  | none => .fail

def readWord (r : Reader) : Stride :=
  let word := r.rest.takeWhile continuesName
  let text := word.flatMap String.utf8EncodeChar
  match Keyword.ofText? text with
  | some k => r.read (.keyword k) word.length
  | none => r.read (.name text) word.length

/-- The stride over a sign, which may open or close a bracket. -/
def readSymbol (r : Reader) (s : Symbol) : Stride :=
  let n := s.spelling.length
  match s with
  | .openParen | .openBracket => ({ r with depth := r.depth + 1 }).read (.symbol s) n
  | .closeParen | .closeBracket =>
    if r.depth = 0 then .fail else ({ r with depth := r.depth - 1 }).read (.symbol s) n
  | _ => r.read (.symbol s) n

/-- The stride over a token that starts with `c` and is no string. -/
def readPlain (r : Reader) (c : Char) : Stride :=
  if startsName c then r.readWord
  else if c.isDigit || (c == '.' && (r.rest.drop 1).head?.any Char.isDigit) then
    r.readLiteral (Literal.number r.rest)
  else
    match Symbol.atStart? r.rest with
    | some s => r.readSymbol s
    | none => .fail

/-- The stride over the token that starts with `c`. -/
def readToken (r : Reader) (c : Char) : Stride :=
  match Literal.string? r.rest with
  | some literal => r.readLiteral literal
  | none => r.readPlain c

/-- The reader after a comment, which reaches to the end of its line. -/
def skipComment (r : Reader) : Reader :=
  r.advance (r.rest.takeWhile fun c => !isLineEnd c && c != '\x00').length

/-- The stride from a character on that is not blank. -/
def strideFrom (r : Reader) (indented : Bool) (c : Char) : Stride :=
  if c = '#' then .pass r.skipComment
  else if isLineEnd c then
    if r.fresh || r.depth != 0 then .pass { r.nextLine with fresh := true }
    else .read ⟨.newline, r.place⟩ { r.nextLine with fresh := true }
  else if indented && r.depth == 0 then .fail
  else if c = '\\' then
    -- a line that is joined with the next one has begun already
    if (r.rest.drop 1).head?.any isLineEnd then
      .pass { (r.advance 1).nextLine with fresh := false }
    else .fail
  else r.readToken c

/-- The next stride. A zero byte ends the text. -/
def stride (r : Reader) : Stride :=
  let next := r.skipSpace
  match next.rest with
  | [] => .stop
  | c :: _ =>
    if c = '\x00' then .stop
    else next.strideFrom (r.fresh && r.rest.head?.any isSpace) c

end Reader

/-- The tokens from a reader on, after those already found, which are given in reverse. Every stride
passes a character, so the fuel has to exceed their number. -/
def tokensFrom : Nat → List Lexeme → Reader → Option (List Lexeme)
  | 0, _, _ => none
  | fuel + 1, found, r =>
    match r.stride with
    | .stop => some found.reverse
    | .fail => none
    | .pass next => tokensFrom fuel found next
    | .read l next => tokensFrom fuel (l :: found) next

/-- The tokens of a text, if it can be read. -/
def tokens (cs : List Char) : Option (List Lexeme) :=
  tokensFrom (cs.length + 1) [] (.start cs)

end Script

end CoreWar
