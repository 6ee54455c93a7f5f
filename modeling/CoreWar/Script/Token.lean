import CoreWar.Expression.Name

/-!
# Tokens

The words and signs that programs are written with, each with the place where it starts.
-/

namespace CoreWar

namespace Script

/-- The signs, of which some begin with another one. -/
inductive Symbol where
  | equal
  | unequal
  | atMost
  | atLeast
  | shiftLeft
  | shiftRight
  | floorDiv
  | less
  | greater
  | assign
  | plus
  | minus
  | starStar
  | star
  | slash
  | percent
  | ampersand
  | bar
  | caret
  | tilde
  | comma
  | dot
  | openParen
  | closeParen
  | openBracket
  | closeBracket
  deriving DecidableEq, Repr

namespace Symbol

/-- All signs; one that begins with another comes before it. -/
def all : List Symbol :=
  [equal, unequal, atMost, atLeast, shiftLeft, shiftRight, floorDiv, less, greater, assign, plus,
    minus, starStar, star, slash, percent, ampersand, bar, caret, tilde, comma, dot, openParen,
    closeParen, openBracket, closeBracket]

def spelling : Symbol → List Char
  | equal => ['=', '=']
  | unequal => ['!', '=']
  | atMost => ['<', '=']
  | atLeast => ['>', '=']
  | shiftLeft => ['<', '<']
  | shiftRight => ['>', '>']
  | floorDiv => ['/', '/']
  | less => ['<']
  | greater => ['>']
  | assign => ['=']
  | plus => ['+']
  | minus => ['-']
  | starStar => ['*', '*']
  | star => ['*']
  | slash => ['/']
  | percent => ['%']
  | ampersand => ['&']
  | bar => ['|']
  | caret => ['^']
  | tilde => ['~']
  | comma => [',']
  | dot => ['.']
  | openParen => ['(']
  | closeParen => [')']
  | openBracket => ['[']
  | closeBracket => [']']

def atStart? (cs : List Char) : Option Symbol :=
  all.find? fun s => s.spelling.isPrefixOf cs

end Symbol

/-- The words that are no names. -/
inductive Keyword where
  | and
  | or
  | not
  | isIn
  | if
  | else
  /-- A word with a meaning that is not needed here. -/
  | reserved
  deriving DecidableEq, Repr

namespace Keyword

/-- The keyword that a word is, if it is one. -/
def ofText? (word : Text) : Option Keyword :=
  if word = ("and" : Text) then some .and
  else if word = ("or" : Text) then some .or
  else if word = ("not" : Text) then some .not
  else if word = ("in" : Text) then some .isIn
  else if word = ("if" : Text) then some .if
  else if word = ("else" : Text) then some .else
  else if Expression.reservedWords.contains word then some .reserved
  else none

end Keyword

inductive Token where
  | name (n : Text)
  | int (i : Int)
  | float (x : Float)
  | string (t : Text)
  | symbol (s : Symbol)
  | keyword (k : Keyword)
  /-- The end of a line that is not blank. -/
  | newline

/-- A line and a column, both counted from one. -/
structure Place where
  line : Nat
  column : Nat
  deriving DecidableEq, Repr

structure Lexeme where
  token : Token
  place : Place

end Script

end CoreWar
