import CoreWar.Text.Basic
import CoreWar.Text.Characters

/-!
# Names

How names are written in expressions, and which words are none.
-/

namespace CoreWar

namespace Expression

variable [Characters]

def startsName (c : Char) : Bool :=
  c == '_' || isLetter c

def continuesName (c : Char) : Bool :=
  c.isDigit || startsName c

/-- The words that are no names, because they have a meaning or might get one. -/
def reservedWords : List Text :=
  ["and", "or", "not", "in", "if", "else", "break", "continue", "def", "elif", "for", "lambda",
    "load", "pass", "return", "while", "as", "async", "await", "class", "del", "except", "finally",
    "from", "global", "import", "is", "nonlocal", "raise", "try", "with", "yield"]

end Expression

end CoreWar
