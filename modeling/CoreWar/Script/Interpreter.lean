import CoreWar.Expression.Interpreter
import CoreWar.Script.Eval
import CoreWar.Script.Lexer
import CoreWar.Script.Parser
import CoreWar.Text.Glyph
import CoreWar.Text.Unicode

/-!
# An interpreter

An interpreter for programs with numbers, strings, lists and tuples, their operations and a few
functions. It knows a part of the language only: for a program with anything else, such as a
dictionary or a comprehension, it has no better answer than that the text cannot be read, and the
words for this are not its own.
-/

namespace CoreWar

namespace Script

variable [Characters]

def program? (text : Text) : Option Program := do
  let ts ← tokens ((Glyph.decode text).map Glyph.toChar)
  Program.ofTokens? ts

/-- The scope of a program under predeclared names. -/
def Program.scope (p : Program) (predeclared : Text → Option Int64) : Scope :=
  ⟨p.targets, predeclared⟩

def Value.integer? : Value → Option Int
  | .int i => some i
  | _ => Option.none

/-- What becomes of a program: its names are resolved before anything is evaluated. -/
def Program.interpret (p : Program) (predeclared : Text → Option Int64) :
    Except Complaint (Text → Option Int) :=
  match p.scopeFault? (p.scope predeclared) with
  | some fault => .error ⟨.resolving, fault.message⟩
  | none =>
    match p.run (p.scope predeclared) with
    | .error fault => .error ⟨.evaluating, fault.message⟩
    | .ok assigned => .ok fun name => (assigned.lookup name).bind Value.integer?

/-- The interpreter, with the words that it is given for a text that cannot be read. -/
def interpreter (unreadable : Text → Text) : Interpreter where
  run text predeclared :=
    match program? text with
    | none => .error ⟨.reading, unreadable text⟩
    | some p => p.interpret predeclared

/-- The interpreter under version 17 of Unicode, which says nothing about a text that cannot be
read. -/
def standard : Interpreter :=
  @interpreter Unicode.version17 fun _ => []

end Script

end CoreWar
