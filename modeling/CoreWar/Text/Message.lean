import CoreWar.Text.Decimal

/-!
# Messages

Messages for people are made from a pattern and its arguments. `%d`, `%v` and `%s` stand for the
next argument and `%%` for a percent sign; numbers are written in groups of three digits, texts
as they are. An argument that does not suit its pattern, is missing or is left over shows in the
message itself.
-/

namespace CoreWar

namespace Message

inductive Argument where
  | number (n : Int)
  | text (t : Text)

namespace Argument

def render : Argument → Text
  | number n => Text.grouped n
  | text t => t

/-- The text of an argument after the name of its type. -/
def described : Argument → Text
  | number n => "int=" ++ Text.grouped n
  | text t => "string=" ++ t

/-- Whether an argument may stand for a letter: `d` asks for a number and `s` for a text. -/
def suits : Argument → UInt8 → Bool
  | number _, letter => letter != 's'.toUInt8
  | text _, letter => letter != 'd'.toUInt8

end Argument

def remark (letter : UInt8) (note : Text) : Text :=
  "%!" ++ letter :: "(" ++ note ++ ")"

/-- What stands in the message for a letter and its argument. -/
def placed (letter : UInt8) : Option Argument → Text
  | some a => if a.suits letter then a.render else remark letter a.described
  | none => remark letter "MISSING"

/-- Whether the letter after a percent sign stands for an argument. -/
def takesArgument (b : UInt8) : Bool :=
  b == 'd'.toUInt8 || b == 'v'.toUInt8 || b == 's'.toUInt8

/-- The pattern with its arguments filled in, in order. -/
def fill : Text → List Argument → Text
  | [], _ => []
  | [b], _ => if b = '%'.toUInt8 then "%!(NOVERB)" else [b]
  | b :: c :: rest, args =>
    if b = '%'.toUInt8 then
      if takesArgument c then placed c args.head? ++ fill rest args.tail
      else if c = '%'.toUInt8 then b :: fill rest args
      else b :: fill (c :: rest) args
    else b :: fill (c :: rest) args

/-- The number of arguments that a pattern asks for. -/
def arity : Text → Nat
  | [] => 0
  | [_] => 0
  | b :: c :: rest =>
    if b = '%'.toUInt8 then
      if takesArgument c then arity rest + 1
      else if c = '%'.toUInt8 then arity rest
      else arity (c :: rest)
    else arity (c :: rest)

/-- The remark on arguments that are left over. A pattern that asks for none ignores them. -/
def leftover (pattern : Text) (args : List Argument) : Text :=
  let unused := args.drop (arity pattern)
  if arity pattern = 0 ∨ unused.isEmpty then []
  else "%!(EXTRA " ++ List.intercalate ", " (unused.map Argument.described) ++ ")"

/-- The message that a pattern and its arguments make. -/
def format (pattern : Text) (args : List Argument) : Text :=
  fill pattern args ++ leftover pattern args

end Message

end CoreWar
