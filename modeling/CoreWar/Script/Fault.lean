import CoreWar.Script.Value
import CoreWar.Text.Quoted

/-!
# Faults of evaluation

What can go wrong while an expression is evaluated, and the words for it.
-/

namespace CoreWar

namespace Script

variable [Characters]

/-- A suggestion in brackets, if there is one. -/
def hint (meant : Option Text) : Text :=
  match meant with
  | some other => " (did you mean " ++ other ++ "?)"
  | none => []

/-! ### Patterns -/

inductive PatternFault where
  /-- The pattern ends after a percent sign. -/
  | incomplete
  /-- The pattern ends inside a name. -/
  | incompleteName
  /-- A name asks for values with names, but no value has any. -/
  | notMapping
  | tooFewValues
  | tooManyValues
  | unknownConversion (letter : UInt8)
  | notFloat (letter : UInt8) (type : Text)
  | notCharacter (type : Text)
  | notCodePoint (i : Int)
  | notSingleCharacter

def conversion (letter : UInt8) : Text :=
  '%'.toUInt8 :: String.utf8EncodeChar (Char.ofNat letter.toNat)

def PatternFault.message : PatternFault → Text
  | incomplete => "incomplete format"
  | incompleteName => "incomplete format key"
  | notMapping => "format requires a mapping"
  | tooFewValues => "not enough arguments for format string"
  | tooManyValues => "too many arguments for format string"
  | unknownConversion letter => "unknown conversion " ++ conversion letter
  | notFloat letter type => conversion letter ++ " format requires float, not " ++ type
  | notCharacter type => "%c format requires int or single-character string, not " ++ type
  | notCodePoint i => "%c format requires a valid Unicode code point, got " ++ Text.ofInt i
  | notSingleCharacter => "%c format requires a single-character string"

/-! ### Arguments -/

inductive ArgumentFault where
  | wrongCount (got want : Nat)
  | tooMany (got most : Nat)
  | missing (name : Text)
  /-- The function takes no arguments by name. -/
  | unexpectedNames
  /-- The function has no parameter of this name; another one may have been meant. -/
  | unexpectedName (name : Text) (meant : Option Text)
  /-- A parameter is given twice. -/
  | repeated (name : Text)
  /-- A function was needed. -/
  | notFunction (name type : Text)

def ArgumentFault.message : ArgumentFault → Text
  | wrongCount got want => "got " ++ Text.ofNat got ++ " arguments, want " ++ Text.ofNat want
  | tooMany got most => "got " ++ Text.ofNat got ++ " arguments, want at most " ++ Text.ofNat most
  | missing name => "missing argument for " ++ name
  | unexpectedNames => "unexpected keyword arguments"
  | unexpectedName name meant =>
    "unexpected keyword argument " ++ Text.quoted name ++ hint meant
  | repeated name => "got multiple values for keyword argument " ++ Text.quoted name
  | notFunction name type =>
    "for parameter " ++ Text.quoted name ++ ": got " ++ type ++ ", want callable"

/-! ### Faults -/

/-- Why an expression has no value. -/
inductive EvalFault where
  /-- A variable is read before it has a value. -/
  | unassigned (name : Text)
  | unknownUnary (op type : Text)
  | unknownBinary (op left right : Text)
  /-- Two values have no order. -/
  | unordered (op left right : Text)
  /-- Sequences are nested too deeply to be compared. -/
  | tooDeep
  | flooredDivisionByZero
  | divisionByZero
  | moduloByZero
  | floatModuloByZero
  | negativeShift (count : Int)
  | excessiveShift (count : Int)
  /-- An integer was needed. -/
  | notInt (type : Text)
  /-- An integer of 32 bits was needed. -/
  | wideInt (i : Int)
  | wideRepeat (count : Int)
  | excessiveRepeat (length count : Int)
  | tooLargeForFloat
  /-- Only strings are parts of strings. -/
  | notPartOfString (type : Text)
  | indexOutOfRange (type : Text) (index length : Int)
  | indexOfEmpty (type : Text) (index : Int)
  | notIndexable (type index : Text)
  | noMember (type name : Text)
  | notCallable (type : Text)
  /-- The value after a star in a call has no elements. -/
  | notSpreadable (type : Text)
  /-- The value after two stars in a call has no names. -/
  | notNamed (type : Text)
  | noArguments (name : Text)
  | emptySequence
  | notIterable (type : Text)
  | noLength (type : Text)
  | notNumber (type : Text)
  | notConvertible (type : Text)
  | infinite
  | notANumber
  | baseNotInt (type : Text)
  | baseOutOfRange
  /-- Only a string has a base. -/
  | baseOfNumber
  | invalidLiteral (base : Nat) (t : Text)
  | pattern (fault : PatternFault)
  | argument (fault : ArgumentFault)
  /-- A fault with the place or function that it concerns. -/
  | within (context : Text) (fault : EvalFault)

def EvalFault.message : EvalFault → Text
  | unassigned name => "global variable " ++ name ++ " referenced before assignment"
  | unknownUnary op type => "unknown unary op: " ++ op ++ " " ++ type
  | unknownBinary op left right => "unknown binary op: " ++ left ++ " " ++ op ++ " " ++ right
  | unordered op left right => left ++ " " ++ op ++ " " ++ right ++ " not implemented"
  | tooDeep => "comparison exceeded maximum recursion depth"
  | flooredDivisionByZero => "floored division by zero"
  | divisionByZero => "floating-point division by zero"
  | moduloByZero => "integer modulo by zero"
  | floatModuloByZero => "floating-point modulo by zero"
  | negativeShift count => "negative shift count: " ++ Text.ofInt count
  | excessiveShift count => "shift count too large: " ++ Text.ofInt count
  | notInt type => "got " ++ type ++ ", want int"
  | wideInt i => Text.ofInt i ++ " out of range"
  | wideRepeat count => "repeat count " ++ Text.ofInt count ++ " too large"
  | excessiveRepeat length count =>
    "excessive repeat (" ++ Text.ofInt length ++ " * " ++ Text.ofInt count ++ " elements)"
  | tooLargeForFloat => "int too large to convert to float"
  | notPartOfString type => "'in <string>' requires string as left operand, not " ++ type
  | indexOutOfRange type index length =>
    type ++ " index " ++ Text.ofInt index ++ " out of range [" ++ Text.ofInt (-length) ++ ":" ++
      Text.ofInt (length - 1) ++ "]"
  | indexOfEmpty type index => "index " ++ Text.ofInt index ++ " out of range: empty " ++ type
  | notIndexable type index => "unhandled index operation " ++ type ++ "[" ++ index ++ "]"
  | noMember type name => type ++ " has no ." ++ name ++ " field or method"
  | notCallable type => "invalid call of non-function (" ++ type ++ ")"
  | notSpreadable type => "argument after * must be iterable, not " ++ type
  | notNamed type => "argument after ** must be a mapping, not " ++ type
  | noArguments name => name ++ " requires at least one positional argument"
  | emptySequence => "argument is an empty sequence"
  | notIterable type => type ++ " value is not iterable"
  | noLength type => "value of type " ++ type ++ " has no len"
  | notNumber type => "got " ++ type ++ ", want int or float"
  | notConvertible type => "cannot convert " ++ type ++ " to int"
  | infinite => "cannot convert float infinity to integer"
  | notANumber => "cannot convert float NaN to integer"
  | baseNotInt type => "for base, got " ++ type ++ ", want int"
  | baseOutOfRange => "base must be an integer >= 2 && <= 36"
  | baseOfNumber => "can't convert non-string with explicit base"
  | invalidLiteral base t => "invalid literal with base " ++ Text.ofNat base ++ ": " ++ t
  | pattern fault => fault.message
  | argument fault => fault.message
  | within context fault => context ++ ": " ++ fault.message

end Script

end CoreWar
