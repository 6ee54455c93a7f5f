import CoreWar.Text.Basic

/-!
# Lines of a source

A source is read line by line through a buffer of limited size. A line ends with a line feed, in
front of which one carriage return is dropped; a last line without a line feed counts unless it is
empty. A line that does not fit the buffer together with its line feed ends the reading, and so does
a reader that fails.
-/

namespace CoreWar

/-- What a reader delivers: bytes, and then the end of the source or a failure. -/
structure Source where
  bytes : Text
  /-- Why the reader fails after the bytes, if it does. -/
  failure? : Option Text

namespace Source

/-- Why a source was not read to its end. -/
inductive ReadError where
  | lineTooLong
  | readFailed (reason : Text)
  deriving DecidableEq, Repr

def ReadError.message : ReadError → Text
  | lineTooLong => "bufio.Scanner: token too long"
  | readFailed reason => reason

def bufferSize : Nat := 65536

/-- Whether a line fits the buffer together with a line feed. -/
def fits (line : Text) : Bool :=
  line.length < bufferSize

/-- The text up to each line feed and after the last one; an empty text after it is no line. -/
def rawLines (t : Text) : List Text :=
  let parts := t.splitOn '\n'.toUInt8
  if parts.getLast? = some [] then parts.dropLast else parts

def dropReturn (line : Text) : Text :=
  if line.getLast? = some '\r'.toUInt8 then line.dropLast else line

/-- The lines of a source up to the first one that is too long. -/
def lines (s : Source) : List Text :=
  ((rawLines s.bytes).takeWhile fits).map dropReturn

/-- Why the source was not read to its end, if it was not. -/
def readError? (s : Source) : Option ReadError :=
  if !(rawLines s.bytes).all fits then some .lineTooLong
  else s.failure?.map .readFailed

end Source

end CoreWar
