/-!
# Text

Sources, log lines and reports are sequences of bytes. A source may hold any bytes at all, and the
rules of the notation speak of ASCII characters only, each of which is a single byte.
-/

namespace CoreWar

/-- A text is a sequence of bytes. -/
abbrev Text := List UInt8

namespace Text

def ofString (s : String) : Text :=
  s.toList.flatMap String.utf8EncodeChar

instance : Coe String Text := ⟨ofString⟩

/-! ### Classes of ASCII characters -/

/-- White space between the parts of a line: tab, line feed, form feed, carriage return, space. -/
def isBlank (b : UInt8) : Bool :=
  b == '\t'.toUInt8 || b == '\n'.toUInt8 || b == '\x0c'.toUInt8 || b == '\r'.toUInt8 ||
    b == ' '.toUInt8

def isDigit (b : UInt8) : Bool :=
  '0'.toUInt8 ≤ b && b ≤ '9'.toUInt8

def isUpper (b : UInt8) : Bool :=
  'A'.toUInt8 ≤ b && b ≤ 'Z'.toUInt8

def isLower (b : UInt8) : Bool :=
  'a'.toUInt8 ≤ b && b ≤ 'z'.toUInt8

def isLetter (b : UInt8) : Bool :=
  isUpper b || isLower b

def skipBlanks (t : Text) : Text :=
  t.dropWhile isBlank

/-! ### Capitals -/

/-- The capital of a small letter; every other byte is kept. -/
def upperByte (b : UInt8) : UInt8 :=
  if isLower b then b - 32 else b

/-- The text in capitals, as far as the capitals are ASCII letters: besides the small letters these
are the long s (`ſ`) and the dotless i (`ı`), the only other characters with such a capital. -/
def upper : Text → Text
  | [] => []
  | 0xC5 :: 0xBF :: rest => 'S'.toUInt8 :: upper rest
  | 0xC4 :: 0xB1 :: rest => 'I'.toUInt8 :: upper rest
  | b :: rest => upperByte b :: upper rest

end Text

end CoreWar
