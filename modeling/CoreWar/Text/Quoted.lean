import CoreWar.Text.Characters
import CoreWar.Text.Glyph

/-!
# Quoted text

A text between double quotes, with every character that could be misread written as an escape.
-/

namespace CoreWar

variable [Characters]

namespace Quoted

/-- A number as exactly `width` hexadecimal digits. -/
def hex (width n : Nat) : Text :=
  ((List.range width).map fun k => ((n >>> (4 * k)) % 16).digitChar.toUInt8).reverse

/-- The letter that stands for a control character after a backslash. -/
def controlLetter? (c : Char) : Option Char :=
  match c.toNat with
  | 7 => some 'a'
  | 8 => some 'b'
  | 9 => some 't'
  | 10 => some 'n'
  | 11 => some 'v'
  | 12 => some 'f'
  | 13 => some 'r'
  | _ => none

def glyph : Glyph → Text
  | .stray b => "\\x" ++ hex 2 b.toNat
  | .char c =>
    if c = '"' ∨ c = '\\' then '\\'.toUInt8 :: String.utf8EncodeChar c
    else if isPrintable c then String.utf8EncodeChar c
    else
      match controlLetter? c with
      | some l => ['\\'.toUInt8, l.toUInt8]
      | none =>
        if c.toNat < 0x20 ∨ c.toNat = 0x7F then "\\x" ++ hex 2 c.toNat
        else if c.toNat < 0x10000 then "\\u" ++ hex 4 c.toNat
        else "\\U" ++ hex 8 c.toNat

end Quoted

def Text.quoted (t : Text) : Text :=
  "\"" ++ (Glyph.decode t).flatMap Quoted.glyph ++ "\""

end CoreWar
