import CoreWar.Text.Basic

/-!
# Glyphs

A text as its reader sees it: the characters of its UTF-8 encoding, and between them the stray
bytes that belong to no character. White space at the ends of a text is trimmed glyph by glyph.
-/

namespace CoreWar

/-- A character of a text, or a byte that belongs to none. -/
inductive Glyph where
  | char (c : Char)
  | stray (b : UInt8)
  deriving DecidableEq

namespace Glyph

def bytes : Glyph → Text
  | char c => String.utf8EncodeChar c
  | stray b => [b]

/-- The character of a glyph; a stray byte shows as the replacement character. -/
def toChar : Glyph → Char
  | char c => c
  | stray _ => '\ufffd'

/-! ### Decoding -/

/-- A byte that goes on with a character begun before it. -/
def isTail (b : UInt8) : Bool :=
  0x80 ≤ b && b ≤ 0xBF

/-- Whether the second byte `c` may follow the first byte `b` of a character of three bytes: this
excludes longer encodings than needed and surrogates. -/
def fitsThree (b c : UInt8) : Bool :=
  isTail c && (b != 0xE0 || 0xA0 ≤ c) && (b != 0xED || c ≤ 0x9F)

/-- Whether the second byte `c` may follow the first byte `b` of a character of four bytes: this
excludes longer encodings than needed and numbers that are no character. -/
def fitsFour (b c : UInt8) : Bool :=
  isTail c && (b != 0xF0 || 0x90 ≤ c) && (b != 0xF4 || c ≤ 0x8F)

def tailBits (b : UInt8) : Nat :=
  b.toNat % 64

/-- The character whose number has the given leading bits and those of tail bytes after them. -/
def encoded (leading : Nat) (tail : Text) : Glyph :=
  char (Char.ofNat (tail.foldl (fun n b => n * 64 + tailBits b) leading))

/-- The first glyph of a text that starts with `b`, and how many of the bytes after `b` it takes. -/
def first (b : UInt8) (rest : Text) : Glyph × Nat :=
  if b < 0x80 then (char (Char.ofNat b.toNat), 0)
  else if 0xC2 ≤ b && b ≤ 0xDF then
    match rest with
    | c :: _ =>
      if isTail c then (encoded (b.toNat % 32) [c], 1) else (stray b, 0)
    | [] => (stray b, 0)
  else if 0xE0 ≤ b && b ≤ 0xEF then
    match rest with
    | c :: d :: _ =>
      if fitsThree b c && isTail d then
        (encoded (b.toNat % 16) [c, d], 2)
      else (stray b, 0)
    | _ => (stray b, 0)
  else if 0xF0 ≤ b && b ≤ 0xF4 then
    match rest with
    | c :: d :: e :: _ =>
      if fitsFour b c && isTail d && isTail e then
        (encoded (b.toNat % 8) [c, d, e], 3)
      else (stray b, 0)
    | _ => (stray b, 0)
  else (stray b, 0)

/-- The glyphs of a text after those already found, which are given in reverse. -/
def decodeOnto (found : List Glyph) : Text → List Glyph
  | [] => found.reverse
  | b :: rest => decodeOnto ((first b rest).1 :: found) (rest.drop (first b rest).2)
termination_by t => t.length
decreasing_by simp only [List.length_drop, List.length_cons]; omega

def decode (t : Text) : List Glyph :=
  decodeOnto [] t

/-! ### White space -/

/-- The characters with the Unicode property of being white space. -/
def isWhite : Glyph → Bool
  | char c =>
    let n := c.toNat
    (9 ≤ n && n ≤ 13) || n == 0x20 || n == 0x85 || n == 0xA0 || n == 0x1680 ||
      (0x2000 ≤ n && n ≤ 0x200A) || n == 0x2028 || n == 0x2029 || n == 0x202F || n == 0x205F ||
      n == 0x3000
  | stray _ => false

end Glyph

namespace Text

def trim (t : Text) : Text :=
  let left := (Glyph.decode t).dropWhile Glyph.isWhite
  (left.reverse.dropWhile Glyph.isWhite).reverse.flatMap Glyph.bytes

end Text

end CoreWar
