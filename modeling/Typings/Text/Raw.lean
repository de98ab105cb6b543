import Typings.Text.Blank

/-!
# Raw text

Text as escapes by number spell it. A code point from U+D800 to U+DFFF is a surrogate: two of them
can make a pair that stands for a character, and one without partner is no character at all. Text
proper has no surrogates, and no encoding has bytes for them.
-/

namespace Typings

/-- A code point: a character, or a surrogate without partner by its number. -/
inductive CodePoint where
  | char (c : Char)
  | surrogate (n : Nat)
  deriving DecidableEq, Repr

/-- Text that may hold surrogates. -/
abbrev RawText := List CodePoint

namespace CodePoint

/-- Whether a number is that of a surrogate that comes first in a pair. -/
def isHighSurrogate (n : Nat) : Bool := 0xD800 ≤ n && n < 0xDC00

/-- Whether a number is that of a surrogate that comes second in a pair. -/
def isLowSurrogate (n : Nat) : Bool := 0xDC00 ≤ n && n < 0xE000

/-- The number that a pair of surrogates stands for. -/
def joinSurrogates (high low : Nat) : Nat := 0x10000 + (high - 0xD800) * 0x400 + (low - 0xDC00)

/-- The code point of a number. -/
def ofNat (n : Nat) : CodePoint :=
  if isHighSurrogate n || isLowSurrogate n then surrogate n else char (Char.ofNat n)

/-- The number of a code point. -/
def toNat : CodePoint → Nat
  | char c => c.toNat
  | surrogate n => n

/-- The character that a code point is. -/
def char? : CodePoint → Option Char
  | char c => some c
  | surrogate _ => none

/-- Whether a code point is a surrogate. -/
def isSurrogate (p : CodePoint) : Bool := p.char?.isNone

/-- Whether a code point is a blank. -/
def isBlank (p : CodePoint) : Bool := (p.char?.map Text.isBlank).getD false

/-- The character that shows a code point: itself, or the replacement character. -/
def shown (p : CodePoint) : Char := p.char?.getD (Char.ofNat 0xFFFD)

end CodePoint

namespace RawText

/-- Text as raw text. -/
def ofText (t : Text) : RawText := t.map .char

/-- The text that a raw text is, unless it holds surrogates. -/
def text? (s : RawText) : Option Text := s.mapM CodePoint.char?

/-- What shows a raw text, with the replacement character for every surrogate. -/
def shown (s : RawText) : Text := s.map CodePoint.shown

/-- The raw text without the blanks at either end. -/
def trim (s : RawText) : RawText :=
  ((s.dropWhile CodePoint.isBlank).reverse.dropWhile CodePoint.isBlank).reverse

/-- Code point order: the first difference decides, and a proper beginning comes first. -/
def le : RawText → RawText → Bool
  | [], _ => true
  | _ :: _, [] => false
  | a :: x, b :: y => a.toNat < b.toNat || (a == b && le x y)

end RawText

end Typings
