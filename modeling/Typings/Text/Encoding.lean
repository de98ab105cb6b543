import Typings.Text.Basic

/-!
# Bytes of text files

Text files are written in UTF-8. They are read as UTF-8, with or without a byte order mark, and
bytes that are not valid UTF-8 are read in the Windows code page 1252, in which five bytes have no
meaning.
-/

namespace Typings.Text

/-- The bytes of a file. -/
abbrev Bytes := List UInt8

/-- The UTF-8 form of one character. -/
def encodeChar (c : Char) : Bytes :=
  let n := c.toNat
  if n < 0x80 then [n.toUInt8]
  else if n < 0x800 then [(0xC0 + n / 0x40).toUInt8, (0x80 + n % 0x40).toUInt8]
  else if n < 0x10000 then
    [(0xE0 + n / 0x1000).toUInt8, (0x80 + n / 0x40 % 0x40).toUInt8, (0x80 + n % 0x40).toUInt8]
  else
    [(0xF0 + n / 0x40000).toUInt8, (0x80 + n / 0x1000 % 0x40).toUInt8,
      (0x80 + n / 0x40 % 0x40).toUInt8, (0x80 + n % 0x40).toUInt8]

/-- The UTF-8 form of a text. -/
def encode (t : Text) : Bytes := t.flatMap encodeChar

/-- Whether a byte continues a character, and with which six bits. -/
def tail? (b : UInt8) : Option Nat :=
  if 0x80 ≤ b.toNat ∧ b.toNat < 0xC0 then some (b.toNat - 0x80) else none

/-- The code point of two bytes that are one character. -/
def pair? (a b : UInt8) : Option Nat :=
  if 0xC2 ≤ a.toNat ∧ a.toNat < 0xE0 then (tail? b).map ((a.toNat - 0xC0) * 0x40 + ·) else none

/-- The code point of three bytes that are one character: neither one that two bytes could hold
nor a surrogate. -/
def triple? (a b c : UInt8) : Option Nat :=
  if 0xE0 ≤ a.toNat ∧ a.toNat < 0xF0 then do
    let n := (a.toNat - 0xE0) * 0x1000 + (← tail? b) * 0x40 + (← tail? c)
    if n < 0x800 ∨ (0xD800 ≤ n ∧ n < 0xE000) then none else some n
  else none

/-- The code point of four bytes that are one character: not one that three bytes could hold, and
at most U+10FFFF. -/
def quadruple? (a b c d : UInt8) : Option Nat :=
  if 0xF0 ≤ a.toNat ∧ a.toNat < 0xF5 then do
    let n := (a.toNat - 0xF0) * 0x40000 + (← tail? b) * 0x1000 + (← tail? c) * 0x40 + (← tail? d)
    if n < 0x10000 ∨ 0x10FFFF < n then none else some n
  else none

/-- The text that the bytes spell in UTF-8, if they are valid. -/
def utf8? : Bytes → Option Text
  | [] => some []
  | a :: r =>
    if a.toNat < 0x80 then (utf8? r).map (Char.ofNat a.toNat :: ·)
    else match r with
      | [] => none
      | b :: r =>
        match pair? a b with
        | some n => (utf8? r).map (Char.ofNat n :: ·)
        | none => match r with
          | [] => none
          | c :: r =>
            match triple? a b c with
            | some n => (utf8? r).map (Char.ofNat n :: ·)
            | none => match r with
              | [] => none
              | d :: r =>
                match quadruple? a b c d with
                | some n => (utf8? r).map (Char.ofNat n :: ·)
                | none => none

/-- Code page 1252 between 0x80 and 0x9F; zero stands for a byte without meaning. -/
def page1252 : List Nat :=
  [0x20AC, 0, 0x201A, 0x0192, 0x201E, 0x2026, 0x2020, 0x2021, 0x02C6, 0x2030, 0x0160, 0x2039,
   0x0152, 0, 0x017D, 0, 0, 0x2018, 0x2019, 0x201C, 0x201D, 0x2022, 0x2013, 0x2014, 0x02DC, 0x2122,
   0x0161, 0x203A, 0x0153, 0, 0x017E, 0x0178]

/-- The character of a byte in code page 1252. -/
def windowsChar? (b : UInt8) : Option Char :=
  let n := b.toNat
  if 0x80 ≤ n ∧ n < 0xA0 then
    match page1252[n - 0x80]? with
    | some 0 | none => none
    | some m => some (Char.ofNat m)
  else some (Char.ofNat n)

/-- The UTF-8 byte order mark. -/
def byteOrderMark : Bytes := [0xEF, 0xBB, 0xBF]

/-- The bytes after a byte order mark, all of them if there is none. -/
def withoutMark (bytes : Bytes) : Bytes :=
  if byteOrderMark.isPrefixOf bytes then bytes.drop 3 else bytes

/-- The text of a source file: UTF-8 first, then code page 1252. -/
def decode? (bytes : Bytes) : Option Text :=
  utf8? (withoutMark bytes) <|> bytes.mapM windowsChar?

end Typings.Text
