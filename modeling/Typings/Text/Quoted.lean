import Typings.Text.Basic
import Typings.Text.Printable
import Typings.Text.Raw

/-!
# Quoted text

How messages show a value in quotes: apostrophes around it, or quotation marks when it holds an
apostrophe and no quotation mark; the mark in use, the backslash and what does not print are
escaped.
-/

namespace Typings.Text

/-- The apostrophe. -/
def apostrophe : Char := '\x27'

/-- The mark that encloses a quoted text. -/
def quoteMark (s : RawText) : Char :=
  if s.contains (.char apostrophe) && !s.contains (.char '"') then '"' else apostrophe

/-- One character inside quotes of the given mark. -/
def escapeChar (mark c : Char) : Text :=
  if c = mark || c = '\\' then ['\\', c]
  else if c = '\n' then ['\\', 'n']
  else if c = '\r' then ['\\', 'r']
  else if c = '\t' then ['\\', 't']
  else if isPrintable c then [c]
  else if c.toNat < 0x100 then '\\' :: 'x' :: hex 2 c.toNat
  else if c.toNat < 0x10000 then '\\' :: 'u' :: hex 4 c.toNat
  else '\\' :: 'U' :: hex 8 c.toNat

/-- One code point inside quotes of the given mark. -/
def escapePoint (mark : Char) : CodePoint → Text
  | .char c => escapeChar mark c
  | .surrogate n => '\\' :: 'u' :: hex 4 n

/-- Raw text in quotes. -/
def quotedRaw (s : RawText) : Text :=
  let mark := quoteMark s
  mark :: s.flatMap (escapePoint mark) ++ [mark]

/-- The text in quotes. -/
def quoted (t : Text) : Text := quotedRaw (RawText.ofText t)

end Typings.Text
