import Typings.Json.Basic

/-!
# Writing JSON

Values are written over several lines with an indentation of two spaces. Only quotation marks,
backslashes, controls and surrogates are escaped.
-/

namespace Typings.Json

open Text

/-- One character inside a string. -/
def escape (c : Char) : Text :=
  if c = '"' || c = '\\' then ['\\', c]
  else if c = '\n' then ['\\', 'n']
  else if c = '\r' then ['\\', 'r']
  else if c = '\t' then ['\\', 't']
  else if c.toNat = 8 then ['\\', 'b']
  else if c.toNat = 12 then ['\\', 'f']
  else if c.toNat < 0x20 then '\\' :: 'u' :: hex 4 c.toNat
  else [c]

/-- One code point inside a string. -/
def escapeRaw : CodePoint → Text
  | .char c => escape c
  | .surrogate n => '\\' :: 'u' :: hex 4 n

/-- A string. -/
def writeString (s : RawText) : Text := '"' :: s.flatMap escapeRaw ++ ['"']

/-- A number of 64 bits. -/
def writeReal : Binary64 → Text
  | .notANumber => "NaN".toList
  | .infinite negative => if negative then "-Infinity".toList else "Infinity".toList
  | r => r.text

/-- A line boundary and the indentation of the given depth. -/
def newLine (depth : Nat) : Text := '\n' :: List.replicate (2 * depth) ' '

mutual

/-- A value that starts at the given depth. -/
def writeAt (depth : Nat) : Json → Text
  | null => "null".toList
  | bool b => if b then "true".toList else "false".toList
  | int i => ofInt i
  | real r => writeReal r
  | string s => writeString s
  | array [] => "[]".toList
  | array (v :: vs) =>
    '[' :: joinWith [','] (writeItems (depth + 1) (v :: vs)) ++ newLine depth ++ [']']
  | object [] => "\x7b\x7d".toList
  | object (m :: ms) =>
    '\x7b' :: joinWith [','] (writeMembers (depth + 1) (m :: ms)) ++ newLine depth ++ ['\x7d']

/-- The items of an array, each on a line of its own. -/
def writeItems (depth : Nat) : List Json → List Text
  | [] => []
  | v :: rest => (newLine depth ++ writeAt depth v) :: writeItems depth rest

/-- The members of an object, each on a line of its own. -/
def writeMembers (depth : Nat) : List (RawText × Json) → List Text
  | [] => []
  | (key, v) :: rest =>
    (newLine depth ++ writeString key ++ ": ".toList ++ writeAt depth v) :: writeMembers depth rest

end

/-- The text of a value. -/
def write (v : Json) : Text := writeAt 0 v

end Typings.Json
