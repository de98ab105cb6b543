import Typings.Text.Basic

/-!
# Line boundaries

A text falls into lines at every line boundary of Unicode; carriage return and line feed together
are one boundary. A boundary at the very end opens no further line.
-/

namespace Typings.Text

/-- The characters that end a line. -/
def isLineBreak (c : Char) : Bool :=
  let n := c.toNat
  (10 ≤ n && n ≤ 13) || (28 ≤ n && n ≤ 30) || n == 0x85 || n == 0x2028 || n == 0x2029

/-- The lines of a text without what ends them. -/
def lines : Text → List Text
  | [] => []
  | '\r' :: '\n' :: r => [] :: lines r
  | c :: r =>
    if isLineBreak c then [] :: lines r
    else match lines r with
      | [] => [[c]]
      | l :: ls => (c :: l) :: ls

/-- The text with a line feed in place of every line boundary that has a carriage return. -/
def unifyBreaks : Text → Text
  | [] => []
  | '\r' :: '\n' :: r => '\n' :: unifyBreaks r
  | c :: r => (if c = '\r' then '\n' else c) :: unifyBreaks r

end Typings.Text
