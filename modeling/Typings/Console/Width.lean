import Typings.Console.Emoji
import Typings.Console.WidthTable
import Typings.Text.Ranges

/-!
# Columns

How many columns of a console a text takes, and what tabs come to. A tab is a space and then fills
up to the next of the columns 8, 16, ...
-/

namespace Typings.Console

open Text

/-- How many columns a character takes on its own. -/
def columns (c : Char) : Nat :=
  let n := c.toNat
  if n < 0x20 || (0x7F ≤ n && n < 0xA0) then 0
  else if inRanges zeroWidthRanges n then 0
  else if inRanges wideRanges n then 2
  else 1

/-- The character that joins the emoji before and after it. -/
def joiner : Char := Char.ofNat 0x200D

/-- How many columns a text takes, after a character that may yet be presented as emoji. What is
joined to an emoji takes no columns of its own. -/
def widthAfter : Option Char → Text → Nat
  | _, [] => 0
  | last, c :: r =>
    if c = joiner then
      match r with
      | [] => 0
      | _ :: r => widthAfter last r
    else if c = emojiSelector then
      (if (last.map fun l => inRanges presentableRanges l.toNat).getD false then 1 else 0)
        + widthAfter none r
    else columns c + widthAfter (if columns c = 0 then last else some c) r

/-- How many columns a text takes. -/
def width (t : Text) : Nat := widthAfter none t

/-- The distance between the columns that tabs fill up to. -/
def tabSize : Nat := 8

/-- The pieces of a line between its tabs, put together with spaces for the tabs. -/
def fillTabs (column : Nat) : List Text → Text
  | [] => []
  | [last] => last
  | piece :: rest =>
    let reached := column + width (piece ++ [' '])
    let filled := (reached + tabSize - 1) / tabSize * tabSize
    piece ++ ' ' :: List.replicate (filled - reached) ' ' ++ fillTabs filled rest

/-- The text with spaces for its tabs. -/
def expandTabs (t : Text) : Text :=
  joinWith ['\n'] ((splitOn '\n' t).map fun line => fillTabs 0 (splitOn '\t' line))

end Typings.Console
