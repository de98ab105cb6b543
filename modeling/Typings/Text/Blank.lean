import Typings.Text.Basic

/-!
# Blanks

The characters that separate words, and the two operations built on them: trimming, and cutting a
text into its words.
-/

namespace Typings.Text

/-- White space: the controls from tab to carriage return and from file separator to unit
separator, the space, next line, and the spaces and separators of Unicode. The zero-width space
and the byte order mark are not blank. -/
def isBlank (c : Char) : Bool :=
  let n := c.toNat
  (9 ≤ n && n ≤ 13) || (28 ≤ n && n ≤ 32) || n == 0x85 || n == 0xA0 || n == 0x1680
    || (0x2000 ≤ n && n ≤ 0x200A) || n == 0x2028 || n == 0x2029 || n == 0x202F || n == 0x205F
    || n == 0x3000

/-- Whether a text has no character other than blanks. -/
def isBlankText (t : Text) : Bool := t.all isBlank

/-- The text without its leading blanks. -/
def trimStart (t : Text) : Text := t.dropWhile isBlank

/-- The text without its trailing blanks. -/
def trimEnd : Text → Text
  | [] => []
  | c :: r =>
    match trimEnd r with
    | [] => if isBlank c then [] else [c]
    | d :: s => c :: d :: s

/-- The text without the blanks at either end. -/
def trim (t : Text) : Text := trimEnd (trimStart t)

/-- The longest runs of characters that are not blank, in order. -/
def words : Text → List Text
  | [] => []
  | [c] => if isBlank c then [] else [[c]]
  | c :: d :: r =>
    if isBlank c then words (d :: r)
    else if isBlank d then [c] :: words (d :: r)
    else match words (d :: r) with
      | [] => [[c]]
      | w :: ws => (c :: w) :: ws

end Typings.Text
