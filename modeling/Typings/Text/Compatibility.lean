import Typings.Text.Basic
import Typings.Text.CompatibilityTable

/-!
# Compatible characters

Some characters of names are made of others: a letter of a base and its accents, a ligature of its
letters, a syllable of Hangul of its sounds. Two names are compatible if they have the same form
once every character is replaced by what it is made of and the marks on every base are in order.
-/

namespace Typings.Text

/-- The number that hexadecimal digits denote. -/
def hexValue (t : Text) : Nat := valueOf 16 (t.filterMap hexDigit?)

/-- What one entry of a row says: for one character or for several neighbours. -/
def entryTexts (entry : Text) : List Text :=
  match splitOn '-' entry with
  | [first, last] =>
    (List.range (hexValue last + 1 - hexValue first)).map fun k => [Char.ofNat (hexValue first + k)]
  | _ => [(splitOn '.' entry).map fun digits => Char.ofNat (hexValue digits)]

/-- A row of the table: the number of the first of several neighbours, and what each is made of. -/
def decompositionRow? (row : Text) : Option (Nat × List Text) :=
  (cut? ['='] row).map fun (first, entries) =>
    (hexValue first, (splitOn ' ' entries).flatMap entryTexts)

/-- The table of what characters are made of. -/
def decompositions : List (Nat × List Text) :=
  (splitOn ',' (decompositionRows.toList.filter (· != '\n'))).filterMap decompositionRow?

/-- The sounds of a syllable of Hangul. The syllables are numbered by 19 onsets, 21 vowels and 28
codas, the first of which is none. -/
def sounds? (n : Nat) : Option Text :=
  if 0xAC00 ≤ n ∧ n < 0xAC00 + 19 * 21 * 28 then
    let k := n - 0xAC00
    let coda := if k % 28 = 0 then [] else [Char.ofNat (0x11A7 + k % 28)]
    some (Char.ofNat (0x1100 + k / (21 * 28)) :: Char.ofNat (0x1161 + k / 28 % 21) :: coda)
  else none

/-- What a character is made of, itself if it is made of no others. -/
def decomposed (c : Char) : Text :=
  let n := c.toNat
  let listed := decompositions.findSome? fun (first, made) =>
    if first ≤ n then made[n - first]? else none
  ((sounds? n <|> listed).getD [c])

/-- The class of a mark, zero for all other characters. -/
def markClass (c : Char) : Nat :=
  ((markClassRanges.find? fun (first, last, _) => first ≤ c.toNat && c.toNat ≤ last).map
    (·.2.2)).getD 0

/-- A text in order with one more character in front, which moves behind marks of lower classes. -/
def insertMark (c : Char) : Text → Text
  | [] => [c]
  | d :: r =>
    if 0 < markClass d ∧ markClass d < markClass c then d :: insertMark c r else c :: d :: r

/-- The text with the marks on every base in the order of their classes. -/
def inMarkOrder : Text → Text
  | [] => []
  | c :: r => insertMark c (inMarkOrder r)

/-- The form that compatible names have in common. -/
def compatibilityForm (t : Text) : Text := inMarkOrder (t.flatMap decomposed)

end Typings.Text
