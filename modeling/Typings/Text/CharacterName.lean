import Typings.Text.Basic
import Typings.Text.NameTable
import Typings.Text.Ranges

/-!
# Characters by name

Which texts are names of characters. Most names stand in a tree of words and may be written in any
case. Some end in a number of their character, and those of syllables are put together from parts.
-/

namespace Typings.Text

/-- Whether a character of the tree belongs to a word. -/
def isOfWord (c : Char) : Bool := c != ' ' && c != ',' && c != '.' && c != '(' && c != ')'

/-- The tree from the end of a word on, without all that may come after the word; `depth` is the
number of brackets that are open. -/
def afterBranch : Nat → Text → Text
  | _, [] => []
  | depth, '(' :: r => afterBranch (depth + 1) r
  | 0, ')' :: r => ')' :: r
  | depth + 1, ')' :: r => afterBranch depth r
  | 0, ',' :: r => ',' :: r
  | depth, _ :: r => afterBranch depth r

/-- Whether words can be followed from the start of a tree to an end; `fuel` is more than the size
of the tree. -/
def followsTree : Nat → List Text → Text → Bool
  | 0, _, _ | _, [], _ => false
  | fuel + 1, word :: rest, tree =>
    let label := tree.takeWhile isOfWord
    let branch := tree.drop label.length
    if label = word then
      match rest, branch with
      | [], '(' :: _ | [], ' ' :: _ => false
      | [], _ => true
      | rest, '.' :: '(' :: tree | rest, '(' :: tree | rest, ' ' :: tree =>
        followsTree fuel rest tree
      | _, _ => false
    else
      match afterBranch 0 branch with
      | ',' :: tree => followsTree fuel (word :: rest) tree
      | _ => false

/-- Names that begin with the same words and end in a number, in so many digits at least. -/
structure NumberedNames where
  stem : String
  base : Nat
  width : Nat
  first : Nat
  last : Nat

/-- The names that end in a number and may be written in any case. -/
def numberedNames : List NumberedNames :=
  [⟨"CJK COMPATIBILITY IDEOGRAPH-", 16, 4, 0xF900, 0xFA6D⟩,
   ⟨"CJK COMPATIBILITY IDEOGRAPH-", 16, 4, 0xFA70, 0xFAD9⟩,
   ⟨"CJK COMPATIBILITY IDEOGRAPH-", 16, 4, 0x2F800, 0x2FA1D⟩,
   ⟨"KHITAN SMALL SCRIPT CHARACTER-", 16, 4, 0x18B00, 0x18CD5⟩,
   ⟨"NUSHU CHARACTER-", 16, 4, 0x1B170, 0x1B2FB⟩,
   ⟨"TANGUT COMPONENT-", 10, 3, 1, 768⟩,
   ⟨"VARIATION SELECTOR-", 10, 1, 1, 256⟩,
   ⟨"VS", 10, 1, 1, 256⟩]

/-- The ending of the name with a number. -/
def NumberedNames.ending (names : NumberedNames) (n : Nat) : Text :=
  let digits := (Nat.toDigits names.base n).map Char.toUpper
  List.replicate (names.width - digits.length) '0' ++ digits

/-- Whether a text in capital letters is one of the names. -/
def NumberedNames.has (names : NumberedNames) (name : Text) : Bool :=
  let stem := names.stem.toList
  stem.isPrefixOf name &&
    let ending := name.drop stem.length
    match ending.mapM hexDigit? with
    | none => false
    | some digits =>
      let n := valueOf names.base digits
      names.first ≤ n && n ≤ names.last && ending == names.ending n

/-- What the names of unified ideographs begin with. -/
def ideographStem : Text := "CJK UNIFIED IDEOGRAPH-".toList

/-- The unified ideographs. -/
def ideographRanges : List (Nat × Nat) :=
  [(0x3400, 0x4DBF), (0x4E00, 0x9FFF), (0x20000, 0x2A6DF), (0x2A700, 0x2B738), (0x2B740, 0x2B81D),
   (0x2B820, 0x2CEA1), (0x2CEB0, 0x2EBE0), (0x30000, 0x3134A)]

/-- Whether a text is the number of a unified ideograph in four or five digits. -/
def isIdeographNumber (t : Text) : Bool :=
  (t.length == 4 || t.length == 5) &&
    match t.mapM hexDigit? with
    | none => false
    | some digits => !t.any Char.isLower && inRanges ideographRanges (valueOf 16 digits)

/-- What the names of syllables begin with. -/
def syllableStem : Text := "HANGUL SYLLABLE ".toList

/-- How syllables begin. -/
def syllableOnsets : List String :=
  ["", "G", "GG", "N", "D", "DD", "R", "M", "B", "BB", "S", "SS", "J", "JJ", "C", "K", "T", "P",
   "H"]

/-- The vowels of syllables. -/
def syllableVowels : List String :=
  ["A", "AE", "YA", "YAE", "EO", "E", "YEO", "YE", "O", "WA", "WAE", "OE", "YO", "U", "WEO", "WE",
   "WI", "YU", "EU", "YI", "I"]

/-- How syllables end. -/
def syllableCodas : List String :=
  ["", "G", "GG", "GS", "N", "NJ", "NH", "D", "L", "LG", "LM", "LB", "LS", "LT", "LP", "LH", "M",
   "B", "BS", "S", "SS", "NG", "J", "C", "K", "T", "P", "H"]

/-- Whether a text is a syllable. -/
def isSyllable (t : Text) : Bool :=
  syllableOnsets.any fun onset => onset.toList.isPrefixOf t &&
    let rest := t.drop onset.length
    syllableVowels.any fun vowel => vowel.toList.isPrefixOf rest &&
      syllableCodas.any fun coda => rest.drop vowel.length == coda.toList

/-- Whether a text is the name of a character. -/
def isCharacterName (t : Text) : Bool :=
  if syllableStem.isPrefixOf t then isSyllable (t.drop syllableStem.length)
  else if ideographStem.isPrefixOf t then isIdeographNumber (t.drop ideographStem.length)
  else
    let name := t.map Char.toUpper
    let tree := nameTree.toList.filter (· != '\n')
    numberedNames.any (·.has name) || followsTree (tree.length + 1) (splitOn ' ' name) tree

end Typings.Text
