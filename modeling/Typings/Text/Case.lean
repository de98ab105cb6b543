import Typings.Text.Basic
import Typings.Text.CaseTable

/-!
# Upper and lower case

Case properties of single characters and the full case mappings. Lower-casing a text knows one
context: a capital sigma that ends a word becomes a final sigma.
-/

namespace Typings.Text

/-- The property Uppercase. -/
def isUpper (c : Char) : Bool :=
  if c.toNat < 0x80 then c.isUpper else inRuns upperRuns c.toNat

/-- The property Lowercase. -/
def isLower (c : Char) : Bool :=
  if c.toNat < 0x80 then c.isLower else inRuns lowerRuns c.toNat

/-- A lower-case character that is a letter. -/
def isLowerLetter (c : Char) : Bool := isLower c && !inRanges lowerSymbolRanges c.toNat

/-- A character with case: upper, lower or title. -/
def isCased (c : Char) : Bool := isUpper c || isLower c || inRanges titleRanges c.toNat

/-- A character that casing contexts look past. -/
def isCaseIgnorable (c : Char) : Bool :=
  if c.toNat < 0x80 then c.toNat == 0x27 || c == '.' || c == ':' || c == '^' || c.toNat == 0x60
  else inRanges ignorableRanges c.toNat

/-- The lower-case form of a character on its own. -/
def lowerChar (c : Char) : Text :=
  if c.toNat < 0x80 then [c.toLower]
  else if c.toNat = 0x130 then ['i', Char.ofNat 0x307]
  else [Char.ofNat (shifted lowerShifts c.toNat)]

/-- The upper-case form of a character, which may have several characters. -/
def upperChar (c : Char) : Text :=
  if c.toNat < 0x80 then [c.toUpper]
  else match upperExpansions.find? fun e => e.1 == c.toNat with
    | some (_, codes) => codes.map Char.ofNat
    | none => [Char.ofNat (shifted upperShifts c.toNat)]

/-- Whether the next character that is not ignorable has case. -/
def casedAhead (t : Text) : Bool :=
  match t.dropWhile isCaseIgnorable with
  | [] => false
  | c :: _ => isCased c

/-- Lower-casing after a text whose last character that is not ignorable has case, or has not. -/
def lowerAfter : Bool → Text → Text
  | _, [] => []
  | cased, c :: r =>
    (if c.toNat = 0x3A3 then [if cased && !casedAhead r then 'ς' else 'σ'] else lowerChar c)
      ++ lowerAfter (if isCaseIgnorable c then cased else isCased c) r

/-- The lower-case form of a text. -/
def lower (t : Text) : Text := lowerAfter false t

end Typings.Text
