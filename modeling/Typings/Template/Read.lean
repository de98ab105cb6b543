import Typings.Template.Slot
import Typings.Text.Compatibility
import Typings.Text.Lines

/-!
# Reading templates

Templates of plain text and slots, which stand in double braces. Names that are compatible are one
name, and the spelling that appears last for the first time is the one that counts.
-/

namespace Typings.Template

open Text

/-- The opening of a slot. -/
def slotOpening : Text := ['\x7b', '\x7b']

/-- The name of the conversion to camel case. -/
def camelFilter : Text := "camel_case".toList

/-- The name that a template has for itself. -/
def selfName : Text := "self".toList

/-- Other conversions that there are. What they come to is not known here. -/
def otherFilters : List Text :=
  ["abs", "attr", "batch", "capitalize", "center", "count", "d", "default", "dictsort", "e",
   "escape", "filesizeformat", "first", "float", "forceescape", "format", "groupby", "indent",
   "int", "items", "join", "last", "length", "list", "lower", "map", "max", "min", "pprint",
   "random", "reject", "rejectattr", "replace", "reverse", "round", "safe", "select", "selectattr",
   "slice", "sort", "string", "striptags", "sum", "title", "tojson", "trim", "truncate", "unique",
   "upper", "urlencode", "urlize", "wordcount", "wordwrap", "xmlattr"].map String.toList

/-- A part of a text: plain, or a slot with the text that spells it. -/
inductive Piece where
  | plain (t : Text)
  | slot (slot : Slot) (spelling : Text)

/-- The name in a piece. -/
def Piece.name? : Piece → Option Text
  | .plain _ => none
  | .slot s _ =>
    match s.operand with
    | .name t => some t
    | _ => none

/-- Plain text in front of pieces, joined to plain text that they start with. -/
def pushPlain (t : Text) : List Piece → List Piece
  | .plain next :: pieces => .plain (t ++ next) :: pieces
  | pieces => .plain t :: pieces

/-- Where plain text ends: the text before and after the next opening of a slot. A hyphen in the
opening takes away the blanks before the slot; a plus sign in it says nothing. -/
def cutOpening? (t : Text) : Option (Text × Text) :=
  (cut? slotOpening t).map fun
    | (before, '-' :: rest) => (trimEnd before, rest)
    | (before, '+' :: rest) => (before, rest)
    | (before, rest) => (before, rest)

/-- The pieces of the rest of a text of the given size, up to the first fault; `fuel` is more than
the length of the rest. -/
def piecesOf (size : Nat) : Nat → Text → Except Fault (List Piece)
  | 0, _ => .ok []
  | fuel + 1, t =>
    match cutOpening? t with
    | none => .ok [.plain t]
    | some (before, rest) =>
      match Slot.read size rest with
      | .error (.fault fault) => .error fault
      | .error .notUnderstood =>
        (piecesOf size fuel rest).map fun pieces => pushPlain (before ++ slotOpening) pieces
      | .ok (slot, after) =>
        let spelling := slotOpening ++ rest.take (rest.length - after.length)
        (piecesOf size fuel after).map fun pieces => .plain before :: .slot slot spelling :: pieces

/-- The first conversion of a slot that there is not. The last one is asked for first. -/
def Slot.unknownFilter? (slot : Slot) : Option Text :=
  slot.filters.reverse.find? fun filter => filter ≠ camelFilter ∧ !otherFilters.contains filter

/-- The first conversion in pieces that there is not. -/
def unknownFilter? (pieces : List Piece) : Option Text :=
  pieces.findSome? fun
    | .plain _ => none
    | .slot s _ => s.unknownFilter?

/-- The names in pieces, each once, in the order in which they first appear. The name of the
template for itself comes before all others. -/
def namesOf (pieces : List Piece) : List Text :=
  let names := (pieces.filterMap Piece.name?).eraseDups
  names.filter (· = selfName) ++ names.filter (· ≠ selfName)

/-- The name that counts for a name: the last one that is compatible with it. -/
def representative (names : List Text) (name : Text) : Text :=
  let form := compatibilityForm name
  (names.reverse.find? fun other => compatibilityForm other = form).getD name

/-- The part that a piece stands for. A slot whose conversions are not known stays as it is spelled.
-/
def Piece.part (names : List Text) : Piece → Part
  | .plain t => .plain t
  | .slot s spelling =>
    match s.operand, s.filters with
    | .name t, [] => .slot [representative names t] false
    | .constant v, [] => .fixed v false
    | .name t, [filter] =>
      if filter = camelFilter then .slot [representative names t] true else .plain spelling
    | .constant v, [filter] => if filter = camelFilter then .fixed v true else .plain spelling
    | _, _ => .plain spelling

/-- Reads a template of plain text and slots. -/
def ofText (content : Text) : Except Fault Template :=
  let content := unifyBreaks content
  match piecesOf content.length (content.length + 1) content with
  | .error fault => .error fault
  | .ok pieces =>
    match unknownFilter? pieces with
    | some name => .error (.unknownFilter name)
    | none => .ok (pieces.map (Piece.part (namesOf pieces)))

end Typings.Template
