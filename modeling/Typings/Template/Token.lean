import Typings.Text.Blank
import Typings.Text.Identifier
import Typings.Text.Quoted

/-!
# Tokens of a slot

What stands between the double braces of a slot falls into names, numbers, texts and symbols, with
blanks between them. While a bracket of a slot is open, double braces do not end the slot.
-/

namespace Typings.Template

open Text

/-- Why a text is no template. Tokens are given by what they are called. -/
inductive Fault where
  /-- What should be a name has a character that names do not have. -/
  | invalidName
  /-- A character starts no token; it has so many characters before it. -/
  | unknownChar (c : Char) (index : Nat)
  /-- A bracket is closed while another one is open. -/
  | crossed (bracket needed : Char)
  /-- A slot shows nothing. -/
  | emptySlot
  /-- Something cannot stand where it stands. -/
  | unexpected (found : Text)
  | misplaced (needed found : Text)
  /-- The text ends where something is needed. -/
  | unfinished (needed : Text)
  /-- A slot asks for a conversion that there is not. -/
  | unknownFilter (name : Text)
  deriving DecidableEq

/-- What the end of a slot is called. -/
def endOfSlot : Text := "end of print statement".toList

/-- The wording of the fault. -/
def Fault.message : Fault → Text
  | invalidName => "Invalid character in identifier".toList
  | unknownChar c index =>
    "unexpected char ".toList ++ quoted [c] ++ " at ".toList ++ ofNat index
  | crossed bracket needed =>
    "unexpected '".toList ++ bracket :: "', expected '".toList ++ [needed, apostrophe]
  | emptySlot => "Expected an expression, got ".toList ++ quoted endOfSlot
  | unexpected found => "unexpected ".toList ++ quoted found
  | misplaced needed found =>
    "expected token ".toList ++ quoted needed ++ ", got ".toList ++ quoted found
  | unfinished needed =>
    "unexpected end of template, expected ".toList ++ quoted needed ++ ['.']
  | unknownFilter name => "No filter named ".toList ++ quoted name ++ ['.']

/-- A token. -/
inductive Token where
  | name (t : Text)
  | integer
  | fractional
  | text
  | symbol (t : Text)
  | slotEnd
  | textEnd
  deriving DecidableEq

/-- What a token is called. -/
def Token.called : Token → Text
  | name t => t
  | integer => "integer".toList
  | fractional => "float".toList
  | text => "string".toList
  | symbol t => t
  | slotEnd => endOfSlot
  | textEnd => "end of template".toList

/-- A place in a slot: the brackets that are open, the innermost one first, and the text from there
to the end. -/
structure Place where
  opened : List Char := []
  rest : Text

/-- The end of a slot. -/
def slotEnding : Text := ['\x7d', '\x7d']

/-- Marks that are parts of names and are not taken for parts of names in slots. -/
def newMarkRanges : List (Nat × Nat) :=
  [(0x898, 0x89F), (0x8CA, 0x8D2), (0xB55, 0xB55), (0xC3C, 0xC3C), (0xD81, 0xD81), (0xEBA, 0xEBA),
   (0x1715, 0x1715), (0x180F, 0x180F), (0x1ABF, 0x1ACE), (0x1DFA, 0x1DFA), (0xA82C, 0xA82C),
   (0x10EAB, 0x10EAC), (0x10F82, 0x10F85), (0x11070, 0x11070), (0x11073, 0x11074),
   (0x110C2, 0x110C2), (0x111CE, 0x111CF), (0x11930, 0x11935), (0x11937, 0x11938),
   (0x1193B, 0x1193E), (0x11940, 0x11940), (0x11942, 0x11943), (0x119D1, 0x119D7),
   (0x119DA, 0x119E0), (0x119E4, 0x119E4), (0x16F4F, 0x16F4F), (0x16F7F, 0x16F87),
   (0x16FE4, 0x16FE4), (0x16FF0, 0x16FF1), (0x1CF00, 0x1CF2D), (0x1CF30, 0x1CF46),
   (0x1E130, 0x1E136), (0x1E2AE, 0x1E2AE), (0x1E2EC, 0x1E2EF)]

/-- Whether a character is taken for a part of a name, although the name may be none. -/
def isOfName (c : Char) : Bool :=
  isWordChar c || (isNamePart c && !inRanges newMarkRanges c.toNat)

/-- The text after digits, between which single underscores may stand. `inside` tells whether the
text follows a digit, so that it may start with an underscore. -/
def afterDigits (isDigit : Char → Bool) (inside : Bool) : Text → Text
  | '_' :: d :: r => if inside && isDigit d then afterDigits isDigit true r else '_' :: d :: r
  | d :: r => if isDigit d then afterDigits isDigit true r else d :: r
  | [] => []

/-- The text after decimal digits, if it starts with one. -/
def afterDecimal? (t : Text) : Option Text :=
  let rest := afterDigits isDecimalDigit false t
  if rest.length < t.length then some rest else none

/-- The text after an exponent, if it starts with one. -/
def afterExponent? : Text → Option Text
  | e :: r =>
    if e = 'e' ∨ e = 'E' then
      match r with
      | '+' :: r | '-' :: r => afterDecimal? r
      | r => afterDecimal? r
    else none
  | [] => none

/-- The text after a number with a fraction or an exponent, if it starts with one. -/
def afterFractional? (t : Text) : Option Text :=
  (afterDecimal? t).bind fun rest =>
    let afterPoint? := match rest with
      | '.' :: r => afterDecimal? r
      | _ => none
    afterExponent? (afterPoint?.getD rest) <|> afterPoint?

/-- The text after the digits of an integer, of which there must be one. -/
def afterRadix? (base : Nat) (t : Text) : Option Text :=
  let isDigit := fun c => ((hexDigit? c).map fun d => decide (d < base)).getD false
  let rest := afterDigits isDigit true t
  if rest.length < t.length then some rest else none

/-- The text after an integer, if it starts with one. Decimal integers other than zero do not start
with zero. -/
def afterInteger? : Text → Option Text
  | '0' :: r =>
    let radix := match r with
      | x :: digits =>
        if x = 'b' ∨ x = 'B' then afterRadix? 2 digits
        else if x = 'o' ∨ x = 'O' then afterRadix? 8 digits
        else if x = 'x' ∨ x = 'X' then afterRadix? 16 digits
        else none
      | [] => none
    some (radix.getD (afterDigits (· == '0') true r))
  | c :: r => if '1' ≤ c ∧ c ≤ '9' then some (afterDigits isDecimalDigit true r) else none
  | [] => none

/-- The text after what is quoted with a mark, after the mark at its start. -/
def afterQuoted? (mark : Char) : Text → Option Text
  | [] => none
  | '\\' :: _ :: r => afterQuoted? mark r
  | c :: r => if c = mark then some r else if c = '\\' then none else afterQuoted? mark r

/-- The symbols, the longer ones first. -/
def symbols : List Text :=
  ["//", "**", "==", "!=", ">=", "<=", "+", "-", "/", "*", "%", "~", "[", "]", "(", ")", "\x7b",
   "\x7d", ">", "<", "=", ".", ":", "|", ",", ";"].map String.toList

/-- What closes a bracket. -/
def closing? (symbol : Text) : Option Char :=
  [(['('], ')'), (['['], ']'), (['\x7b'], '\x7d')].lookup symbol

/-- The brackets that are open after a symbol, as what closes them. -/
def openedAfter (opened : List Char) (symbol : Text) : Except Fault (List Char) :=
  match closing? symbol, symbol with
  | some closing, _ => .ok (closing :: opened)
  | none, [c] =>
    if [')', ']', '\x7d'].contains c then
      match opened with
      | [] => .error (.unexpected [c])
      | needed :: outer => if c = needed then .ok outer else .error (.crossed c needed)
    else .ok opened
  | none, _ => .ok opened

/-- The text after the end of a slot, if it starts with one. A hyphen takes away the blanks after
the slot. -/
def afterSlotEnd? (t : Text) : Option Text :=
  if ('-' :: slotEnding).isPrefixOf t then some (trimStart (t.drop 3))
  else if slotEnding.isPrefixOf t then some (t.drop 2)
  else none

/-- A number at the start of a text, and what is left. -/
def number? (t : Text) : Option (Token × Text) :=
  ((afterFractional? t).map (.fractional, ·)) <|> ((afterInteger? t).map (.integer, ·))

/-- What is quoted at the start of a text, and what is left. -/
def quoted? : Text → Option (Token × Text)
  | mark :: r =>
    if mark = '"' ∨ mark = apostrophe then (afterQuoted? mark r).map (.text, ·) else none
  | [] => none

/-- The next token in a text of the given size, and the place after it. -/
def Place.next (size : Nat) (place : Place) : Except Fault (Token × Place) :=
  let t := trimStart place.rest
  match t with
  | [] => .ok (.textEnd, { place with rest := [] })
  | c :: _ =>
    match if place.opened.isEmpty then afterSlotEnd? t else none with
    | some rest => .ok (.slotEnd, { place with rest })
    | none =>
      match number? t with
      | some (token, rest) => .ok (token, { place with rest })
      | none =>
        if isOfName c then
          let name := t.takeWhile isOfName
          if isIdentifier name then .ok (.name name, { place with rest := t.drop name.length })
          else .error .invalidName
        else
          match quoted? t, symbols.find? (·.isPrefixOf t) with
          | some (token, rest), _ => .ok (token, { place with rest })
          | none, some symbol =>
            (openedAfter place.opened symbol).map fun opened =>
              (.symbol symbol, { opened, rest := t.drop symbol.length })
          | none, none => .error (.unknownChar c (size - t.length))

end Typings.Template
