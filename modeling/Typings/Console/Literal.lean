import Typings.Source.Literal
import Typings.Text.CharacterName
import Typings.Text.Lines
import Typings.Text.Word

/-!
# Literal parameters

The parameters of a tag for an action are a literal: numbers, texts, bytes, a few words, and tuples,
sets and dictionaries of literals. Only whether a text is a literal matters, not its value.

Every function reads one thing at the start of a text and gives what is left. `nested` tells whether
the text lies between brackets, where lines may end.
-/

namespace Typings.Console.Literal

open Text

/-- What kind of literal was read, as far as it decides what may hold it. -/
inductive Kind where
  | number (imaginary signed : Bool)
  /-- A number with an imaginary part, made of two numbers. -/
  | sum
  | text
  | bytes
  /-- A word that is a value. -/
  | word
  | tuple (hashable : Bool)
  /-- A set or a dictionary. -/
  | collection
  /-- The word for sets, which is no value unless brackets follow it. -/
  | setWord
  deriving DecidableEq, Repr

/-- Whether a literal may be a member of a set or a key of a dictionary. -/
def Kind.isHashable : Kind → Bool
  | tuple hashable => hashable
  | collection => false
  | _ => true

/-- Whether what was read is a value. -/
def Kind.isValue (k : Kind) : Bool := k != .setWord

/-- What a reader gives: the kind of literal, and the text that is left. -/
abbrev Result := Option (Kind × Text)

/-- Whether a character separates tokens within a line. -/
def isSpace (c : Char) : Bool := c == ' ' || c == '\t' || c.toNat == 12

/-- Whether a character ends a line. -/
def isLineEnd (c : Char) : Bool := c == '\n' || c == '\r'

/-- The text without the space and the comments before its first token; the first argument tells
whether a comment goes on. -/
def skipFrom (nested : Bool) : Bool → Text → Text
  | _, [] => []
  | true, c :: r => if isLineEnd c then (if nested then skipFrom nested false r else c :: r)
      else skipFrom nested true r
  | false, '\\' :: '\n' :: r => skipFrom nested false r
  | false, c :: r =>
    if isSpace c || (nested && isLineEnd c) then skipFrom nested false r
    else if c = '#' then skipFrom nested true r
    else c :: r

/-- The text from its first token on. -/
def skip (nested : Bool) (t : Text) : Text := skipFrom nested false t

/-! ## Numbers -/

/-- Whether a character is a digit in a base of at most ten. -/
def isDigitBelow (base : Nat) (c : Char) : Bool := '0' ≤ c && c.toNat < '0'.toNat + base

/-- Whether a character is a decimal digit. -/
def isDecimal (c : Char) : Bool := isDigitBelow 10 c

/-- Whether a character is a hexadecimal digit. -/
def isHexDigit (c : Char) : Bool := (hexDigit? c).isSome

/-- The digits at the start of a text, with single underscores between them, and what is left. -/
def digitsFrom (isDigit : Char → Bool) : Bool → Text → Text × Text
  | true, '_' :: d :: r =>
    if isDigit d then
      let (digits, rest) := digitsFrom isDigit true r
      (d :: digits, rest)
    else ([], '_' :: d :: r)
  | _, d :: r =>
    if isDigit d then
      let (digits, rest) := digitsFrom isDigit true r
      (d :: digits, rest)
    else ([], d :: r)
  | _, [] => ([], [])

/-- Whether a number may end before a text. -/
def endsNumber (rest : Text) : Bool :=
  match rest with
  | [] => true
  | c :: _ => !isWordChar c && c.toNat < 0x80

/-- How the digits of a number without point and sign are told apart in each base. -/
def radixDigits? (c : Char) : Option (Char → Bool) :=
  if c = 'x' ∨ c = 'X' then some isHexDigit
  else if c = 'o' ∨ c = 'O' then some (isDigitBelow 8)
  else if c = 'b' ∨ c = 'B' then some (isDigitBelow 2)
  else none

/-- The text after the exponent at its start, if there is one. -/
def skipExponent (t : Text) : Text :=
  match t with
  | e :: r =>
    let power := match r with
      | '+' :: r | '-' :: r => r
      | r => r
    match digitsFrom isDecimal false power with
    | ([], _) => t
    | (_, rest) => if e = 'e' ∨ e = 'E' then rest else t
  | [] => []

/-- Whether digits may be those of an integer: only zero starts with zero. -/
def isWholeNumber (digits : Text) : Bool :=
  digits.length ≤ Source.maxDigits && (digits.head? != some '0' || digits.all (· == '0'))

/-- A decimal number. -/
def decimalNumber (t : Text) : Result :=
  let (whole, rest) := digitsFrom isDecimal false t
  let (places, afterPoint) := match rest with
    | '.' :: r => digitsFrom isDecimal false r
    | r => ([], r)
  if whole.isEmpty && places.isEmpty then none
  else
    let left := skipExponent afterPoint
    match left with
    | c :: r =>
      if c = 'j' ∨ c = 'J' then if endsNumber r then some (.number true false, r) else none
      else if endsNumber left && (left.length < rest.length || isWholeNumber whole) then
        some (.number false false, left)
      else none
    | [] =>
      if left.length < rest.length || isWholeNumber whole then some (.number false false, [])
      else none

/-- A number. -/
def number (t : Text) : Result :=
  match t with
  | '0' :: c :: r =>
    match radixDigits? c with
    | none => decimalNumber t
    | some isDigit =>
      match digitsFrom isDigit true r with
      | ([], _) => none
      | (_, rest) => if endsNumber rest then some (.number false false, rest) else none
  | _ => decimalNumber t

/-! ## Texts and bytes -/

/-- Whether so many characters at the start of a text are hexadecimal digits. -/
def startsWithHex (count : Nat) (t : Text) : Bool :=
  count ≤ t.length && (t.take count).all isHexDigit

/-- Whether a text starts with the name of a character in curly brackets. -/
def startsWithName : Text → Bool
  | '\x7b' :: r =>
    let name := r.takeWhile fun c => c != '\x7d'
    isCharacterName name && name.length < r.length
  | _ => false

/-- Whether a character may follow a backslash before a text. -/
def isEscape (isBytes : Bool) (c : Char) (t : Text) : Bool :=
  match c with
  | 'x' => startsWithHex 2 t
  | 'u' => isBytes || startsWithHex 4 t
  | 'U' =>
    isBytes || (startsWithHex 8 t && valueOf 16 ((t.take 8).filterMap hexDigit?) < 0x110000)
  | 'N' => isBytes || startsWithName t
  | _ => true

/-- How a text or bytes are written. -/
structure Quoting where
  isRaw : Bool
  isBytes : Bool
  /-- What ends them. -/
  ending : Text

/-- The text after the end of what is quoted. -/
def afterQuoted (q : Quoting) : Text → Option Text
  | [] => none
  | '\\' :: c :: r =>
    if q.isBytes && 0x80 ≤ c.toNat then none
    else if q.isRaw || isEscape q.isBytes c r then afterQuoted q r
    else none
  | c :: r =>
    if q.ending.isPrefixOf (c :: r) then some (r.drop (q.ending.length - 1))
    else if (isLineEnd c && q.ending.length == 1) || (q.isBytes && 0x80 ≤ c.toNat) then none
    else afterQuoted q r

/-- What the letters before a quotation mark say. -/
def quotingOf? (letters ending : Text) : Option Quoting :=
  [("", false, false), ("u", false, false), ("r", true, false), ("b", false, true),
    ("br", true, true), ("rb", true, true)].findSome? fun (name, isRaw, isBytes) =>
      if name.toList = letters.map Char.toLower then some { isRaw, isBytes, ending } else none

/-- What ends a text that starts with a quotation mark. -/
def endingOf (mark : Char) (t : Text) : Text :=
  if t.take 3 = [mark, mark, mark] then [mark, mark, mark] else [mark]

/-- One text or bytes. -/
def oneQuoted (t : Text) : Result :=
  let letters := t.takeWhile Char.isAlpha
  match t.drop letters.length with
  | [] => none
  | mark :: r =>
    if mark = '"' ∨ mark = apostrophe then
      let ending := endingOf mark (mark :: r)
      (quotingOf? letters ending).bind fun q =>
        (afterQuoted q ((mark :: r).drop ending.length)).map fun rest =>
          (if q.isBytes then .bytes else .text, rest)
    else none

/-- Texts or bytes that follow each other and are all of one kind; `fuel` is at least the length. -/
def quotedRun (nested : Bool) : Nat → Text → Result
  | 0, _ => none
  | fuel + 1, t =>
    (oneQuoted t).bind fun (kind, rest) =>
      match oneQuoted (skip nested rest) with
      | none => some (kind, rest)
      | some _ =>
        (quotedRun nested fuel (skip nested rest)).bind fun (next, rest) =>
          if next = kind then some (kind, rest) else none

/-! ## Values -/

/-- A word. -/
def word (t : Text) : Result :=
  let name := t.takeWhile isWordChar
  let rest := t.drop name.length
  if name = "set".toList then some (.setWord, rest)
  else if ["None".toList, "True".toList, "False".toList].contains name then some (.word, rest)
  else none

/-- Whether a text starts with the mark that is a value of its own. -/
def startsWithDots (t : Text) : Bool := ['.', '.', '.'].isPrefixOf t

mutual

/-- A literal, which may be a number with a sign or a sum of a real and an imaginary number. `room`
is how many more brackets may be open, and `fuel` is more than twice the length. -/
def expression : Nat → Bool → Nat → Text → Result
  | 0, _, _, _ => none
  | fuel + 1, nested, room, t =>
    match operand fuel nested room t with
    | none => none
    | some (left, rest) =>
      match skip nested rest with
      | [] => some (left, [])
      | c :: r =>
        if c = '+' ∨ c = '-' then
          match left, primary fuel nested room (skip nested r) with
          | .number false _, some (.number true false, rest) => some (.sum, rest)
          | _, _ => none
        else some (left, c :: r)

/-- A literal without operator between two others. -/
def operand : Nat → Bool → Nat → Text → Result
  | 0, _, _, _ => none
  | fuel + 1, nested, room, t =>
    match t with
    | [] => none
    | c :: r =>
      if c = '+' ∨ c = '-' then
        match primary fuel nested room (skip nested r) with
        | some (.number imaginary false, rest) => some (.number imaginary true, rest)
        | _ => none
      else primary fuel nested room t

/-- A literal without sign. -/
def primary : Nat → Bool → Nat → Text → Result
  | 0, _, _, _ => none
  | fuel + 1, nested, room, t =>
    match atom fuel nested room t with
    | some (.setWord, rest) =>
      match skip nested rest with
      | '(' :: r =>
        match skip true r with
        | ')' :: rest => some (.collection, rest)
        | _ => none
      | _ => some (.setWord, rest)
    | result => result

/-- A number, a word, what is quoted, or what is in brackets. -/
def atom : Nat → Bool → Nat → Text → Result
  | 0, _, _, _ => none
  | fuel + 1, nested, room, t =>
    match t, room with
    | '(' :: r, room + 1 =>
      match skip true r with
      | ')' :: rest => some (.tuple true, rest)
      | r =>
        match expression fuel true room r with
        | none => none
        | some (kind, rest) =>
          match skip true rest with
          | ')' :: rest => some (kind, rest)
          | rest => tupleRest fuel room kind rest
    | '\x7b' :: r, room + 1 =>
      match skip true r with
      | '\x7d' :: rest => some (.collection, rest)
      | r => (entries fuel room none r).map (.collection, ·)
    | '(' :: _, 0 | '\x7b' :: _, 0 => none
    | t, _ =>
      if startsWithDots t then some (.word, t.drop 3)
      else number t <|> quotedRun nested fuel t <|> word t

/-- The rest of a tuple after an item. -/
def tupleRest : Nat → Nat → Kind → Text → Result
  | 0, _, _, _ => none
  | fuel + 1, room, kind, t =>
    if !kind.isValue then none
    else match t with
      | ',' :: r =>
        match skip true r with
        | ')' :: rest => some (.tuple kind.isHashable, rest)
        | r =>
          match expression fuel true room r with
          | none => none
          | some (next, rest) =>
            match skip true rest with
            | ')' :: rest =>
              if next.isValue then some (.tuple (kind.isHashable && next.isHashable), rest)
              else none
            | rest =>
              match tupleRest fuel room next rest with
              | some (.tuple hashable, rest) => some (.tuple (kind.isHashable && hashable), rest)
              | _ => none
      | _ => none

/-- The members of a set or of a dictionary up to the closing bracket, as the first one decides. -/
def entries : Nat → Nat → Option Bool → Text → Option Text
  | 0, _, _, _ => none
  | fuel + 1, room, isDictionary, t =>
    match expression fuel true room t with
    | none => none
    | some (key, rest) =>
      if !key.isValue || !key.isHashable then none
      else
        let after : Option (Bool × Text) := match skip true rest with
          | ':' :: r =>
            match expression fuel true room (skip true r) with
            | some (value, rest) => if value.isValue then some (true, skip true rest) else none
            | none => none
          | rest => some (false, rest)
        match after with
        | none => none
        | some (isPair, rest) =>
          if isDictionary.getD isPair != isPair then none
          else match rest with
            | '\x7d' :: rest => some rest
            | ',' :: r =>
              match skip true r with
              | '\x7d' :: rest => some rest
              | r => entries fuel room (some isPair) r
            | _ => none

end

/-- How many brackets may be open. -/
def maxOpen : Nat := 200

/-- Whether nothing is left but space, line ends and comments. -/
def isAtEnd (t : Text) : Bool := (skip true t).isEmpty

/-- The literals that are separated by commas up to the end; `fuel` is at least the length. -/
def sequence : Nat → Text → Bool
  | 0, _ => false
  | fuel + 1, t =>
    match expression (4 * t.length + 4) false maxOpen t with
    | none => false
    | some (kind, rest) =>
      kind.isValue && match skip false rest with
        | ',' :: r => isAtEnd r || sequence fuel (skip false r)
        | rest => isAtEnd rest

/-- A text from its first token on, unless the line of that token is indented. Lines of comments do
not count, a form feed takes the indentation back, and lines that a backslash puts together are
indented as far as the first of them that is. The arguments tell whether a comment goes on, and how
far the line and those put together with it are indented. -/
def unindented? : Bool → Nat → Nat → Text → Option Text
  | _, _, _, [] => some []
  | true, _, _, c :: r => unindented? (c != '\n') 0 0 r
  | false, _, _, '\n' :: r => unindented? false 0 0 r
  | false, _, _, '#' :: r => unindented? true 0 0 r
  | false, column, before, '\\' :: '\n' :: r =>
    unindented? false column (if before = 0 then column else before) r
  | false, column, before, c :: r =>
    if c = ' ' ∨ c = '\t' then unindented? false (column + 1) before r
    else if c.toNat = 12 then unindented? false 0 before r
    else if before = 0 ∧ column = 0 then some (c :: r)
    else none

/-- Whether a text is a literal, or several ones with commas between them. -/
def isLiteral (t : Text) : Bool :=
  match unindented? false 0 0 (unifyBreaks t) with
  | none => false
  | some body => !t.contains (Char.ofNat 0) && sequence (body.length + 1) body

end Typings.Console.Literal
