import Typings.Json.Basic

/-!
# Reading JSON

The grammar of JSON over text, with `NaN`, `Infinity` and `-Infinity` as numbers besides. The last
of several members with one key counts. Every function reads one thing at the start of a text and
gives what is left.

A text that is no JSON is refused with the first thing that is wrong and its place. While a text is
read, a place is kept as the number of characters from there to the end.
-/

namespace Typings.Json

open Text

/-- What is wrong with a text that is no JSON. -/
inductive Problem where
  | noValue
  | noName
  | noColon
  | noComma
  /-- A string holds a control. -/
  | control
  /-- A string does not end. -/
  | openString
  | unknownEscape
  /-- An escape by number lacks digits, or ends the text. -/
  | numberEscape
  /-- Something follows the value. -/
  | extraData
  | byteOrderMark
  deriving DecidableEq, Repr

/-- The wording of the problem. -/
def Problem.wording : Problem → Text
  | noValue => "Expecting value".toList
  | noName => "Expecting property name enclosed in double quotes".toList
  | noColon => "Expecting ':' delimiter".toList
  | noComma => "Expecting ',' delimiter".toList
  | control => "Invalid control character at".toList
  | openString => "Unterminated string starting at".toList
  | unknownEscape => "Invalid \\escape".toList
  | numberEscape => "Invalid \\uXXXX escape".toList
  | extraData => "Extra data".toList
  | byteOrderMark => "Unexpected UTF-8 BOM (decode using utf-8-sig)".toList

/-- Why a text is not read. -/
inductive ReadError where
  /-- The text is no JSON. What is wrong is so many characters before its end. -/
  | malformed (problem : Problem) (left : Nat)
  | tooManyDigits (count : Nat)
  /-- Arrays and objects are nested too deeply. -/
  | tooDeep
  deriving DecidableEq

/-- A place in a text: its line and column, counted from one, and its index. -/
structure Place where
  line : Nat
  column : Nat
  index : Nat
  deriving DecidableEq

/-- The place in a text after its beginning. -/
def Place.after (beginning : Text) : Place :=
  { line := beginning.count '\n' + 1
    column := (afterLast '\n' beginning).length + 1
    index := beginning.length }

/-- The sentence that reports a problem so many characters before the end of a text. -/
def Problem.message (problem : Problem) (t : Text) (left : Nat) : Text :=
  let place := Place.after (t.take (t.length - left))
  problem.wording ++ ": line ".toList ++ Text.ofNat place.line ++ " column ".toList
    ++ Text.ofNat place.column ++ " (char ".toList ++ Text.ofNat place.index ++ [')']

/-- The most digits that an integer may have. -/
def maxDigits : Nat := 4300

/-- How deep arrays and objects may be nested. -/
def maxDepth : Nat := 980

/-- Whether a character may stand between the tokens. -/
def isSpace (c : Char) : Bool := c == ' ' || c == '\t' || c == '\n' || c == '\r'

/-- The text without leading space. -/
def skipSpace (t : Text) : Text := t.dropWhile isSpace

/-- The text after a token that stands at its start. -/
def token? (token t : Text) : Option Text :=
  if token.isPrefixOf t then some (t.drop token.length) else none

/-- The number of four hexadecimal digits that do not end the text. -/
def hexQuad? : Text → Option (Nat × Text)
  | _ :: _ :: _ :: [_] => none
  | a :: b :: c :: d :: r => ([a, b, c, d].mapM hexDigit?).map fun digits => (valueOf 16 digits, r)
  | _ => none

/-- The escape by number at the start of a text. -/
def numberEscape (t : Text) : Except ReadError (Nat × Text) :=
  match t with
  | '\\' :: 'u' :: r => (hexQuad? r).elim (.error (.malformed .numberEscape (r.length + 1))) .ok
  | _ => .error (.malformed .numberEscape t.length)

/-- The number of the code point of an escape by number: two surrogates that are neighbours make
one, and any other surrogate is one by itself. -/
def codePoint (t : Text) : Except ReadError (Nat × Text) :=
  match numberEscape t with
  | .error e => .error e
  | .ok (n, rest) =>
    match rest with
    | '\\' :: 'u' :: _ :: _ :: _ :: _ :: _ :: _ =>
      if CodePoint.isHighSurrogate n then
        match numberEscape rest with
        | .error e => .error e
        | .ok (low, after) =>
          if CodePoint.isLowSurrogate low then .ok (CodePoint.joinSurrogates n low, after)
          else .ok (n, rest)
      else .ok (n, rest)
    | _ => .ok (n, rest)

/-- The character that a letter stands for after a backslash. -/
def letterEscape? : Char → Option Char
  | '"' => some '"'
  | '\\' => some '\\'
  | '/' => some '/'
  | 'b' => some (Char.ofNat 8)
  | 'f' => some (Char.ofNat 12)
  | 'n' => some '\n'
  | 'r' => some '\r'
  | 't' => some '\t'
  | _ => none

/-- The rest of a string, after the code points in `seen`, the last one first. `start` is the place
of the opening quotation mark, and `fuel` is more than the length of the text. -/
def stringRest (start : Nat) : Nat → RawText → Text → Except ReadError (RawText × Text)
  | 0, _, _ | _ + 1, _, [] | _ + 1, _, ['\\'] => .error (.malformed .openString start)
  | _ + 1, seen, '"' :: r => .ok (seen.reverse, r)
  | fuel + 1, seen, '\\' :: 'u' :: r =>
    match codePoint ('\\' :: 'u' :: r) with
    | .error e => .error e
    | .ok (n, r) => stringRest start fuel (.ofNat n :: seen) r
  | fuel + 1, seen, '\\' :: e :: r =>
    match letterEscape? e with
    | none => .error (.malformed .unknownEscape (r.length + 2))
    | some c => stringRest start fuel (.char c :: seen) r
  | fuel + 1, seen, c :: r =>
    if c.toNat < 0x20 then .error (.malformed .control (r.length + 1))
    else stringRest start fuel (.char c :: seen) r

/-- A string after its opening quotation mark. -/
def stringAfterMark (r : Text) : Except ReadError (RawText × Text) :=
  stringRest (r.length + 1) (r.length + 1) [] r

/-- Whether a character is a decimal digit. -/
def isDigit (c : Char) : Bool := '0' ≤ c && c ≤ '9'

/-- The number that decimal digits denote. -/
def decimal (digits : Text) : Nat := valueOf 10 (digits.map fun c => c.toNat - '0'.toNat)

/-- The fraction of a number: a point and at least one digit. -/
def fraction? : Text → Option (Text × Text)
  | '.' :: r =>
    if (r.takeWhile isDigit).isEmpty then none else some (r.takeWhile isDigit, r.dropWhile isDigit)
  | _ => none

/-- The exponent of a number: its letter, a sign perhaps, and at least one digit. -/
def exponent? : Text → Option (Int × Text)
  | e :: r =>
    if e = 'e' ∨ e = 'E' then
      match r with
      | '-' :: r => (digits? r).map fun (n, r) => (-(n : Int), r)
      | '+' :: r => (digits? r).map fun (n, r) => ((n : Int), r)
      | r => (digits? r).map fun (n, r) => ((n : Int), r)
    else none
  | [] => none
where
  digits? (r : Text) : Option (Nat × Text) :=
    if (r.takeWhile isDigit).isEmpty then none
    else some (decimal (r.takeWhile isDigit), r.dropWhile isDigit)

/-- The integer part of a number: a single zero, or digits that start with another digit. -/
def whole? : Text → Option (Text × Text)
  | '0' :: r => some (['0'], r)
  | c :: r => if isDigit c then some (c :: r.takeWhile isDigit, r.dropWhile isDigit) else none
  | [] => none

/-- A number without its sign; `start` is the place where it starts with its sign. -/
def number (start : Nat) (negative : Bool) (t : Text) : Except ReadError (Json × Text) :=
  match whole? t with
  | none => .error (.malformed .noValue start)
  | some (digits, rest) =>
    match fraction? rest with
    | none =>
      match exponent? rest with
      | none =>
        if maxDigits < digits.length then .error (.tooManyDigits digits.length)
        else
          let n : Int := decimal digits
          .ok (.int (if negative then -n else n), rest)
      | some (power, rest) => .ok (.real (.ofDecimal negative (decimal digits) power), rest)
    | some (places, rest) =>
      let (power, rest) := (exponent? rest).getD (0, rest)
      .ok (.real (.ofDecimal negative (decimal (digits ++ places)) (power - places.length)), rest)

/-- A value that is spelled as a word, or a number. -/
def scalar (t : Text) : Except ReadError (Json × Text) :=
  match wordValue? t with
  | some result => .ok result
  | none =>
    match t with
    | '-' :: r => number t.length true r
    | t => number t.length false t
where
  wordValue? (t : Text) : Option (Json × Text) :=
    [("null".toList, Json.null), ("true".toList, .bool true), ("false".toList, .bool false),
     ("NaN".toList, .real .notANumber), ("Infinity".toList, .real (.infinite false)),
     ("-Infinity".toList, .real (.infinite true))].findSome? fun (word, value) =>
      (token? word t).map (value, ·)

mutual

/-- A value; `room` is how much deeper it may be nested, and `fuel` is more than the length of the
text. -/
def value (room : Nat) : Nat → Text → Except ReadError (Json × Text)
  | 0, t => .error (.malformed .noValue t.length)
  | fuel + 1, t =>
    match t, room with
    | '"' :: r, _ =>
      match stringAfterMark r with
      | .ok (s, rest) => .ok (.string s, rest)
      | .error e => .error e
    | '[' :: _, 0 | '\x7b' :: _, 0 => .error .tooDeep
    | '[' :: r, room + 1 =>
      match skipSpace r with
      | ']' :: rest => .ok (.array [], rest)
      | r =>
        match items room fuel r with
        | .ok (vs, rest) => .ok (.array vs, rest)
        | .error e => .error e
    | '\x7b' :: r, room + 1 =>
      match skipSpace r with
      | '\x7d' :: rest => .ok (.object [], rest)
      | r =>
        match members room fuel [] r with
        | .ok (ms, rest) => .ok (.object ms, rest)
        | .error e => .error e
    | t, _ => scalar t

/-- The items of an array up to its end. -/
def items (room : Nat) : Nat → Text → Except ReadError (List Json × Text)
  | 0, t => .error (.malformed .noValue t.length)
  | fuel + 1, t =>
    match value room fuel t with
    | .error e => .error e
    | .ok (v, rest) =>
      match skipSpace rest with
      | ']' :: rest => .ok ([v], rest)
      | ',' :: rest =>
        match items room fuel (skipSpace rest) with
        | .ok (vs, rest) => .ok (v :: vs, rest)
        | .error e => .error e
      | rest => .error (.malformed .noComma rest.length)

/-- The members of an object up to its end, added to those read before. -/
def members (room : Nat) : Nat → List (RawText × Json) → Text →
    Except ReadError (List (RawText × Json) × Text)
  | 0, _, t => .error (.malformed .noName t.length)
  | fuel + 1, seen, t =>
    match t with
    | '"' :: r =>
      match stringAfterMark r with
      | .error e => .error e
      | .ok (key, rest) =>
        match skipSpace rest with
        | ':' :: rest =>
          match value room fuel (skipSpace rest) with
          | .error e => .error e
          | .ok (v, rest) =>
            match skipSpace rest with
            | '\x7d' :: rest => .ok (setMember key v seen, rest)
            | ',' :: rest => members room fuel (setMember key v seen) (skipSpace rest)
            | rest => .error (.malformed .noComma rest.length)
        | rest => .error (.malformed .noColon rest.length)
    | t => .error (.malformed .noName t.length)

end

/-- The byte order mark as a character. -/
def byteOrderMark : Char := Char.ofNat 0xFEFF

/-- Reads a text that is one value and nothing else. -/
def read (t : Text) : Except ReadError Json :=
  if t.head? = some byteOrderMark then .error (.malformed .byteOrderMark t.length)
  else match value maxDepth (t.length + 1) (skipSpace t) with
    | .error e => .error e
    | .ok (v, rest) =>
      let rest := skipSpace rest
      if rest.isEmpty then .ok v else .error (.malformed .extraData rest.length)

end Typings.Json
