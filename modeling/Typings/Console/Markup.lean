import Typings.Console.Literal
import Typings.Console.Style
import Typings.Console.Width

/-!
# Console markup

What is printed may hold tags for styles in square brackets. A tag starts with a small letter, a
number sign, a slash or an at sign; all other brackets are text. An odd number of backslashes before
a tag makes it text. A closing tag has to close a tag that is open and describes the same style.

Without its styles the text is printed with emoji for their codes, with its tabs filled up, and
without controls that would move the cursor.
-/

namespace Typings.Console.Markup

open Text

/-- A piece of marked text. -/
inductive Piece where
  | plain (t : Text)
  | tag (t : Text)
  deriving DecidableEq

/-- Whether a character may start a tag. -/
def startsTag (c : Char) : Bool :=
  ('a' ≤ c && c ≤ 'z') || c == '#' || c == '/' || c == '@'

/-- The tag that a text holds after an opening bracket, and what follows it. -/
def tag? : Text → Option (Text × Text)
  | [] => none
  | c :: r =>
    if startsTag c then
      let inner := r.takeWhile fun d => d != '[' && d != ']'
      match r.drop inner.length with
      | ']' :: rest => some (c :: inner, rest)
      | _ => none
    else none

/-- A tag within a text: what stands before it and its backslashes, how many of them there are, the
tag, and what follows. -/
structure Occurrence where
  before : Text
  slashes : Nat
  tag : Text
  rest : Text

/-- The first tag of a text. -/
def firstTag? : Text → Option Occurrence
  | [] => none
  | c :: r =>
    let slashes := (c :: r).takeWhile (· == '\\')
    let here := match (c :: r).drop slashes.length with
      | '[' :: inner => tag? inner
      | _ => none
    match here with
    | some (tag, rest) => some { before := [], slashes := slashes.length, tag, rest }
    | none => (firstTag? r).map fun found => { found with before := c :: found.before }

/-- Pieces after plain text, which is a piece of its own. -/
def afterPlain (t : Text) (pieces : List Piece) : List Piece :=
  if t.isEmpty then pieces else .plain t :: pieces

/-- The pieces of a text; `fuel` is more than its length. Of the backslashes before a tag every two
stand for one. -/
def pieces : Nat → Text → List Piece
  | 0, _ => []
  | fuel + 1, t =>
    match firstTag? t with
    | none => afterPlain t []
    | some o =>
      let piece : Piece := if o.slashes % 2 = 0 then .tag o.tag else .plain ('[' :: o.tag ++ [']'])
      afterPlain o.before (afterPlain (List.replicate (o.slashes / 2) '\\')
        (piece :: pieces fuel o.rest))

/-- Plain text without the backslashes before its brackets. -/
def withoutEscapes : Text → Text
  | [] => []
  | '\\' :: '[' :: r => '[' :: withoutEscapes r
  | c :: r => c :: withoutEscapes r

/-- Whether a character is a control that is not printed. -/
def isDropped (c : Char) : Bool :=
  let n := c.toNat
  n == 7 || n == 8 || n == 11 || n == 12 || n == 13

/-- What is printed for plain text, but for its tabs. -/
def shown (t : Text) : Text := (replaceEmoji (withoutEscapes t)).filter fun c => !isDropped c

/-- Why marked text cannot be printed. -/
inductive Error where
  /-- A closing tag closes nothing. -/
  | nothingToClose
  /-- The parameters of a tag for an action are no literal. -/
  | parameters (t : Text)
  | style (error : StyleError)
  deriving DecidableEq

/-- The sentence that reports the error. -/
def Error.message : Error → Text
  | nothingToClose => "closing tag has nothing to close".toList
  | parameters t => "error parsing ".toList ++ t
  | style error => error.message

/-- A tag that is open: the style that it describes, what it has after an equals sign, and how much
was printed before it. -/
structure Opening where
  style : Text
  parameters : Option Text
  start : Nat

/-- The description of the style of a tag. -/
def Opening.description (o : Opening) : Text :=
  match o.parameters with
  | none => o.style
  | some parameters => o.style ++ ' ' :: parameters

/-- The part of a printed text that has a style. -/
structure Span where
  description : Text
  start : Nat
  stop : Nat

/-- How far marked text was printed. -/
structure Progress where
  printed : Text := []
  /-- The open tags, the last one first. -/
  opened : List Opening := []
  /-- The parts with a style, the last one first. -/
  spans : List Span := []

/-- A tag cut at its first equals sign. -/
def splitTag (tag : Text) : Text × Option Text :=
  match cut? ['='] tag with
  | some (name, parameters) => (name, some parameters)
  | none => (tag, none)

/-- Whether a character may be part of the name of a handler. -/
def isHandlerPart (c : Char) : Bool := isWordChar c || c == '.'

/-- The literal in the parameters of a tag for an action: what is in parentheses after the name of a
handler, or all of it. -/
def literalOf (parameters : Text) : Text :=
  match parameters.dropWhile isHandlerPart with
  | [] => "()".toList
  | '(' :: r =>
    if r.getLast? = some ')' && !r.contains '\n' then '(' :: r else parameters
  | _ => parameters

/-- Whether the parameters of a tag for an action are understood. -/
def areUnderstood (parameters : Option Text) : Bool :=
  match parameters with
  | none | some [] => true
  | some t => Literal.isLiteral (literalOf (trim t))

/-- A tag is closed. -/
def Progress.close (p : Progress) (o : Opening) (opened : List Opening) : Except Error Progress :=
  if o.style.head? = some '@' then
    if areUnderstood o.parameters then .ok { p with opened }
    else .error (.parameters (o.parameters.getD []))
  else .ok { p with opened, spans := ⟨o.description, o.start, p.printed.length⟩ :: p.spans }

/-- The tag that is closed last, or the last one of a style, and the other open tags. -/
def takeOpening (style : Option Text) : List Opening → Option (Opening × List Opening)
  | [] => none
  | o :: below =>
    if (style.map (· == o.style)).getD true then some (o, below)
    else (takeOpening style below).map fun (found, others) => (found, o :: others)

/-- The style that a name describes, as styles are compared. -/
def styleOf (name : Text) : Except Error Text := (Style.normalise name).mapError .style

/-- A closing tag. -/
def Progress.closeNamed (p : Progress) (name : Text) : Except Error Progress := do
  let style ← if name.isEmpty then pure none else (styleOf name).map some
  match takeOpening style p.opened with
  | none => .error .nothingToClose
  | some (o, opened) => p.close o opened

/-- Goes on by one piece. -/
def Progress.step (p : Progress) : Piece → Except Error Progress
  | .plain t => .ok { p with printed := p.printed ++ shown t }
  | .tag tag =>
    match splitTag tag with
    | ('/' :: name, _) => p.closeNamed (trim name)
    | (name, parameters) =>
      (styleOf name).map fun style =>
        { p with opened := { style, parameters, start := p.printed.length } :: p.opened }

/-- All parts with a style in the order of their beginnings; a tag that is never closed goes on to
the end. -/
def Progress.allSpans (p : Progress) : List Span :=
  let unclosed := p.opened.map fun o => ⟨o.description, o.start, p.printed.length⟩
  (unclosed.reverse ++ p.spans).mergeSort fun a b => a.start ≤ b.start

/-- Whether a part of a text is left when the text is cut into lines and at its tabs. -/
def Span.isLeft (s : Span) (printed : Text) : Bool :=
  if printed.contains '\n' || printed.contains '\t' then
    ((printed.drop s.start).take (s.stop - s.start)).any (· != '\n')
  else true

/-- The error in the description of a style, unless it is merely unknown. -/
def styleError? (description : Text) : Option StyleError :=
  match Style.parse description with
  | .ok _ | .error .unknown => none
  | .error e => some e

/-- The text that is printed for marked text. -/
def render (t : Text) : Except Error Text := do
  let p ← (pieces (t.length + 1) t).foldlM Progress.step {}
  let spans := p.allSpans.filter (Span.isLeft · p.printed)
  match spans.findSome? fun s => styleError? s.description with
  | some e => .error (.style e)
  | none => .ok (expandTabs p.printed)

end Typings.Console.Markup
