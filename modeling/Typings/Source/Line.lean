import Typings.Text.Blank
import Typings.Text.Word

/-!
# Lines of a model source

No syntax tree is built. Every raw line is sorted into one kind, and what is read further depends
on the kind alone. Keywords count as whole words only, bounded by blanks or by the ends of the
line, so that an identifier such as `classroom` is never taken for a keyword.
-/

namespace Typings.Source

open Text

/-- What a single line declares. -/
inductive LineKind where
  | blank
  | comment
  | directive
  | malformedDeclaration
  | enumHeader
  | classHeader
  | property
  | enumerator
  | other
  deriving DecidableEq, Repr

/-- A line with its kind, its text without comment, and, for the kinds that are read further, its
tokens without modifiers. -/
structure Line where
  kind : LineKind
  text : Text
  tokens : List Text := []
  deriving DecidableEq

/-- The access and storage modifiers, which say nothing about type and name. -/
def modifiers : List Text :=
  ["public".toList, "static".toList, "const".toList, "readonly".toList, "virtual".toList]

/-- The line up to its first line comment. -/
def stripComment : Text → Text
  | [] => []
  | '/' :: '/' :: _ => []
  | c :: r => c :: stripComment r

/-- Whether the line is an instruction to the preprocessor: a number sign and a word. -/
def isDirective (line : Text) : Bool :=
  match trimStart line with
  | '#' :: c :: _ => isWordChar c
  | _ => false

/-- Whether a text is at a word boundary on its left side: it is empty or starts with a blank. -/
def startsAtBoundary : Text → Bool
  | [] => true
  | c :: _ => isBlank c

/-- Whether `word` occurs as a whole word in a text that itself follows a word boundary or not. -/
def hasWordAfter (word : Text) : Bool → Text → Bool
  | boundary, [] => boundary && word.isEmpty
  | boundary, c :: r =>
    (boundary && word.isPrefixOf (c :: r) && startsAtBoundary ((c :: r).drop word.length))
      || hasWordAfter word (isBlank c) r

/-- Whether `word` occurs bounded by blanks or the ends of the line. -/
def hasWord (word line : Text) : Bool := hasWordAfter word true line

/-- Words that a comma joins: a comma belongs to the words on both of its sides. -/
def joinAtCommas : List Text → List Text
  | [] => []
  | w :: ws =>
    match joinAtCommas ws with
    | [] => [w]
    | v :: vs =>
      if w.getLast? = some ',' || v.head? = some ',' then (w ++ v) :: vs else w :: v :: vs

/-- The words of a line without its modifiers. Blanks next to a comma separate nothing, so a list
of generic arguments stays one token. -/
def tokensOf (line : Text) : List Text :=
  (joinAtCommas (words line)).filter fun w => !modifiers.contains w

/-- Whether the line has parentheses that do not belong to the creation of an object. -/
def isConstructor (line : Text) : Bool :=
  !hasWord "new".toList line && line.contains '(' && line.contains ')'

/-- Whether the line, inside the body of an enumeration, can only be one of its members. -/
def isEnumerator (line : Text) : Bool :=
  !isBlankText line
    && !hasWord "enum".toList line
    && !hasWord "namespace".toList line
    && !hasWord "using".toList line
    && !isConstructor line
    && !line.any fun c => c == '\x7b' || c == '\x7d' || c == '[' || c == ']'

/-- The kinds that do not depend on where the line stands: blank, comment, directive, and a
declaration that opens its body on the same line. -/
def fixedKind? (raw : Text) : Option LineKind :=
  let text := stripComment raw
  if isBlankText text then some (if text = raw then .blank else .comment)
  else if isDirective text then some .directive
  else if (hasWord "enum".toList text || hasWord "class".toList text) && text.contains '\x7b' then
    some .malformedDeclaration
  else none

/-- Sorts a line of a file. -/
def Line.classify (raw : Text) : Line :=
  let text := stripComment raw
  match fixedKind? raw with
  | some kind => { kind, text }
  | none =>
    if hasWord "enum".toList text then { kind := .enumHeader, text, tokens := tokensOf text }
    else if hasWord "class".toList text && text.contains ':' then
      { kind := .classHeader, text, tokens := tokensOf text }
    else if hasWord "public".toList text && !hasWord "class".toList text && !isConstructor text then
      { kind := .property, text, tokens := tokensOf text }
    else { kind := .other, text }

/-- Sorts a line of a file that declares an enumeration: what is no keyword, constructor or brace
line is a member. -/
def Line.classifyMember (raw : Text) : Line :=
  let text := stripComment raw
  match fixedKind? raw with
  | some kind => { kind, text }
  | none =>
    if isEnumerator text then { kind := .enumerator, text, tokens := tokensOf text }
    else { kind := .other, text }

end Typings.Source
