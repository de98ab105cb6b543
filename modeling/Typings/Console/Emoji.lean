import Typings.Console.EmojiTable
import Typings.Text.Blank
import Typings.Text.Case

/-!
# Emoji codes

A name between two colons, such as `:smile:`, stands for an emoji; the case of its letters does not
count. A code may end in a choice of presentation, and some names may end in a skin tone. Whatever
else stands between two colons, without blanks, is kept with both of them.
-/

namespace Typings.Console

open Text

/-- An emoji, or any other text that names stand for. -/
structure Emoji where
  names : List Text
  /-- Those of the names that may end in a skin tone. -/
  toned : List Text
  characters : Text
  deriving DecidableEq

/-- The character whose code point is written in hexadecimal. -/
def charOfHex (digits : Text) : Char := Char.ofNat (valueOf 16 (digits.filterMap hexDigit?))

/-- The name of a row without the tilde that marks it. -/
def unmarked (name : Text) : Text := name.dropWhile (· == '~')

/-- The emoji of a row. -/
def emojiOfRow (row : Text) : Option Emoji :=
  (cut? ['='] row).map fun (names, codes) =>
    { names := (splitOn ',' names).map unmarked
      toned := ((splitOn ',' names).filter fun name => ['~'].isPrefixOf name).map unmarked
      characters := (splitOn '-' codes).map charOfHex }

/-- The emoji with names of their own. -/
def emojis : List Emoji :=
  emojiRows.flatMap fun line => (splitOn ' ' line.toList).filterMap emojiOfRow

/-- The regions by name, with their codes of two letters. -/
def regions : List (Text × Text) :=
  regionRows.flatMap fun line => (splitOn ' ' line.toList).filterMap (cut? ['='])

/-- How names end that ask for a skin tone, and the characters that tone an emoji. -/
def skinTones : List (Text × Char) :=
  [("_light_skin_tone".toList, Char.ofNat 0x1F3FB),
   ("_medium-light_skin_tone".toList, Char.ofNat 0x1F3FC),
   ("_medium_skin_tone".toList, Char.ofNat 0x1F3FD),
   ("_medium-dark_skin_tone".toList, Char.ofNat 0x1F3FE),
   ("_dark_skin_tone".toList, Char.ofNat 0x1F3FF)]

/-- The text without an ending, if it has it. -/
def withoutEnding? (ending t : Text) : Option Text :=
  if ending.isSuffixOf t then some (t.take (t.length - ending.length)) else none

/-- The character that asks for the presentation as emoji. -/
def emojiSelector : Char := Char.ofNat 0xFE0F

/-- The character that asks for the presentation as text. -/
def textSelector : Char := Char.ofNat 0xFE0E

/-- An emoji in a skin tone: the tone follows the first character, in place of its presentation. -/
def inTone (tone : Char) : Text → Text
  | [] => []
  | c :: r => c :: tone :: (if r.head? = some emojiSelector then r.drop 1 else r)

/-- The emoji that a name with a skin tone stands for. -/
def tonedEmoji? (name : Text) : Option Text :=
  skinTones.findSome? fun (ending, tone) =>
    (withoutEnding? ending name).bind fun base =>
      (emojis.find? fun e => e.toned.contains base).map fun e => inTone tone e.characters

/-- The character for a letter of the code of a region. -/
def regionalIndicator (letter : Char) : Char := Char.ofNat (0x1F1E6 + (letter.toNat - 'A'.toNat))

/-- How the name of the flag of a region may start. -/
def flagStart : Text := "flag_for_".toList

/-- The flag that the name of a region stands for. -/
def flag? (name : Text) : Option Text :=
  (regions.find? fun r => r.1 == name || flagStart ++ r.1 == name).map fun r =>
    r.2.map regionalIndicator

/-- What a name in lower case stands for. -/
def namedEmoji? (name : Text) : Option Text :=
  ((emojis.find? fun e => e.names.contains name).map Emoji.characters)
    <|> tonedEmoji? name <|> flag? name

/-- How codes end that choose a presentation, and the characters for that. -/
def presentations : List (Text × Char) :=
  [("-emoji".toList, emojiSelector), ("-text".toList, textSelector)]

/-- What a code stands for, without its colons. -/
def emojiOfCode? (code : Text) : Option Text :=
  match presentations.findSome? fun (ending, c) => (withoutEnding? ending code).map (·, c) with
  | some (name, selector) => (namedEmoji? (lower name)).map (· ++ [selector])
  | none => namedEmoji? (lower code)

/-- Whether a character may stand between the colons of a code. -/
def isCodePart (c : Char) : Bool := c != ':' && !isBlank c

/-- The text with emoji in place of their codes. -/
def replaceEmoji : Text → Text
  | [] => []
  | c :: r =>
    let code := r.takeWhile isCodePart
    if c = ':' ∧ (r.drop code.length).head? = some ':' then
      (emojiOfCode? code).getD (':' :: code ++ [':']) ++ replaceEmoji (r.drop (code.length + 1))
    else c :: replaceEmoji r
termination_by t => t.length
decreasing_by all_goals simp [List.length_drop]; try omega

end Typings.Console
