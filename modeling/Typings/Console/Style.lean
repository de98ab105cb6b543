import Typings.Source.Literal
import Typings.Text.Blank
import Typings.Text.Case
import Typings.Text.Digit

/-!
# Styles

A style is described in words: attributes, a color, `on` and a background color, `not` and an
attribute, `link` and an address. Two descriptions of one style have the same canonical text.
-/

namespace Typings.Console

open Text

/-- An attribute of printed text. -/
inductive Attribute where
  | bold
  | dim
  | italic
  | underline
  | blink
  | blink2
  | reverse
  | conceal
  | strike
  | underline2
  | frame
  | encircle
  | overline
  deriving DecidableEq, Repr

namespace Attribute

/-- The attributes in the order in which styles name them. -/
def all : List Attribute :=
  [bold, dim, italic, underline, blink, blink2, reverse, conceal, strike, underline2, frame,
   encircle, overline]

/-- The name of an attribute. -/
def name : Attribute → Text
  | bold => "bold".toList
  | dim => "dim".toList
  | italic => "italic".toList
  | underline => "underline".toList
  | blink => "blink".toList
  | blink2 => "blink2".toList
  | reverse => "reverse".toList
  | conceal => "conceal".toList
  | strike => "strike".toList
  | underline2 => "underline2".toList
  | frame => "frame".toList
  | encircle => "encircle".toList
  | overline => "overline".toList

/-- The short names of attributes. -/
def shortNames : List (Text × Attribute) :=
  [("b".toList, bold), ("d".toList, dim), ("i".toList, italic), ("u".toList, underline),
   ("r".toList, reverse), ("c".toList, conceal), ("s".toList, strike), ("uu".toList, underline2),
   ("o".toList, overline)]

/-- The attribute that a word names. -/
def ofName? (word : Text) : Option Attribute :=
  (all.find? fun a => a.name == word) <|> shortNames.lookup word

end Attribute

/-- Why words describe no style. -/
inductive StyleError where
  /-- A word is neither an attribute nor a color, or something is missing after a word. -/
  | unknown
  /-- A component of a color has no digits. -/
  | noDigits
  /-- A component of a color has more digits than are read. -/
  | tooManyDigits (count : Nat)
  deriving DecidableEq, Repr

/-- The sentence that reports the error. -/
def StyleError.message : StyleError → Text
  | unknown => "unknown style".toList
  | noDigits => "invalid literal for int() with base 10: ''".toList
  | tooManyDigits count => Source.tooManyDigitsMessage count

/-- The colors with names; some of them go by two spellings of gray. -/
def colorNames : List Text :=
  ["default", "black", "red", "green", "yellow", "blue", "magenta", "cyan", "white",
   "bright_black", "bright_red", "bright_green", "bright_yellow", "bright_blue", "bright_magenta",
   "bright_cyan", "bright_white", "grey0", "gray0", "navy_blue", "dark_blue", "blue3", "blue1",
   "dark_green", "deep_sky_blue4", "dodger_blue3", "dodger_blue2", "green4", "spring_green4",
   "turquoise4", "deep_sky_blue3", "dodger_blue1", "green3", "spring_green3", "dark_cyan",
   "light_sea_green", "deep_sky_blue2", "deep_sky_blue1", "spring_green2", "cyan3",
   "dark_turquoise", "turquoise2", "green1", "spring_green1", "medium_spring_green", "cyan2",
   "cyan1", "dark_red", "deep_pink4", "purple4", "purple3", "blue_violet", "orange4", "grey37",
   "gray37", "medium_purple4", "slate_blue3", "royal_blue1", "chartreuse4", "dark_sea_green4",
   "pale_turquoise4", "steel_blue", "steel_blue3", "cornflower_blue", "chartreuse3", "cadet_blue",
   "sky_blue3", "steel_blue1", "pale_green3", "sea_green3", "aquamarine3", "medium_turquoise",
   "chartreuse2", "sea_green2", "sea_green1", "aquamarine1", "dark_slate_gray2", "dark_magenta",
   "dark_violet", "purple", "light_pink4", "plum4", "medium_purple3", "slate_blue1", "yellow4",
   "wheat4", "grey53", "gray53", "light_slate_grey", "light_slate_gray", "medium_purple",
   "light_slate_blue", "dark_olive_green3", "dark_sea_green", "light_sky_blue3", "sky_blue2",
   "dark_sea_green3", "dark_slate_gray3", "sky_blue1", "chartreuse1", "light_green", "pale_green1",
   "dark_slate_gray1", "red3", "medium_violet_red", "magenta3", "dark_orange3", "indian_red",
   "hot_pink3", "medium_orchid3", "medium_orchid", "medium_purple2", "dark_goldenrod",
   "light_salmon3", "rosy_brown", "grey63", "gray63", "medium_purple1", "gold3", "dark_khaki",
   "navajo_white3", "grey69", "gray69", "light_steel_blue3", "light_steel_blue", "yellow3",
   "dark_sea_green2", "light_cyan3", "light_sky_blue1", "green_yellow", "dark_olive_green2",
   "dark_sea_green1", "pale_turquoise1", "deep_pink3", "magenta2", "hot_pink2", "orchid",
   "medium_orchid1", "orange3", "light_pink3", "pink3", "plum3", "violet", "light_goldenrod3",
   "tan", "misty_rose3", "thistle3", "plum2", "khaki3", "light_goldenrod2", "light_yellow3",
   "grey84", "gray84", "light_steel_blue1", "yellow2", "dark_olive_green1", "honeydew2",
   "light_cyan1", "red1", "deep_pink2", "deep_pink1", "magenta1", "orange_red1", "indian_red1",
   "hot_pink", "dark_orange", "salmon1", "light_coral", "pale_violet_red1", "orchid2", "orchid1",
   "orange1", "sandy_brown", "light_salmon1", "light_pink1", "pink1", "plum1", "gold1",
   "navajo_white1", "misty_rose1", "thistle1", "yellow1", "light_goldenrod1", "khaki1", "wheat1",
   "cornsilk1", "grey100", "gray100", "grey3", "gray3", "grey7", "gray7", "grey11", "gray11",
   "grey15", "gray15", "grey19", "gray19", "grey23", "gray23", "grey27", "gray27", "grey30",
   "gray30", "grey35", "gray35", "grey39", "gray39", "grey42", "gray42", "grey46", "gray46",
   "grey50", "gray50", "grey54", "gray54", "grey58", "gray58", "grey62", "gray62", "grey66",
   "gray66", "grey70", "gray70", "grey74", "gray74", "grey78", "gray78", "grey82", "gray82",
   "grey85", "gray85", "grey89", "gray89", "grey93", "gray93"].map String.toList

/-- The text between a beginning and a closing parenthesis at the end. -/
def inCall? (function t : Text) : Option Text :=
  if (function ++ ['(']).isPrefixOf t && t.getLast? = some ')' then
    some ((t.drop (function.length + 1)).dropLast)
  else none

/-- Whether a text is a number sign and six hexadecimal digits. -/
def isHexColor : Text → Bool
  | '#' :: digits => digits.length == 6 && digits.all fun d => (hexDigit? d).isSome
  | _ => false

/-- The largest number of a color and of a component of a color. -/
def maxComponent : Nat := 255

/-- Whether a text is one to three digits for the number of a color. -/
def isColorNumber (t : Text) : Bool :=
  0 < t.length && t.length ≤ 3 && t.all (fun c => '0' ≤ c && c ≤ '9')
    && valueOf 10 (t.filterMap digitValue?) ≤ maxComponent

/-- The number of a component of a color. -/
def component (t : Text) : Except StyleError Nat :=
  if t.isEmpty then .error .noDigits
  else if Source.maxDigits < t.length then .error (.tooManyDigits t.length)
  else .ok (valueOf 10 (t.filterMap digitValue?))

/-- Checks the components of a color. -/
def checkComponents (t : Text) : Except StyleError Unit :=
  if t.isEmpty || !t.all fun c => isDecimalDigit c || c == ',' then .error .unknown
  else match splitOn ',' t with
    | [red, green, blue] => do
      let numbers ← [red, green, blue].mapM component
      if numbers.all (· ≤ maxComponent) then .ok () else .error .unknown
    | _ => .error .unknown

/-- The name of the color that a word stands for. -/
def colorOf (word : Text) : Except StyleError Text :=
  let name := lower word
  if colorNames.contains name || isHexColor name
      || ((inCall? "color".toList name).map isColorNumber).getD false then .ok name
  else match inCall? "rgb".toList name with
    | some components => (checkComponents components).map fun _ => name
    | none => .error .unknown

/-- What is known about a style; what was said last about an attribute comes first. -/
structure Style where
  attributes : List (Attribute × Bool) := []
  color : Option Text := none
  background : Option Text := none
  link : Option Text := none
  deriving DecidableEq

namespace Style

/-- The style that words add to a style. -/
def addWords (s : Style) : List Text → Except StyleError Style
  | [] => .ok s
  | word :: rest =>
    let name := lower word
    if name = "on".toList then
      match rest with
      | [] => .error .unknown
      | next :: rest =>
        match colorOf next with
        | .error e => .error e
        | .ok color => addWords { s with background := some color } rest
    else if name = "not".toList then
      match rest with
      | [] => .error .unknown
      | next :: rest =>
        match Attribute.ofName? next with
        | none => .error .unknown
        | some a => addWords { s with attributes := (a, false) :: s.attributes } rest
    else if name = "link".toList then
      match rest with
      | [] => .error .unknown
      | next :: rest => addWords { s with link := some next } rest
    else match Attribute.ofName? name with
      | some a => addWords { s with attributes := (a, true) :: s.attributes } rest
      | none =>
        match colorOf word with
        | .error e => .error e
        | .ok color => addWords { s with color := some color } rest

/-- The word for the style that says nothing. -/
def nothing : Text := "none".toList

/-- The style that a text describes. -/
def parse (t : Text) : Except StyleError Style :=
  if trim t = nothing then .ok {} else addWords {} (words t)

/-- The word or words for an attribute, if the style says anything about it. -/
def attributeText? (s : Style) (a : Attribute) : Option Text :=
  (s.attributes.lookup a).map fun isSet => if isSet then a.name else "not ".toList ++ a.name

/-- The canonical text of a style. -/
def text (s : Style) : Text :=
  let parts := Attribute.all.filterMap s.attributeText? ++ s.color.toList
    ++ (s.background.map ("on ".toList ++ ·)).toList ++ (s.link.map ("link ".toList ++ ·)).toList
  if parts.isEmpty then nothing else joinWith [' '] parts

/-- The text that all descriptions of one style share. What describes no style is compared in lower
case. -/
def normalise (t : Text) : Except StyleError Text :=
  match parse t with
  | .ok s => .ok s.text
  | .error .unknown => .ok (lower (trim t))
  | .error e => .error e

end Style

end Typings.Console
