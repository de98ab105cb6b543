/-!
# Text as a sequence of code points

Every rule of this library counts, cuts and compares code points, so text is the list of them.
This module holds the operations that need no knowledge of what a character means: cutting at a
character or at a piece of text, joining, code point order, and decimal numerals.
-/

namespace Typings

/-- Text is a list of code points. -/
abbrev Text := List Char

namespace Text

/-- The pieces of a list, such as a text, between the occurrences of `c`; there is always one more
piece than there are occurrences. -/
def splitOn {α : Type} [DecidableEq α] (c : α) : List α → List (List α)
  | [] => [[]]
  | d :: r =>
    if d = c then [] :: splitOn c r
    else match splitOn c r with
      | [] => [[d]]
      | p :: ps => (d :: p) :: ps

/-- The pieces put together again with `sep` between neighbours. -/
def joinWith {α : Type} (sep : List α) (pieces : List (List α)) : List α := sep.intercalate pieces

/-- The text before and after the first occurrence of `needle`, if it occurs. -/
def cut? (needle : Text) : Text → Option (Text × Text)
  | [] => if needle.isEmpty then some ([], []) else none
  | c :: r =>
    if needle.isPrefixOf (c :: r) then some ([], (c :: r).drop needle.length)
    else (cut? needle r).map fun (before, after) => (c :: before, after)

/-- Whether `needle` occurs in the text as a run of neighbouring characters. -/
def holds (needle : Text) : Text → Bool
  | [] => needle.isEmpty
  | c :: r => needle.isPrefixOf (c :: r) || holds needle r

/-- The part after the last occurrence of `c`, or the whole text if it does not occur. -/
def afterLast (c : Char) (t : Text) : Text :=
  (t.reverse.takeWhile (· != c)).reverse

/-- Code point order: the first difference decides, and a proper beginning comes first. -/
def le : Text → Text → Bool
  | [], _ => true
  | _ :: _, [] => false
  | a :: x, b :: y => a < b || (a == b && le x y)

/-- A list with a member put in front of the first one that does not come before it. -/
def insertBy {α : Type} (le : α → α → Bool) (a : α) : List α → List α
  | [] => [a]
  | b :: r => if le a b then a :: b :: r else b :: insertBy le a r

/-- The list in an order; what the order does not tell apart stays as it is. -/
def sortBy {α : Type} (le : α → α → Bool) : List α → List α
  | [] => []
  | a :: r => insertBy le a (sortBy le r)

/-- Texts in code point order. -/
def sort (ts : List Text) : List Text := sortBy le ts

/-- The decimal numeral of a natural number. -/
def ofNat (n : Nat) : Text := Nat.toDigits 10 n

/-- The decimal numeral of an integer, with a minus sign only. -/
def ofInt (i : Int) : Text :=
  if i < 0 then '-' :: ofNat i.natAbs else ofNat i.natAbs

/-- The value of one hexadecimal digit in either case. -/
def hexDigit? (c : Char) : Option Nat :=
  if '0' ≤ c ∧ c ≤ '9' then some (c.toNat - '0'.toNat)
  else if 'a' ≤ c ∧ c ≤ 'f' then some (c.toNat - 'a'.toNat + 10)
  else if 'A' ≤ c ∧ c ≤ 'F' then some (c.toNat - 'A'.toNat + 10)
  else none

/-- The number that a run of digits denotes in a base, the first digit being the most
significant. -/
def valueOf (base : Nat) (digits : List Nat) : Nat := digits.foldl (fun n d => n * base + d) 0

/-- A number in lower-case hexadecimal, filled up with zeros to `width` digits. -/
def hex (width n : Nat) : Text :=
  let digits := Nat.toDigits 16 n
  List.replicate (width - digits.length) '0' ++ digits

end Text

end Typings
