import Typings.Text.Blank
import Typings.Text.Quoted

/-!
# Integer literals

An explicit enumerator value is a 32-bit integer, in decimal with an optional sign or in
hexadecimal. Hexadecimal is two's complement, so `0xFFFFFFFF` is -1.
-/

namespace Typings.Source

open Text

/-- Why a text is no 32-bit integer literal. -/
inductive LiteralError where
  | notAnInteger (text : Text)
  | hexOutOfRange (text : Text)
  | outOfRange (text : Text)
  | tooManyDigits (count : Nat)
  deriving DecidableEq

/-- The most decimal digits that are read. -/
def maxDigits : Nat := 4300

/-- The sentence that reports a numeral with more digits than are read. -/
def tooManyDigitsMessage (count : Nat) : Text :=
  "Exceeds the limit (".toList ++ ofNat maxDigits
    ++ " digits) for integer string conversion: value has ".toList ++ ofNat count
    ++ " digits; use sys.set_int_max_str_digits() to increase the limit".toList

/-- The sentence that reports the error. -/
def LiteralError.message : LiteralError → Text
  | notAnInteger text => "Not an integer literal: ".toList ++ quoted text
  | hexOutOfRange text => "Hexadecimal value out of range: ".toList ++ text
  | outOfRange text => "Value out of range: ".toList ++ text
  | tooManyDigits count => tooManyDigitsMessage count

/-- The digits of a hexadecimal literal. -/
def hexDigits? : Text → Option (List Nat)
  | '0' :: x :: d :: r => if x = 'x' ∨ x = 'X' then (d :: r).mapM hexDigit? else none
  | _ => none

/-- The value of one decimal digit. -/
def decimalDigit? (c : Char) : Option Nat :=
  if '0' ≤ c ∧ c ≤ '9' then some (c.toNat - '0'.toNat) else none

/-- The digits of a decimal numeral without sign, of which there is at least one. -/
def unsignedDigits? : Text → Option (List Nat)
  | [] => none
  | c :: r => (c :: r).mapM decimalDigit?

/-- The sign and the digits of a decimal literal. -/
def decimalDigits? : Text → Option (Bool × List Nat)
  | '-' :: r => (unsignedDigits? r).map (true, ·)
  | '+' :: r => (unsignedDigits? r).map (false, ·)
  | t => (unsignedDigits? t).map (false, ·)

/-- The value of the sign bit. -/
def signBit : Nat := 0x80000000

/-- The 32-bit integer with the same residue. -/
def wrap32 (n : Nat) : Int := if n < signBit then n else (n : Int) - 2 * signBit

/-- The 32-bit integer that a literal denotes; blanks around it do not count. -/
def readLiteral (t : Text) : Except LiteralError Int :=
  let text := trim t
  match hexDigits? text with
  | some digits =>
    let n := valueOf 16 digits
    if n < 2 * signBit then .ok (wrap32 n) else .error (.hexOutOfRange text)
  | none =>
    match decimalDigits? text with
    | none => .error (.notAnInteger text)
    | some (negative, digits) =>
      if maxDigits < digits.length then .error (.tooManyDigits digits.length)
      else
        let i : Int := if negative then -(valueOf 10 digits) else valueOf 10 digits
        if -(signBit : Int) ≤ i ∧ i < signBit then .ok i else .error (.outOfRange text)

end Typings.Source
