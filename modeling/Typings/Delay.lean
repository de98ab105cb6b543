import Typings.Binary64

/-!
# Delays

A delay is a number of seconds: a whole number of any size, or a binary number. Delays grow by
doubling from a base of a tenth of a second. A whole number is exact as long as it is doubled; what
is halved becomes a binary number. Delays too large for that have no text.
-/

namespace Typings

/-- A number of seconds. -/
inductive Delay where
  | whole (seconds : Int)
  | real (seconds : Binary64)
  deriving DecidableEq

namespace Binary64

/-- The number nearest to an integer, unless the integer is too large. -/
def ofInt? (i : Int) : Option Binary64 :=
  match nearest (i < 0) i.natAbs 1 with
  | infinite _ => none
  | r => some r

/-- The exponent of the first power of two that is too large. -/
def maxExponent : Int := 1024

/-- The exponent of the least power of two that is not zero. -/
def minExponent : Int := -1074

/-- The number times two to an exponent, as a product of two numbers of 64 bits. -/
def scale (r : Binary64) (exponent : Int) : Binary64 :=
  match r with
  | finite negative m e =>
    if m = 0 ∨ exponent < minExponent then finite negative 0 0
    else nearest negative (ratio m (e + exponent)).1 (ratio m (e + exponent)).2
  | infinite negative => if exponent < minExponent then notANumber else infinite negative
  | notANumber => notANumber

end Binary64

namespace Delay

/-- A tenth of a second. -/
def base : Delay := .real (.ofDecimal false 1 (-1))

/-- The delay as a binary number, unless it is too large. -/
def toBinary64? : Delay → Option Binary64
  | whole seconds => Binary64.ofInt? seconds
  | real seconds => some seconds

/-- The delay before the call after the one with the given number: the base, doubled every time.
There is none if a binary number is multiplied by a power of two that is too large. -/
def exponential (base : Delay) (number : Int) : Option Delay :=
  if number < 0 then
    (Binary64.ofInt? number).bind fun _ => base.toBinary64?.map fun r => real (r.scale number)
  else match base with
    | whole seconds =>
      if seconds = 0 then some base
      else if Binary64.maxExponent ≤ number then none
      else some (.whole (seconds * Binary64.twoTo number.toNat))
    | real seconds =>
      if Binary64.maxExponent ≤ number then none else some (.real (seconds.scale number))

/-- How many millionths make a second. -/
def microsPerSecond : Nat := 1000000

/-- How many places that is. -/
def places : Nat := 6

/-- A number of millionths of a second in seconds. -/
def ofMicros (micros : Nat) : Text :=
  let fraction := Text.ofNat (micros % microsPerSecond)
  Text.ofNat (micros / microsPerSecond)
    ++ '.' :: List.replicate (places - fraction.length) '0' ++ fraction

/-- The text of a binary number: its sign, and the nearest number of millionths, halfway cases to
the even one. -/
def textOf : Binary64 → Text
  | .finite negative m exponent =>
    let (num, den) := Binary64.ratio m exponent
    (if negative then ['-'] else [])
      ++ ofMicros (Binary64.roundRatio (num * microsPerSecond) den)
  | r => r.text

/-- The delay with six decimal places, unless it is too large. -/
def text? (d : Delay) : Option Text := d.toBinary64?.map textOf

/-- The sentence that reports a delay that is too large. -/
def tooLargeMessage : Text := "int too large to convert to float".toList

end Delay

end Typings
