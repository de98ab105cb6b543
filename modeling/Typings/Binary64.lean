import Typings.Text.Basic

/-!
# Binary floating point of 64 bits

Numbers with a mantissa of 53 bits and an exponent of two, as the nearest ones to a ratio, and the
shortest decimals that read back as them.
-/

namespace Typings

open Text

/-- A number of 64 bits. A finite one is its mantissa times two to its exponent, the exponent being
as small as 53 bits allow and at least -1074; that of zero is 0. -/
inductive Binary64 where
  | finite (negative : Bool) (mantissa : Nat) (exponent : Int)
  | infinite (negative : Bool)
  | notANumber
  deriving DecidableEq

namespace Binary64

/-- A power of two. -/
def twoTo (n : Nat) : Nat := Nat.pow 2 n

/-- A power of ten. -/
def tenTo (n : Nat) : Nat := Nat.pow 10 n

/-- A ratio divided by a power of two, again as a ratio. -/
def scaleDown (num den : Nat) (exponent : Int) : Nat × Nat :=
  if 0 ≤ exponent then (num, den * twoTo exponent.toNat) else (num * twoTo (-exponent).toNat, den)

/-- The integer nearest to a ratio; halfway between two, the even one. -/
def roundRatio (num den : Nat) : Nat :=
  let quotient := num / den
  let rest := 2 * (num % den)
  if den < rest ∨ (rest = den ∧ quotient % 2 = 1) then quotient + 1 else quotient

/-- The number nearest to a ratio. -/
def nearest (negative : Bool) (num den : Nat) : Binary64 :=
  if num = 0 ∨ den = 0 then .finite negative 0 0
  else
    let guess : Int := (Nat.log2 num : Int) - Nat.log2 den - 52
    let (n, d) := scaleDown num den guess
    let exponent := max (if n / d < twoTo 52 then guess - 1 else guess) (-1074)
    let (n, d) := scaleDown num den exponent
    let mantissa := roundRatio n d
    let (mantissa, exponent) :=
      if mantissa = twoTo 53 then (twoTo 52, exponent + 1) else (mantissa, exponent)
    if mantissa = 0 then .finite negative 0 0
    else if 971 < exponent then .infinite negative
    else .finite negative mantissa exponent

/-- The number nearest to `m * 10 ^ exponent`. -/
def ofDecimal (negative : Bool) (m : Nat) (exponent : Int) : Binary64 :=
  let magnitude := (ofNat m).length + exponent
  if m = 0 ∨ magnitude < -330 then .finite negative 0 0
  else if 330 < magnitude then .infinite negative
  else if 0 ≤ exponent then nearest negative (m * tenTo exponent.toNat) 1
  else nearest negative m (tenTo (-exponent).toNat)

/-- `m * 2 ^ exponent` as a ratio. -/
def ratio (m : Nat) (exponent : Int) : Nat × Nat :=
  if 0 ≤ exponent then (m * twoTo exponent.toNat, 1) else (m, twoTo (-exponent).toNat)

/-- How many decimal digits stand before the point; zeros after the point count as negative. -/
def decimalPoint (num den : Nat) : Int :=
  if den ≤ num then (ofNat (num / den)).length
  else 1 - (leadingZeros 400 num : Nat)
where
  /-- How often the numerator is multiplied by ten before the ratio reaches one. -/
  leadingZeros : Nat → Nat → Nat
    | 0, _ => 0
    | fuel + 1, num => if den ≤ num then 0 else leadingZeros fuel (num * 10) + 1

/-- The decimal `c * 10 ^ e` of at most `digits` digits that reads back as the number of a ratio, if
one of the two neighbours of the ratio on that grid does. The nearer one goes first; of two that are
equally near, the even one. -/
def onGrid? (num den : Nat) (digits : Nat) : Option (Nat × Int) :=
  let target := nearest false num den
  let unit : Int := decimalPoint num den - digits
  let (n, d) := if 0 ≤ unit then (num, den * tenTo unit.toNat) else (num * tenTo (-unit).toNat, den)
  let below := n / d
  let readsBack := fun c => ofDecimal false c unit == target
  if 2 * (n % d) < d ∨ (2 * (n % d) = d ∧ below % 2 = 0) then
    if readsBack below then some (below, unit)
    else if readsBack (below + 1) then some (below + 1, unit) else none
  else
    if readsBack (below + 1) then some (below + 1, unit)
    else if readsBack below then some (below, unit) else none

/-- The digits of the shortest decimal that reads back, and where its point stands. -/
def shortest (m : Nat) (exponent : Int) : Text × Int :=
  let (num, den) := ratio m exponent
  match (List.range 17).findSome? fun i => onGrid? num den (i + 1) with
  | some (c, unit) =>
    let digits := ofNat c
    ((digits.reverse.dropWhile (· == '0')).reverse, digits.length + unit)
  | none => (['0'], 1)

/-- Digits with a point at the given place: plainly when it is near, else with an exponent of at
least two digits. -/
def placePoint (digits : Text) (point : Int) : Text :=
  if -4 < point ∧ point ≤ 16 then
    if point ≤ 0 then "0.".toList ++ List.replicate (-point).toNat '0' ++ digits
    else if digits.length ≤ point.toNat then
      digits ++ List.replicate (point.toNat - digits.length) '0' ++ ".0".toList
    else digits.take point.toNat ++ '.' :: digits.drop point.toNat
  else
    let power := point - 1
    let numeral := ofNat power.natAbs
    digits.take 1 ++ (if digits.length = 1 then [] else '.' :: digits.drop 1)
      ++ 'e' :: (if power < 0 then '-' else '+')
      :: (if numeral.length = 1 then '0' :: numeral else numeral)

/-- The text of a number: the shortest decimal that reads back. -/
def text : Binary64 → Text
  | notANumber => "nan".toList
  | infinite negative => if negative then "-inf".toList else "inf".toList
  | finite negative m exponent =>
    (if negative then ['-'] else []) ++
      if m = 0 then "0.0".toList
      else
        let (digits, point) := shortest m exponent
        placePoint digits point

/-- Whether the number is zero. -/
def isZero : Binary64 → Bool
  | finite _ m _ => m == 0
  | _ => false

end Binary64

end Typings
