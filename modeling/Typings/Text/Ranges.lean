/-!
# Tables of code point ranges

A character property is a sorted list of ranges. Ranges with a step say that only every second
code point belongs, as in the alphabets that alternate between upper and lower case.
-/

namespace Typings.Text

/-- The code points `first`, `first + step`, ... up to `last`. -/
structure Run where
  first : Nat
  last : Nat
  step : Nat

/-- Whether a code point belongs to the run. -/
def Run.has (r : Run) (n : Nat) : Bool :=
  r.first ≤ n && n ≤ r.last && (n - r.first) % r.step == 0

/-- A run whose members all move by the same distance. -/
structure Shift where
  first : Nat
  last : Nat
  step : Nat
  distance : Int

/-- The run of code points that a shift moves. -/
def Shift.run (s : Shift) : Run := ⟨s.first, s.last, s.step⟩

/-- Whether a code point lies in one of the ranges, which are sorted and do not overlap. -/
def inRanges : List (Nat × Nat) → Nat → Bool
  | [], _ => false
  | (first, last) :: rest, n => if n < first then false else n ≤ last || inRanges rest n

/-- Whether a code point lies in one of the runs. -/
def inRuns (runs : List Run) (n : Nat) : Bool := runs.any fun r => r.has n

/-- The code point after the first shift that moves it, itself if none does. -/
def shifted (shifts : List Shift) (n : Nat) : Nat :=
  match shifts.find? fun s => s.run.has n with
  | some s => (n + s.distance).toNat
  | none => n

end Typings.Text
