import Typings.Text.Basic

/-!
# Names of loggers

All loggers belong to one hierarchy, in which points separate the levels.
-/

namespace Typings.Logger

/-- The name at the top of the hierarchy. -/
def top : Text := "model_converter".toList

/-- The name of the logger for a part of the program; without a part it is the one at the top. A
name that belongs to the hierarchy already is kept. -/
def name (part : Option Text) : Text :=
  match part.getD [] with
  | [] => top
  | part =>
    if part = top || (top ++ ['.']).isPrefixOf part then part else top ++ '.' :: part

end Typings.Logger
