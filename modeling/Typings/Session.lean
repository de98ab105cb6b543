import Typings.FileTree.Resilient

/-!
# Sessions

A run works on a session: the files, the lines logged so far and the warnings given so far. A step
of a run may fail; what it did to the session before stays done.
-/

namespace Typings

/-- What a run works on. -/
structure Session where
  files : FileTree
  log : List Text := []
  warnings : List Text := []

/-- A step of a run. -/
abbrev Step (ε α : Type) := EStateM ε Session α

namespace Session

variable {ε α : Type}

/-- Logs a line. -/
def say (line : Text) : Step ε Unit := modify fun s => { s with log := s.log ++ [line] }

/-- Gives warnings. -/
def warn (lines : List Text) : Step ε Unit :=
  modify fun s => { s with warnings := s.warnings ++ lines }

/-- An operation on the files. -/
def onFiles (report : FileFailure → ε) (operation : FileTree → Except FileFailure α × FileTree) :
    Step ε α := fun s =>
  match operation s.files with
  | (.ok a, files) => .ok a { s with files }
  | (.error e, files) => .error (report e) { s with files }

/-- The result of a step and the session after it. -/
def run (step : Step ε α) (s : Session) : Except ε α × Session :=
  match step s with
  | .ok a s => (.ok a, s)
  | .error e s => (.error e, s)

end Session

end Typings
