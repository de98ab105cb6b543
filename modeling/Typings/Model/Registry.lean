import Typings.Model.Basic

/-!
# The registry of models

A builder collects the discovered source files; freezing it yields the registry that answers
look-ups by name. Of several files with one name the last is found.
-/

namespace Typings

/-- All discovered source files, in the order of their discovery. -/
structure Registry where
  entries : List SourceFile := []
  deriving DecidableEq

namespace Registry

/-- The last file of a list with the given name. -/
def lastNamed? (name : Text) (files : List SourceFile) : Option SourceFile :=
  files.reverse.find? fun file => file.name == name

/-- The file that a name stands for. -/
def find? (r : Registry) (name : Text) : Option SourceFile := lastNamed? name r.entries

/-- Whether a name stands for a file. -/
def contains (r : Registry) (name : Text) : Bool := (r.find? name).isSome

/-- The names in the order of discovery, repetitions included. -/
def names (r : Registry) : List Text := r.entries.map (·.name)

end Registry

/-- A registry that still grows, until it is frozen. -/
structure RegistryBuilder where
  entries : List SourceFile := []
  /-- The files that were added, each under its name, the last one first. -/
  seen : List (Text × SourceFile) := []
  frozen : Bool := false

namespace RegistryBuilder

/-- Why a file cannot be added. -/
inductive Error where
  | frozen
  deriving DecidableEq

/-- The sentence that reports the error. -/
def Error.message : Error → Text
  | frozen => "Cannot add models after the registry was frozen".toList

/-- The sentence that reports a file whose name was taken. -/
def duplicateWarning (file replaced : SourceFile) : Text :=
  "Duplicate model name '".toList ++ file.name ++ "': ".toList ++ file.path.text
    ++ " replaces ".toList ++ replaced.path.text ++ " for cross references".toList

/-- Adds a file at the end, with a warning if its name was taken. -/
def add (b : RegistryBuilder) (file : SourceFile) :
    Except Error (RegistryBuilder × Option Text) :=
  if b.frozen then .error .frozen
  else .ok ({ b with entries := b.entries ++ [file], seen := (file.name, file) :: b.seen },
    (b.seen.lookup file.name).map (duplicateWarning file))

/-- Ends the growth and hands out the registry. -/
def freeze (b : RegistryBuilder) : RegistryBuilder × Registry :=
  ({ b with frozen := true }, { entries := b.entries })

/-- Adds a file, and its warning to those so far. A frozen builder is left as it is. -/
def grow (grown : RegistryBuilder × List Text) (file : SourceFile) : RegistryBuilder × List Text :=
  match grown.1.add file with
  | .error _ => grown
  | .ok (builder, warning) => (builder, grown.2 ++ warning.toList)

end RegistryBuilder

/-- The registry of the given files, and a warning for every file whose name was taken. The builder
is not frozen before it has all of them. -/
def Registry.ofFiles (files : List SourceFile) : Registry × List Text :=
  let (builder, warnings) := files.foldl RegistryBuilder.grow ({}, [])
  (builder.freeze.2, warnings)

end Typings
