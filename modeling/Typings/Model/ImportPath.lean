import Typings.Model.Registry
import Typings.Naming

/-!
# Import paths

A type name that stands for a discovered model is imported by the relative path from the output
folder of the model that mentions it to the output file of the model it names.
-/

namespace Typings

/-- What import paths depend on: the models, the common ancestor of all roots, and the naming
style of the output. -/
structure ImportPaths where
  registry : Registry
  /-- An absolute folder; the empty text stands for the root of all. -/
  anchor : Text
  style : PathStyle := .default

namespace ImportPaths

/-- Whether a name stands for a model. -/
def isModel (imports : ImportPaths) (name : Text) : Bool := imports.registry.contains name

/-- The output folder of a source folder below the anchor. -/
def outputFolder (imports : ImportPaths) (folder : Text) : Path :=
  let anchor := if imports.anchor.isEmpty then ['/'] else imports.anchor
  ((Path.ofText anchor).join (Path.ofText (imports.style.directory folder))).normalise

/-- The path under which a file below or beside a folder is imported, which always starts with a
single or double dot. -/
def importText (walk : Path) (stem : Text) : Text :=
  match walk.segments with
  | [] => "./".toList ++ stem
  | first :: _ =>
    (if first = Path.dotDot then [] else "./".toList) ++ walk.text ++ '/' :: stem

/-- The import path of the model that a name stands for, as seen from a source folder. -/
def find? (imports : ImportPaths) (name fromFolder : Text) : Option Text :=
  (imports.registry.find? name).map fun target =>
    importText
      ((imports.outputFolder target.folder).relative (imports.outputFolder fromFolder))
      (imports.style.fileStem target.name)

end ImportPaths

end Typings
