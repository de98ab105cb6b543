import Typings.Discovery.Ancestor
import Typings.Discovery.Roots
import Typings.Discovery.Scan
import Typings.Model.Reader

/-!
# Conversions

A conversion finds the roots, scans all of them, reads every source, and only then touches the
output directory: what makes a source unreadable leaves the earlier output in place. The output
directory is cleared before the declarations are written, unless it is the base directory by
default. It may hold no root.
-/

namespace Typings

open Discovery Session Text

/-- Why a conversion fails. -/
inductive Conversion.Failure where
  /-- A directory or a file could not be made. -/
  | files (failure : FileFailure)
  | ancestor (error : AncestorError)
  | scan (error : ScanError)
  | source (error : SourceError)
  /-- The output directory is given, but not as a string. -/
  | outputNotString (value : Json)
  /-- The output directory is a root or holds one. -/
  | outputHoldsRoot (output root : Path)
  | declaration (error : Generator.Error)

/-- The sentence that reports the failure. -/
def Conversion.Failure.message : Failure → Text
  | files failure => failure.message
  | ancestor error => error.message
  | scan error => error.message
  | source error => error.message
  | outputNotString value =>
    "unsupported operand type(s) for /: 'PosixPath' and '".toList ++ value.kindName ++ ['\x27']
  | outputHoldsRoot output root =>
    "Convert directory ".toList ++ output.text ++ " contains working directory ".toList ++ root.text
  | declaration error => error.message

/-- What a conversion finds before it touches the output directory. -/
structure Conversion.Survey where
  roots : List Path
  /-- The common ancestor of the roots. -/
  anchor : Text
  models : List Model

/-- What a conversion came to. -/
structure Conversion extends Conversion.Survey where
  output : Path
  /-- The files that were written, one for each model. -/
  written : List Path

namespace Conversion

/-- The sources below the roots, with a warning for every name that was taken. -/
def discover (settings : Settings) (roots : List Path) : Step Failure Registry := do
  let (sources, error) := scanAll (← get).files settings.extension? roots
  let (registry, warnings) := Registry.ofFiles sources
  warn warnings
  match error with
  | some e => throw (.scan e)
  | none => return registry

/-- The models of the given sources, up to the first error. -/
def readModels (context : ReadContext) : List SourceFile → Except Failure (List Model)
  | [] => .ok []
  | source :: sources =>
    match Model.read context source with
    | .error e => .error (.source e)
    | .ok m =>
      match readModels context sources with
      | .error e => .error e
      | .ok models => .ok (m :: models)

/-- The models of all sources of a registry, with their imports. -/
def modelsOf (settings : Settings) (anchor : Text) (registry : Registry) :
    Except Failure (List Model) :=
  readModels { imports := { registry, anchor, style := settings.pathStyle } } registry.entries

/-- Why a directory whose text holds surrogates is refused as output directory: its names are gone
through up to the first one that has no bytes. -/
def rawRefusal (base : Path) (directory : RawText) : FileFailure :=
  let segments := (base.joinRaw directory).2
  let before := segments.takeWhile fun name =>
    !name.any Path.lacksByte && !name.contains (.char (Char.ofNat 0))
  let above := Path.resolveFrom (RawText.ofText Path.dotDot) false [] before
  .ofRaw (Path.rawText .absolute (above ++ (segments.drop before.length).take 1))

/-- The output directory that settings ask for. -/
def outputOf (settings : Settings) (base : Path) : Except Failure (Option Path) :=
  if settings.convertDirectory.isGiven then
    match settings.convertDirectory with
    | .string directory =>
      match RawText.text? directory with
      | none => .error (.files (rawRefusal base directory))
      | some directory =>
        let path := base.join (Path.ofText directory)
        match path.namesRefusal? with
        | some code => .error (.files (.refused { code, path }))
        | none => .ok (some path.resolve)
    | value => .error (.outputNotString value)
  else .ok none

/-- The first root that an output directory is or holds. -/
def heldRoot? (output : Path) (roots : List Path) : Option Path :=
  roots.find? fun root => output.contains root.resolve

/-- Clears the output directory, which holds no root. Without one the base directory takes its
place and is left as it is. -/
def prepareOutput (settings : Settings) (base : Path) (roots : List Path) : Step Failure Path := do
  match ← ofExcept (outputOf settings base) with
  | none =>
    say ("Using Default Convert Directory ".toList ++ base.text
      ++ " - this does not always update".toList)
    return base
  | some output =>
    if let some root := heldRoot? output roots then throw (.outputHoldsRoot output root)
    if let some e := (← get).files.lookError? output then throw (.files (.refused e))
    if (← get).files.leadsSomewhere output then say ("Convert Directory ".toList ++ output.text)
    else say ("Convert Directory does not exist ".toList ++ output.text ++ ", creating..".toList)
    onFiles .files (FileTree.replaceDirectory output)
    return output

/-- Writes the declaration of a model, and gives its path. -/
def emit (generator : Generator) (output : Path) (m : Model) : Step Failure Path := do
  let path := generator.outputPath output m
  say ("Creating file ".toList ++ path.name)
  let content ← ofExcept ((generator.generate m).mapError .declaration)
  onFiles .files (FileTree.openForWrite path content)
  return path

/-- Finds the roots, scans all of them, and reads every source. -/
def survey (settings : Settings) (base : Path) : Step Failure Survey := do
  let roots ← (enterRoots settings base).adaptExcept .files
  let anchor ← ofExcept ((sharedAncestor roots).mapError .ancestor)
  let registry ← discover settings roots
  let models ← ofExcept (modelsOf settings anchor registry)
  warn (models.flatMap Model.warnings)
  return { roots, anchor, models }

/-- Runs a conversion. Relative directories start at the base directory. -/
def run (settings : Settings) (base : Path) : Step Failure Conversion := do
  say "Starting ConvertService".toList
  let found ← survey settings base
  let output ← prepareOutput settings base found.roots
  say "Converting..".toList
  let written ← found.models.mapM (emit settings.generator output)
  say "Finished ConvertService".toList
  return { found with output, written }

/-- The paths that a conversion reports as written: none if it failed. -/
def writtenPaths : Except Failure Conversion → List Path
  | .ok c => c.written
  | .error _ => []

/-- The sentence that reports a failed conversion. -/
def failureMessage (failure : Failure) : Text := "Conversion failed: ".toList ++ failure.message

end Conversion

end Typings
