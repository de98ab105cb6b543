import Typings.FileTree.Basic
import Typings.Json.Read
import Typings.Json.Write
import Typings.Settings.Basic
import Typings.Source.Literal
import Typings.Text.Lines

/-!
# Settings files

Settings are kept in JSON files. What a file says lies below what the caller overrides, and above
the defaults. Messages name a file as it was given; it is looked up from the current directory.

Most errors are errors of the settings. Those of a path that cannot even be looked at, of bytes that
are no text, of numbers too long and of nesting too deep are not.
-/

namespace Typings.Settings

open Text

/-- Why settings cannot be loaded or saved. -/
inductive StorageError where
  | notFound (path : Path)
  | wrongSuffix (path : Path)
  /-- The text of the file is no JSON. What is wrong is so many characters before its end. -/
  | malformed (path : Path) (content : Text) (problem : Json.Problem) (left : Nat)
  | noObject (path : Path)
  | unreadable (error : FileError)
  | unwritable (error : FileError)
  | values (error : Error)
  /-- The path cannot even be looked at. -/
  | refused (error : FileError)
  /-- The bytes of the file are no text. -/
  | undecodable (path : Path)
  /-- An integer of the file has more digits than are read. -/
  | tooManyDigits (count : Nat)
  /-- The values of the file are nested too deeply. -/
  | tooDeep
  /-- The settings hold surrogates, which have no bytes. -/
  | unencodable

/-- The sentence that reports the error. -/
def StorageError.message : StorageError → RawText
  | notFound path => .ofText ("Configuration file not found: ".toList ++ path.text)
  | wrongSuffix path => .ofText ("Configuration file must be JSON: ".toList ++ path.text)
  | malformed path content problem left => .ofText
    ("Invalid JSON in configuration file ".toList ++ path.text ++ ": ".toList
      ++ problem.message content left)
  | noObject path =>
    .ofText ("Configuration file must contain a JSON object: ".toList ++ path.text)
  | unreadable error => .ofText
    ("Failed to load configuration file ".toList ++ error.path.text ++ ": ".toList ++ error.message)
  | unwritable error => .ofText
    ("Failed to save configuration to ".toList ++ error.path.text ++ ": ".toList ++ error.message)
  | values error => error.message
  | refused error => .ofText error.message
  | undecodable path => .ofText ("Configuration file is not UTF-8: ".toList ++ path.text)
  | tooManyDigits count => .ofText (Source.tooManyDigitsMessage count)
  | tooDeep => .ofText "maximum recursion depth exceeded".toList
  | unencodable => .ofText "surrogates not allowed".toList

/-- The suffix of settings files, in any case. -/
def fileSuffix : Text := ".json".toList

/-- The object that the text of a settings file spells. -/
def parseLayer (path : Path) (content : Text) : Except StorageError Layer :=
  match Json.read content with
  | .ok (.object members) => .ok members
  | .ok _ => .error (.noObject path)
  | .error (.malformed problem left) => .error (.malformed path content problem left)
  | .error (.tooManyDigits count) => .error (.tooManyDigits count)
  | .error .tooDeep => .error .tooDeep

/-- The object that the bytes of a settings file spell. -/
def readLayer (path : Path) (bytes : Bytes) : Except StorageError Layer :=
  match utf8? bytes with
  | none => .error (.undecodable path)
  | some content => parseLayer path (unifyBreaks content)

/-- The layer of a settings file. -/
def loadLayer (files : FileTree) (here path : Path) : Except StorageError Layer :=
  let place := here.join path
  match files.lookError? place with
  | some e => .error (.refused { e with path })
  | none =>
    if !files.leadsSomewhere place then .error (.notFound path)
    else if lower path.suffix ≠ fileSuffix then .error (.wrongSuffix path)
    else match files.read place with
      | .error code => .error (.unreadable { code, path })
      | .ok bytes => readLayer path bytes

/-- The settings of a file, if one is named, under overrides; an override that is null does not
count, and neither does an empty file name. -/
def load (files : FileTree) (here : Path) (file : Option Text) (overrides : Layer) :
    Except StorageError Settings :=
  match Model.given file with
  | none => (ofLayers [overrides.given]).mapError .values
  | some name =>
    match loadLayer files here (Path.ofText name) with
    | .error e => .error e
    | .ok layer => (ofLayers [overrides.given, layer]).mapError .values

/-- Writes settings, if they have bytes, to a file in a directory that exists. -/
def save (s : Settings) (files : FileTree) (here path : Path) : Except StorageError FileTree :=
  match files.write (here.join path) (encode s.toJson.write) with
  | .error code =>
    if code.number?.isSome then .error (.unwritable { code, path })
    else .error (.refused { code, path })
  | .ok written => if s.toJson.isEncodable then .ok written else .error .unencodable

end Typings.Settings
