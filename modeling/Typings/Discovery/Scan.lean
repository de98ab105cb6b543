import Typings.FileTree.Basic
import Typings.Model.Basic
import Typings.Naming
import Typings.Settings.Basic
import Typings.Text.Lines

/-!
# Scanning for sources

Every file below a root whose name has the source extension is a source. Files in sub-directories
come before those beside them, and otherwise names decide in code point order.
-/

namespace Typings.Discovery

open Text

/-- Why a source file cannot be loaded. -/
inductive LoadError where
  | missing (path : Path)
  /-- The path cannot even be looked at. -/
  | refused (error : FileError)
  | unreadable (error : FileError)
  | undecodable (path : Path)
  deriving DecidableEq

/-- The sentence that reports the error. -/
def LoadError.message : LoadError → Text
  | missing path => "File not found: ".toList ++ path.text
  | refused error => error.message
  | unreadable error =>
    "Error reading file ".toList ++ error.path.text ++ ": ".toList ++ error.message
  | undecodable path =>
    "Could not decode ".toList ++ path.text ++ " with any of: utf-8-sig, cp1252".toList

/-- The lines that the bytes of a file spell. -/
def linesOf (path : Path) (bytes : Bytes) : Except LoadError (List Text) :=
  match decode? bytes with
  | some content => .ok (lines content)
  | none => .error (.undecodable path)

/-- The lines of a source file. -/
def loadLines (files : FileTree) (path : Path) : Except LoadError (List Text) :=
  match files.lookError? path with
  | some e => .error (.refused e)
  | none =>
    if !files.leadsSomewhere path then .error (.missing path)
    else match files.read path with
      | .error code => .error (.unreadable { code, path })
      | .ok bytes => linesOf path bytes

/-- Why a root cannot be scanned. -/
inductive ScanError where
  /-- The root cannot be listed. -/
  | listing (error : FileError)
  /-- There are files, but the source extension is no string. -/
  | noExtension
  | load (error : LoadError)
  deriving DecidableEq

/-- The sentence that reports the error. -/
def ScanError.message : ScanError → Text
  | listing error => error.message
  | noExtension => "The source extension is not a string".toList
  | load error => error.message

/-- Whether one file is visited no later than another, by their segments from a root: what lies in
a directory comes before the files beside that directory, and names decide otherwise. -/
def visitLe : List Text → List Text → Bool
  | [], _ => true
  | _, [] => false
  | [a], [b] => le a b
  | [_], _ :: _ :: _ => false
  | _ :: _ :: _, [_] => true
  | a :: x, b :: y => if a = b then visitLe x y else le a b

/-- The files below a place of a tree by their segments from there, in the order of the visit. -/
def filesBelow (files : FileTree) (place : List Text) : List (List Text × Bytes) :=
  sortBy (fun a b => visitLe a.1 b.1) (files.entries.filterMap fun
    | (segments, .file bytes) =>
      if place.isPrefixOf segments then some (segments.drop place.length, bytes) else none
    | (_, .directory) => none)

/-- Whether a file name has an extension, in any case. -/
def hasExtension (extension name : Text) : Bool := (lower extension).isSuffixOf (lower name)

/-- The name of a file with as many characters cut from its end as the extension has. Of a name
that is shorter than the extension, as many are cut as the extension has more. -/
def stem (extension name : Text) : Text :=
  if extension.length ≤ name.length then name.take (name.length - extension.length)
  else name.take (name.length - (extension.length - name.length))

/-- The source file at the given segments from a root. -/
def sourceOf (extension : Text) (root : Path) (segments : List Text) (lines : List Text) :
    SourceFile :=
  { name := pascalCase (stem extension (segments.getLast?.getD []))
    folder := joinWith ['/'] segments.dropLast
    path := ⟨root.root, root.segments ++ segments⟩
    root
    lines }

/-- Loads the source file at the given segments from a root. -/
def loadSource (extension : Text) (root : Path) (file : List Text × Bytes) :
    Except ScanError SourceFile :=
  match linesOf ⟨root.root, root.segments ++ file.1⟩ file.2 with
  | .ok lines => .ok (sourceOf extension root file.1 lines)
  | .error e => .error (.load e)

/-- The values before the first error, and that error. -/
def untilError {ε α : Type} : List (Except ε α) → List α × Option ε
  | [] => ([], none)
  | .error e :: _ => ([], some e)
  | .ok a :: rest => (a :: (untilError rest).1, (untilError rest).2)

/-- The sources below a root, up to the first error. No name ends with an extension that has
surrogates. -/
def scan (files : FileTree) (extension : Option RawText) (root : Path) :
    List SourceFile × Option ScanError :=
  match files.locate root with
  | .error code => ([], some (.listing { code, path := root }))
  | .ok place =>
    match files.find? place with
    | none => ([], some (.listing { code := .missing, path := root }))
    | some (.file _) => ([], some (.listing { code := .notADirectory, path := root }))
    | some .directory =>
      match extension, filesBelow files place with
      | _, [] => ([], none)
      | none, _ :: _ => ([], some .noExtension)
      | some extension, found =>
        match RawText.text? extension with
        | none => ([], none)
        | some extension =>
          untilError ((found.filter fun file =>
            hasExtension extension (file.1.getLast?.getD [])).map (loadSource extension root))

/-- The sources below all roots, up to the first error. -/
def scanAll (files : FileTree) (extension : Option RawText) :
    List Path → List SourceFile × Option ScanError
  | [] => ([], none)
  | root :: roots =>
    match scan files extension root with
    | (found, some e) => (found, some e)
    | (found, none) =>
      let (more, e) := scanAll files extension roots
      (found ++ more, e)

end Typings.Discovery
