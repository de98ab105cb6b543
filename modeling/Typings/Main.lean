import Typings.CommandLine.Basic
import Typings.FileTree.Changes

/-!
# The program

The outer layer of the command line: it reads what a run looks at into a file tree, runs, and does
to the disk what the run did to the tree.
-/

open Typings

/-- The name of an entry below the root of all. -/
def diskName (segments : List Text) : String :=
  String.ofList ('/' :: Text.joinWith ['/'] segments)

/-- Reads one entry of the disk into a tree, and gives the names of the entries below it. Nothing
changes if there is no entry that can be read. -/
def readOne (files : FileTree) (segments : List Text) : IO (FileTree × List Text) := do
  let path := (← IO.currentDir) / diskName segments
  if ← path.isDir then
    let names := (← path.readDir).toList.map fun entry => entry.fileName.toList
    return (if segments.isEmpty then files else files.insert segments .directory, names)
  else
    try
      return (files.insert segments (.file (← IO.FS.readBinFile path).toList), [])
    catch _ => return (files, [])

/-- Reads an entry of the disk, and all below it, into a tree. -/
partial def readEntry (files : FileTree) (segments : List Text) : IO FileTree := do
  let (read, names) ← readOne files segments
  let mut files := read
  for name in names do
    files ← readEntry files (segments ++ [name])
  return files

/-- Reads the entries above a place into a tree. -/
def readAbove (files : FileTree) (segments : List Text) : IO FileTree := do
  let mut files := files
  for n in [1:segments.length] do
    files := (← readOne files (segments.take n)).1
  return files

/-- Reads everything that is at some paths or below them into a tree. -/
def readConcerns (files : FileTree) (paths : List Path) : IO FileTree := do
  let mut files := files
  for path in paths do
    let segments := path.normalise.segments
    files ← readEntry (← readAbove files segments) segments
  return files

/-- Does one thing to the disk. -/
def change : FileTree.Change → IO Unit
  | .removeFile segments => IO.FS.removeFile (diskName segments)
  | .removeDirectory segments => IO.FS.removeDir (diskName segments)
  | .makeDirectory segments => IO.FS.createDir (diskName segments)
  | .write segments bytes => IO.FS.writeBinFile (diskName segments) (ByteArray.mk bytes.toArray)

/-- Runs the program in the current directory. -/
def main (args : List String) : IO UInt32 := do
  let here := Path.ofText (← IO.currentDir).toString.toList
  let arguments := args.map String.toList
  let start := (← readOne (← readAbove {} here.segments) here.segments).1
  let known ← readConcerns start (CommandLine.concerns arguments start here)
  let files ← readConcerns known (CommandLine.concerns arguments known here)
  let outcome := CommandLine.run arguments files here
  for step in FileTree.changes files outcome.files do
    change step
  for line in outcome.log do
    IO.eprintln (String.ofList line)
  match outcome.ending with
  | .stopped .usage => IO.eprint (String.ofList CommandLine.helpText)
  | .escaped e => IO.eprintln (String.ofList e.message)
  | _ => pure ()
  IO.print (String.ofList outcome.output)
  return outcome.ending.code.toUInt32
