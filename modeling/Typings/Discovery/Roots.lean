import Typings.Session
import Typings.Settings.Basic

/-!
# Roots

The working directories of the settings, as absolute roots in the order in which they are listed.
Those that are missing are created.
-/

namespace Typings.Discovery

open Session Text

/-- The root that an item of the list stands for, or what it comes to if it has no bytes. -/
def rootOf (base : Path) (item : RawText) : Except RawText Path :=
  match RawText.text? item with
  | some t => .ok (base.join (Path.ofText t)).normalise
  | none => base.ofRaw item

/-- Makes sure that a root exists. -/
def enterRoot (root : Path) : Step FileFailure Unit := do
  if let some e := (← get).files.lookError? root then throw (.refused e)
  unless (← get).files.isDirectory root do
    say ("Working Directory does not exist ".toList ++ root.text ++ ", creating..".toList)
    onFiles id (FileTree.createDirectory root)
  say ("Adding Working Directory ".toList ++ root.text)

/-- Makes sure that the root of an item exists, and gives it. -/
def enterItem : Except RawText Path → Step FileFailure Path
  | .error raw => throw (.ofRaw raw)
  | .ok root => do
    enterRoot root
    return root

/-- Whether settings say anything about working directories. -/
def hasRoots (settings : Settings) : Bool :=
  settings.workingDirectory.isGiven || settings.workingDirectories.isGiven

/-- The roots that settings stand for; the base directory is the only one if they say nothing. -/
def rootsOf (settings : Settings) (base : Path) : List (Except RawText Path) :=
  if hasRoots settings then settings.directoryItems.map (rootOf base) else [.ok base]

/-- Finds the roots, and creates those that are missing. -/
def enterRoots (settings : Settings) (base : Path) : Step FileFailure (List Path) := do
  if hasRoots settings then (rootsOf settings base).mapM enterItem
  else
    say ("Using Default Working Directory ".toList ++ base.text)
    return [base]

end Typings.Discovery
