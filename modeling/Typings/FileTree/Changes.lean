import Typings.FileTree.Basic

/-!
# Changes of a file tree

What has to be done to one tree to make it another: first everything that is gone is removed, from
the bottom up, then everything that is new is made, from the top down.
-/

namespace Typings

/-- One thing to be done to a tree. -/
inductive FileTree.Change where
  | removeFile (segments : List Text)
  | removeDirectory (segments : List Text)
  | makeDirectory (segments : List Text)
  | write (segments : List Text) (bytes : Text.Bytes)
  deriving DecidableEq

namespace FileTree

/-- Whether two entries are of one kind. -/
def sameKind : Entry → Entry → Bool
  | .directory, .directory => true
  | .file _, .file _ => true
  | _, _ => false

/-- Entries with the shorter paths first. -/
def topDown (entries : List (List Text × Entry)) : List (List Text × Entry) :=
  entries.mergeSort fun a b => a.1.length ≤ b.1.length

/-- What is removed to get from one tree to the other. -/
def removals (before after : FileTree) : List Change :=
  ((topDown before.entries).reverse.filter fun e =>
    !((after.find? e.1).map (sameKind e.2)).getD false).map fun
    | (segments, .directory) => .removeDirectory segments
    | (segments, .file _) => .removeFile segments

/-- What is made to get from one tree to the other. -/
def additions (before after : FileTree) : List Change :=
  ((topDown after.entries).filter fun e => before.find? e.1 != some e.2).map fun
    | (segments, .directory) => .makeDirectory segments
    | (segments, .file bytes) => .write segments bytes

/-- Everything that is done to get from one tree to the other. -/
def changes (before after : FileTree) : List Change :=
  removals before after ++ additions before after

end FileTree

end Typings
