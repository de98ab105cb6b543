import Typings.Path

/-!
# The common ancestor of the roots

The deepest directory above all roots, found on their texts: the longest common beginning, cut back
to its last slash so that no name is split.
-/

namespace Typings.Discovery

open Text

/-- Why roots have no common ancestor. -/
inductive AncestorError where
  | noRoots
  | noCommonParent (roots : List Path)
  deriving DecidableEq

/-- The sentence that reports the error. -/
def AncestorError.message : AncestorError → Text
  | noRoots => "No working directories to scan".toList
  | noCommonParent roots =>
    "Directories have no common parent: ".toList ++ joinWith ", ".toList (roots.map Path.text)

/-- The text without the slashes at its end. -/
def withoutSlashes (t : Text) : Text := (t.reverse.dropWhile (· == '/')).reverse

/-- The beginning of a text up to its last slash, which is included. -/
def toLastSlash (t : Text) : Text := (t.reverse.dropWhile (· != '/')).reverse

/-- The text of a directory with one slash at its end. -/
def directoryText (p : Path) : Text := withoutSlashes p.text ++ ['/']

/-- The text of the common ancestor of roots. A single root is its own ancestor. -/
def sharedAncestor : List Path → Except AncestorError Text
  | [] => .error .noRoots
  | [root] => .ok root.text
  | root :: roots =>
    let shared := (roots.map directoryText).foldl Path.commonStart (directoryText root)
    match toLastSlash shared with
    | [] => .error (.noCommonParent (root :: roots))
    | ancestor =>
      match withoutSlashes ancestor with
      | [] => .ok ['/']
      | ancestor => .ok ancestor

end Typings.Discovery
