import Typings.Path
import Typings.Text.Encoding
import Typings.Text.Quoted

/-!
# Errors of file trees

An operation on a file tree may be refused for what the tree holds, or for the path alone: names
have a largest size in bytes, and the character zero cannot be part of a path at all.
-/

namespace Typings

open Text

/-- Why a tree refuses an operation. -/
inductive ErrorCode where
  | missing
  | alreadyThere
  | notADirectory
  | isADirectory
  /-- A name of the path, or the path as a whole, takes too many bytes. -/
  | nameTooLong
  /-- The path holds the character zero. -/
  | nullCharacter
  deriving DecidableEq, Repr

/-- The number of the error, if it has one. -/
def ErrorCode.number? : ErrorCode → Option Nat
  | missing => some 2
  | alreadyThere => some 17
  | notADirectory => some 20
  | isADirectory => some 21
  | nameTooLong => some 36
  | nullCharacter => none

/-- The wording of the error. -/
def ErrorCode.wording : ErrorCode → Text
  | missing => "No such file or directory".toList
  | alreadyThere => "File exists".toList
  | notADirectory => "Not a directory".toList
  | isADirectory => "Is a directory".toList
  | nameTooLong => "File name too long".toList
  | nullCharacter => "embedded null byte".toList

namespace Path

/-- How many bytes a text takes in a path. -/
def size (t : Text) : Nat := (encode t).length

/-- The most bytes of a name. -/
def maxNameSize : Nat := 255

/-- The most bytes of a path. -/
def maxSize : Nat := 4095

/-- Why a text can be no part of a path. -/
def textRefusal? (t : Text) : Option ErrorCode :=
  if t.contains (Char.ofNat 0) then some .nullCharacter else none

/-- Why a path is refused whatever the tree holds. -/
def refusal? (p : Path) : Option ErrorCode :=
  textRefusal? p.text <|> if maxSize < size p.text then some .nameTooLong else none

/-- Why a path cannot be followed name by name, whatever the tree holds. -/
def namesRefusal? (p : Path) : Option ErrorCode := p.segments.findSome? textRefusal?

end Path

/-- An operation that was refused, and the path it was for. -/
structure FileError where
  code : ErrorCode
  path : Path
  /-- Whether the operation was to list what the path had been opened as. -/
  listing : Bool := false
  deriving DecidableEq

namespace FileError

/-- The path of the error as its message shows it. -/
def shownPath (e : FileError) : Text :=
  if e.listing then "PosixPath(".toList ++ quoted e.path.text ++ [')'] else quoted e.path.text

/-- The sentence that reports the error. -/
def message (e : FileError) : Text :=
  match e.code.number? with
  | some number =>
    "[Errno ".toList ++ ofNat number ++ "] ".toList ++ e.code.wording ++ ": ".toList ++ e.shownPath
  | none => e.code.wording

end FileError

end Typings
