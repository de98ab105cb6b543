import Typings.Delay
import Typings.FileTree.Basic
import Typings.Path.Raw
import Typings.Retry

/-!
# Resilient operations on directories

Clearing and filling an output directory runs through bounded retries, because what was deleted may
linger for a while and what was created may vanish with it.
-/

namespace Typings

open Text

/-- Why a resilient operation failed. -/
inductive FileFailure where
  | refused (error : FileError)
  | exhausted (description : Text) (attempts : Int) (lastError : FileError)
  | noAttempts
  | delayTooLarge
  /-- The raw path holds surrogates. -/
  | noBytes (path : RawText)
  deriving DecidableEq

/-- The failure of attempts at an operation on a tree. -/
def FileFailure.ofAttempts : Retry.Failure FileError → FileFailure
  | .noAttempts => .noAttempts
  | .failed e => .refused e
  | .exhausted description attempts lastError => .exhausted description attempts lastError
  | .delayTooLarge => .delayTooLarge

/-- The sentence that reports the failure. -/
def FileFailure.message : FileFailure → Text
  | refused error => error.message
  | exhausted description attempts lastError =>
    Retry.exhaustedMessage description attempts lastError.message
  | noAttempts => Retry.noAttemptsMessage
  | delayTooLarge => Delay.tooLargeMessage
  | noBytes path => Path.noBytesMessage path

/-- Why nothing can be done at a raw path that holds surrogates. Where all of them may stand for a
byte, the character zero weighs more. -/
def FileFailure.ofRaw (path : RawText) : FileFailure :=
  if path.contains (.char (Char.ofNat 0)) && !path.any Path.lacksByte then
    .refused { code := .nullCharacter, path := Path.ofText (RawText.shown path) }
  else .noBytes path

/-- The retry category of an error of a tree. -/
def FileError.category (e : FileError) : Retry.Category :=
  Retry.categorise
    (if e.code = .missing then .notFound else if e.code.number?.isSome then .system else .foreign)
    e.code.number?

namespace FileTree

/-- Runs an operation on a tree with retries. -/
def resilient (attempts : Int) (description : Text)
    (operation : FileTree → Except FileError Unit × FileTree) (t : FileTree) :
    Except FileFailure Unit × FileTree :=
  let policy : Retry.Policy FileError Delay :=
    { maxAttempts := attempts, backoff := fun n => Delay.exponential Delay.base n
      classify := FileError.category }
  let (report, t) := Retry.run policy operation t
  ((Retry.result policy description report).mapError .ofAttempts, t)

/-- Deletes a directory with all below it, if it exists. -/
def deleteDirectory (p : Path) (t : FileTree) (attempts : Int := Retry.defaultAttempts) :
    Except FileFailure Unit × FileTree :=
  resilient attempts ("Deleting ".toList ++ p.text) (removeDirectory · p) t

/-- Creates a directory and all that should hold it, if it does not exist. -/
def createDirectory (p : Path) (t : FileTree) (attempts : Int := Retry.defaultAttempts) :
    Except FileFailure Unit × FileTree :=
  resilient attempts ("Creating ".toList ++ p.text) (makeDirectories · p) t

/-- Deletes a directory if it exists and creates it empty. -/
def replaceDirectory (p : Path) (t : FileTree) (attempts : Int := Retry.defaultAttempts) :
    Except FileFailure Unit × FileTree :=
  match deleteDirectory p t attempts with
  | (.error e, t) => (.error e, t)
  | (.ok (), t) => createDirectory p t attempts

/-- Writes a text file, and makes the directory that should hold it. -/
def openForWrite (p : Path) (content : Text) (t : FileTree)
    (attempts : Int := Retry.defaultAttempts) : Except FileFailure Unit × FileTree :=
  resilient attempts ("Opening ".toList ++ p.text) (writeText · p content) t

end FileTree

end Typings
