import Typings.FileTree.Error

/-!
# File trees

A file tree maps paths, as lists of segments from the root of all, to directories and files. The
root is always a directory. Paths may go up with double dots; they are followed step by step, and
every step has to start at a directory and to take a name that is not too long.
-/

namespace Typings

open Text

/-- What a path of a tree leads to. -/
inductive Entry where
  | directory
  | file (bytes : Bytes)
  deriving DecidableEq

/-- The entries of a tree below its root. -/
structure FileTree where
  entries : List (List Text × Entry) := []

namespace FileTree

/-- The entry under a list of segments without double dots. -/
def find? (t : FileTree) (segments : List Text) : Option Entry :=
  if segments = [] then some .directory else t.entries.lookup segments

/-- A tree as trees are: no path occurs twice, what holds an entry is a directory, and every
segment is a name. -/
structure WellFormed (t : FileTree) : Prop where
  nodup : (t.entries.map (·.1)).Nodup
  parent : ∀ e ∈ t.entries, e.1 ≠ [] ∧ t.find? e.1.dropLast = some .directory
  named : ∀ e ∈ t.entries, ∀ s ∈ e.1, Path.IsName s

/-- The tree without an entry and all below it. -/
def erase (t : FileTree) (segments : List Text) : FileTree :=
  { entries := t.entries.filter fun e => !segments.isPrefixOf e.1 }

/-- The tree without all that is below a place. -/
def clear (t : FileTree) (segments : List Text) : FileTree :=
  { entries := t.entries.filter fun e => e.1 == segments || !segments.isPrefixOf e.1 }

/-- The tree with an entry set, which replaces only the entry of the same path. -/
def insert (t : FileTree) (segments : List Text) (entry : Entry) : FileTree :=
  { entries := (t.entries.filter fun e => e.1 != segments) ++ [(segments, entry)] }

/-- Follows segments from a place in the tree and gives the place they lead to. The last segment
need not exist. -/
def follow (t : FileTree) : List Text → List Text → Except ErrorCode (List Text)
  | here, [] => .ok here
  | here, s :: rest =>
    match t.find? here with
    | none => .error .missing
    | some (.file _) => .error .notADirectory
    | some .directory =>
      if s = Path.dotDot then t.follow here.dropLast rest
      else if Path.maxNameSize < Path.size s then .error .nameTooLong
      else t.follow (here ++ [s]) rest

/-- The place that a path leads to. -/
def locate (t : FileTree) (p : Path) : Except ErrorCode (List Text) :=
  match p.refusal? with
  | some code => .error code
  | none => t.follow [] p.segments

/-- The entry that a path leads to. -/
def status (t : FileTree) (p : Path) : Except ErrorCode Entry :=
  match t.locate p with
  | .error code => .error code
  | .ok place =>
    match t.find? place with
    | none => .error .missing
    | some entry => .ok entry

/-- Whether a path leads to an entry. -/
def leadsSomewhere (t : FileTree) (p : Path) : Bool :=
  match t.status p with
  | .ok _ => true
  | .error _ => false

/-- The error that merely looking at a path meets. Only a name that is too long counts; whatever
else is wrong means that the path leads nowhere. -/
def lookError? (t : FileTree) (p : Path) : Option FileError :=
  match t.status p with
  | .error .nameTooLong => some { code := .nameTooLong, path := p }
  | _ => none

/-- Whether a path leads to a directory. -/
def isDirectory (t : FileTree) (p : Path) : Bool :=
  match t.status p with
  | .ok .directory => true
  | _ => false

/-- The bytes of the file that a path leads to. -/
def read (t : FileTree) (p : Path) : Except ErrorCode Bytes :=
  match t.status p with
  | .error code => .error code
  | .ok .directory => .error .isADirectory
  | .ok (.file bytes) => .ok bytes

/-- Sets the bytes of a file in a directory that exists. -/
def write (t : FileTree) (p : Path) (bytes : Bytes) : Except ErrorCode FileTree :=
  match t.locate p with
  | .error code => .error code
  | .ok place =>
    match t.find? place, t.find? place.dropLast with
    | some .directory, _ => .error .isADirectory
    | _, some .directory => .ok (t.insert place (.file bytes))
    | _, some (.file _) => .error .notADirectory
    | _, none => .error .missing

/-- Makes one directory in a directory that exists. -/
def makeDirectory (t : FileTree) (p : Path) : Except ErrorCode FileTree :=
  match t.locate p with
  | .error code => .error code
  | .ok place =>
    match t.find? place with
    | some _ => .error .alreadyThere
    | none => .ok (t.insert place .directory)

/-- Makes a directory, given by its segments from last to first, after those that should hold it.
A directory that exists is left as it is. The first of the two results tells the error and the path
that met it. -/
def ensure (t : FileTree) (root : Path.Root) : List Text → Option FileError × FileTree
  | [] => (none, t)
  | s :: above =>
    let p : Path := ⟨root, (s :: above).reverse⟩
    match t.makeDirectory p with
    | .ok made => (none, made)
    | .error .missing =>
      match t.ensure root above with
      | (some e, changed) => (some e, changed)
      | (none, changed) =>
        match changed.makeDirectory p with
        | .ok made => (none, made)
        | .error code =>
          if code ≠ .missing ∧ changed.isDirectory p then (none, changed)
          else (some { code, path := p }, changed)
    | .error code => if t.isDirectory p then (none, t) else (some { code, path := p }, t)

/-- Makes a directory and all that should hold it. -/
def makeDirectories (t : FileTree) (p : Path) : Except FileError Unit × FileTree :=
  match t.ensure p.root p.segments.reverse with
  | (none, made) => (.ok (), made)
  | (some e, changed) => (.error e, changed)

/-- Removes the directory that a path leads to, after all below it; nothing happens if there is
nothing. A path that goes through what is below the directory leads nowhere once that is gone, so
the directory itself stays. -/
def removeDirectory (t : FileTree) (p : Path) : Except FileError Unit × FileTree :=
  match t.locate p with
  | .error .nameTooLong => (.error { code := .nameTooLong, path := p }, t)
  | .error _ => (.ok (), t)
  | .ok place =>
    match t.find? place with
    | none => (.ok (), t)
    | some (.file _) => (.error { code := .notADirectory, path := p, listing := true }, t)
    | some .directory =>
      let cleared := t.clear place
      match cleared.locate p with
      | .error code => (.error { code, path := p }, cleared)
      | .ok place => (.ok (), cleared.erase place)

/-- Makes the directory that should hold a file, and opens the file by writing its text. -/
def writeText (t : FileTree) (p : Path) (content : Text) : Except FileError Unit × FileTree :=
  match t.makeDirectories p.parent with
  | (.error e, changed) => (.error e, changed)
  | (.ok (), made) =>
    match made.write p (encode content) with
    | .error code => (.error { code, path := p }, made)
    | .ok written => (.ok (), written)

end FileTree

end Typings
