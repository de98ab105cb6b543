import Typings.Text.Basic

/-!
# Paths

A path is a root and a list of segments. Repeated slashes and single dots leave no trace; double
dots stay until the path is normalised. Exactly two leading slashes are a root of their own.
-/

namespace Typings

open Text

/-- Where a path starts. -/
inductive Path.Root where
  | relative
  | absolute
  | doubled
  deriving DecidableEq, Repr

/-- A root and the segments below it, none of which is empty or a single dot when the path was
read from text. -/
structure Path where
  root : Path.Root
  segments : List Text
  deriving DecidableEq

namespace Path

/-- The segment for the current folder. -/
def dot : Text := ['.']

/-- The segment for the folder above. -/
def dotDot : Text := ['.', '.']

/-- What a text has to meet to name an entry of a folder: it is not empty, it stands for no other
folder, and it has no slash. -/
def IsName (s : Text) : Prop := s ≠ [] ∧ s ≠ dot ∧ s ≠ dotDot ∧ '/' ∉ s

instance (s : Text) : Decidable (IsName s) :=
  inferInstanceAs (Decidable (s ≠ [] ∧ s ≠ dot ∧ s ≠ dotDot ∧ '/' ∉ s))

/-- The root that leading slashes announce. -/
def rootOf : Text → Root
  | '/' :: '/' :: '/' :: _ => .absolute
  | '/' :: '/' :: _ => .doubled
  | '/' :: _ => .absolute
  | _ => .relative

/-- Reads a path. -/
def ofText (t : Text) : Path :=
  ⟨rootOf t, (splitOn '/' t).filter fun s => s != [] && s != dot⟩

/-- The text of a root. -/
def Root.text : Root → Text
  | relative => []
  | absolute => ['/']
  | doubled => ['/', '/']

/-- Writes a path; the empty relative path is a single dot. -/
def text (p : Path) : Text :=
  if p.root = .relative ∧ p.segments = [] then dot
  else p.root.text ++ joinWith ['/'] p.segments

/-- `q` as seen from `p`: below it, unless `q` starts at a root itself. -/
def join (p q : Path) : Path :=
  if q.root = .relative then ⟨p.root, p.segments ++ q.segments⟩ else q

/-- The folder that holds the path; a root holds itself. -/
def parent (p : Path) : Path := ⟨p.root, p.segments.dropLast⟩

/-- The last segment, empty for a root. -/
def name (p : Path) : Text := p.segments.getLast?.getD []

/-- The end of the name from its last dot on, if that dot neither starts nor ends the name. -/
def suffix (p : Path) : Text :=
  let ending := afterLast '.' p.name
  if ending.isEmpty || p.name.length ≤ ending.length + 1 then [] else '.' :: ending

/-- Segments with every double dot `up` resolved against the segment before it; `above` holds what
has been read, last segment first. Double dots at the start are kept only in a relative path. -/
def resolveFrom {α : Type} [DecidableEq α] (up : α) (relative : Bool) : List α → List α → List α
  | above, [] => above.reverse
  | above, s :: rest =>
    if s = up then
      match above with
      | [] => resolveFrom up relative (if relative then [up] else []) rest
      | top :: below =>
        if top = up then resolveFrom up relative (up :: top :: below) rest
        else resolveFrom up relative below rest
    else resolveFrom up relative (s :: above) rest

/-- The path without double dots, judged by its text alone. -/
def normalise (p : Path) : Path :=
  ⟨p.root, resolveFrom dotDot (p.root == .relative) [] p.segments⟩

/-- The absolute path without double dots and with a single leading slash. -/
def resolve (p : Path) : Path := ⟨.absolute, resolveFrom dotDot false [] p.segments⟩

/-- The longest common beginning of two lists. -/
def commonStart {α : Type} [DecidableEq α] : List α → List α → List α
  | a :: x, b :: y => if a = b then a :: commonStart x y else []
  | _, _ => []

/-- How to walk from the folder `start` to `target`: up to the deepest common folder, then down.
Both are taken from the same root. -/
def relative (target start : Path) : Path :=
  let shared := (commonStart start.segments target.segments).length
  ⟨.relative,
    List.replicate (start.segments.length - shared) dotDot ++ target.segments.drop shared⟩

/-- Whether `p` is `q` or one of the folders above it. -/
def contains (p q : Path) : Bool := p.root == q.root && p.segments.isPrefixOf q.segments

end Path

end Typings
