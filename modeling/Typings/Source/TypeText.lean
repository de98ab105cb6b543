import Typings.Text.Blank
import Typings.Text.Case
import Typings.Text.Word

/-!
# The text of a declared type

A declared type is read as text: whether it is a dictionary, an array or optional, the bare name
left when nullable marks, array suffixes and collection wrappers are gone, and its generic
arguments.
-/

namespace Typings.Source

open Text

/-- The convention for names of interfaces: `I` followed by an upper-case letter. -/
def isInterfaceName : Text → Bool
  | 'I' :: c :: _ => isUpper c
  | _ => false

/-- Generic types whose only argument is the type of an element. -/
def wrappers : List Text :=
  ["List".toList, "IList".toList, "IEnumerable".toList, "ICollection".toList, "Collection".toList,
   "IReadOnlyList".toList, "IReadOnlyCollection".toList, "HashSet".toList, "ISet".toList,
   "Nullable".toList]

/-- The wrapper that adds no array layer. -/
def nullable : Text := "Nullable".toList

/-- What marks a type as a collection, in any case. -/
def arrayMarkers : List Text :=
  ["list".toList, "collection".toList, "enumerable".toList, "array".toList]

/-- The characters of a possibly qualified name. -/
def isNameChar (c : Char) : Bool := isWordChar c || c == '.'

/-- A text of the form `Head<Inner>`, taken apart: a name, and everything up to a closing bracket
at the very end. -/
def generic? (t : Text) : Option (Text × Text) :=
  match t.dropWhile isNameChar with
  | '<' :: r =>
    if (t.takeWhile isNameChar).isEmpty || r.getLast? != some '>' || r.dropLast.contains '\n' then
      none
    else some (t.takeWhile isNameChar, r.dropLast)
  | _ => none

theorem length_trimEnd_le (t : Text) : (trimEnd t).length ≤ t.length := by
  induction t with
  | nil => simp [trimEnd]
  | cons c r ih =>
    rw [trimEnd]
    split
    · split <;> simp
    · next h => rw [h] at ih; simp at ih ⊢; omega

theorem length_trim_le (t : Text) : (trim t).length ≤ t.length :=
  Nat.le_trans (length_trimEnd_le _) (List.dropWhile_sublist _).length_le

/-- What stands inside the brackets is shorter than the whole. -/
theorem length_lt_of_generic? {t head inner : Text} (h : generic? t = some (head, inner)) :
    inner.length < t.length := by
  unfold generic? at h
  split at h
  · next r hr =>
    split at h
    · simp at h
    · have hle : (t.dropWhile isNameChar).length ≤ t.length := (List.dropWhile_sublist _).length_le
      simp only [Option.some.injEq, Prod.mk.injEq] at h
      rw [← h.2, List.length_dropLast]
      rw [hr, List.length_cons] at hle
      omega
  · simp at h

/-- Whether a type name, without its namespace, is one of the wrappers. -/
def isWrapper (head : Text) : Bool := wrappers.contains (afterLast '.' head)

/-- The type inside all the wrappers around it. -/
def unwrapped (t : Text) : Text :=
  match _h : generic? t with
  | some (head, inner) => if isWrapper head then unwrapped (trim inner) else t
  | none => t
termination_by t.length
decreasing_by exact Nat.lt_of_le_of_lt (length_trim_le _) (length_lt_of_generic? ‹_›)

/-- Whether the outermost wrapper that is not nullable is a collection. -/
def wrapsCollection (t : Text) : Bool :=
  match _h : generic? t with
  | some (head, inner) =>
    if !isWrapper head then false
    else if afterLast '.' head = nullable then wrapsCollection (trim inner)
    else true
  | none => false
termination_by t.length
decreasing_by exact Nat.lt_of_le_of_lt (length_trim_le _) (length_lt_of_generic? ‹_›)

/-- The text without nullable marks. -/
def withoutMarks (t : Text) : Text := t.filter (· != '?')

/-- The text without array suffixes. -/
def withoutSuffixes : Text → Text
  | [] => []
  | '[' :: ']' :: r => withoutSuffixes r
  | c :: r => c :: withoutSuffixes r

/-- Whether the type is a dictionary: it names one and has brackets and a comma. -/
def isDictionary (t : Text) : Bool :=
  holds "Dictionary".toList t && t.contains '<' && t.contains '>' && t.contains ','

/-- Whether the type is an array: by its suffix, by a marker in its name, or by a wrapper. -/
def isArray (t : Text) : Bool :=
  holds "[]".toList t || arrayMarkers.any (holds · (lower t))
    || wrapsCollection (trim (withoutMarks t))

/-- Whether the type is marked as nullable anywhere. -/
def isOptional (t : Text) : Bool := t.contains '?'

/-- The bare name of a declared type, by which it is looked up: without marks and suffixes, taken
out of its wrappers, and without the brackets that are left. -/
def cleanType (t : Text) : Text :=
  (unwrapped (trim (withoutSuffixes (withoutMarks t)))).filter fun c => c != '<' && c != '>'

/-- The pieces between the commas that stand outside all brackets, counted from a given depth. -/
def splitTopLevel : Int → Text → List Text
  | _, [] => [[]]
  | depth, c :: r =>
    if c = ',' ∧ depth = 0 then [] :: splitTopLevel depth r
    else
      let inside := if c = '<' then depth + 1 else if c = '>' then depth - 1 else depth
      match splitTopLevel inside r with
      | [] => [[c]]
      | p :: ps => (c :: p) :: ps

/-- The generic arguments of a type: what stands between its first opening and its last closing
bracket, cut at the outer commas. -/
def typeArguments (t : Text) : List Text :=
  let body := (t.dropWhile (· != '<')).drop 1
  if body.contains '>' then
    (splitTopLevel 0 ((body.reverse.dropWhile (· != '>')).drop 1).reverse).map trim
  else []

end Typings.Source
