import Typings.Path
import Typings.Text.Quoted

/-!
# Raw paths

Raw text that names a directory. Double dots may do away with its surrogates, and then it is a path
like any other. Those that are left have no bytes, so nothing can be found or made there.
-/

namespace Typings.Path

open Text

/-- The root and the segments of raw text as seen from a path. -/
def joinRaw (p : Path) (s : RawText) : Root × List RawText :=
  let below := (splitOn (.char '/') s).filter fun name => name != [] && name != RawText.ofText dot
  match rootOf (RawText.shown s) with
  | .relative => (p.root, p.segments.map RawText.ofText ++ below)
  | root => (root, below)

/-- The raw text of a root and segments. -/
def rawText (root : Root) (segments : List RawText) : RawText :=
  RawText.ofText root.text ++ joinWith [.char '/'] segments

/-- The path without double dots that raw text stands for, as seen from a path; the raw text of that
path if surrogates are left in it. -/
def ofRaw (p : Path) (s : RawText) : Except RawText Path :=
  let (root, segments) := p.joinRaw s
  let segments := resolveFrom (RawText.ofText dotDot) (root == .relative) [] segments
  match segments.mapM RawText.text? with
  | some names => .ok ⟨root, names⟩
  | none => .error (rawText root segments)

/-- Whether a code point is a surrogate other than those that may stand for a single byte. -/
def lacksByte (c : CodePoint) : Bool := c.isSurrogate && !(0xDC80 ≤ c.toNat && c.toNat < 0xDD00)

/-- The wording for the surrogates that raw text has first. Those that may stand for a single byte
are named only if there are no others. -/
def lackingBytes (s : RawText) : Text :=
  let isNamed := if s.any lacksByte then lacksByte else CodePoint.isSurrogate
  let before := s.takeWhile fun c => !isNamed c
  let run := (s.drop before.length).takeWhile CodePoint.isSurrogate
  let first := ofNat before.length
  match run with
  | [c] => "character '".toList ++ escapePoint apostrophe c ++ "' in position ".toList ++ first
  | _ => "characters in position ".toList ++ first ++ '-' :: ofNat (before.length + run.length - 1)

/-- The sentence that reports raw text without bytes. -/
def noBytesMessage (s : RawText) : Text :=
  "'utf-8' codec can't encode ".toList ++ lackingBytes s ++ ": surrogates not allowed".toList

end Typings.Path
