import Typings.Discovery.Scan
import Typings.Proofs.Text.Encoding
import Typings.Proofs.Text.Lines

/-!
# Loading lines

The lines of a source file do not depend on how they were put into bytes. Bytes are refused only if
they are not valid UTF-8 and one of them has no meaning in code page 1252 either.
-/

namespace Typings.Discovery

open FileTree Text

/-- How lines are put into the bytes of a file. -/
structure Dressing where
  lineEnd : LineEnd
  /-- Whether the last line is ended too. -/
  closed : Bool
  /-- Whether a byte order mark is written. -/
  marked : Bool
  deriving DecidableEq

namespace Dressing

/-- Lines with what ends them. -/
def text (d : Dressing) (ls : List Text) : Text :=
  if d.closed then ls.flatMap (· ++ d.lineEnd.text) else joinWith d.lineEnd.text ls

/-- The bytes of a file with the given lines. -/
def bytes (d : Dressing) (ls : List Text) : Bytes :=
  (if d.marked then byteOrderMark else []) ++ encode (d.text ls)

/-- Whether lines can be put into bytes so that they can be told from them: an empty last line has
to be ended, and what looks like a mark needs one before it. -/
structure Suits (d : Dressing) (ls : List Text) : Prop where
  isLine : ∀ l ∈ ls, IsLine l
  closed : d.closed = false → ls.getLast? ≠ some []
  marked : d.marked = false → ∀ l, ls.head? = some l → l.head? ≠ some markChar

variable {d : Dressing} {ls : List Text}

theorem lines_text (h : d.Suits ls) : lines (d.text ls) = ls := by
  rw [text]
  split
  · exact lines_flatMap _ h.isLine
  · next hopen => exact lines_joinWith _ h.isLine (h.closed (by simpa using hopen))

/-- Behind the first line nothing stands, or what ends it. -/
theorem exists_text_cons (l : Text) (ls : List Text) :
    ∃ rest, d.text (l :: ls) = l ++ rest ∧ (rest = [] ∨ d.lineEnd.text <+: rest) := by
  rw [text]
  split
  · exact ⟨_, by rw [List.flatMap_cons, List.append_assoc], .inr (List.prefix_append _ _)⟩
  · rcases eq_or_ne ls [] with rfl | hmore
    · exact ⟨[], by simp [joinWith], .inl rfl⟩
    · exact ⟨_, by rw [joinWith_cons _ _ hmore, List.append_assoc], .inr (List.prefix_append _ _)⟩

/-- The text seems to have a mark only if the first line does. -/
theorem head?_text (h : d.Suits ls) (hmarked : d.marked = false) :
    (d.text ls).head? ≠ some markChar := by
  rcases ls with _ | ⟨l, ls⟩
  · rw [text]
    split <;> simp [joinWith]
  obtain ⟨rest, htext, hrest⟩ := exists_text_cons (d := d) l ls
  rw [htext]
  rcases l with _ | ⟨c, l⟩
  · rcases hrest with rfl | ⟨more, rfl⟩
    · simp
    · cases d.lineEnd <;> simp [LineEnd.text, markChar]
  · exact h.marked hmarked (c :: l) rfl

theorem decode?_bytes (h : d.Suits ls) : decode? (d.bytes ls) = some (d.text ls) := by
  have hread : utf8? (withoutMark (d.bytes ls)) = some (d.text ls) := by
    rw [utf8?_eq_some_iff, bytes]
    split
    · exact withoutMark_append _
    · next hplain => exact withoutMark_encode (head?_text h (by simpa using hplain))
  rw [decode?, hread]
  rfl

end Dressing

variable {files : FileTree} {path : Path}

/-- A file that can be read is loaded by what its bytes spell. -/
theorem loadLines_of_read {bytes : Bytes} (h : files.read path = .ok bytes) :
    loadLines files path = linesOf path bytes := by
  have hstatus : files.status path = .ok (.file bytes) := by
    rw [FileTree.read] at h
    split at h
    · cases h
    · cases h
    · next hstatus =>
      cases h
      exact hstatus
  rw [loadLines, lookError?, leadsSomewhere, hstatus]
  simp only [h]
  rfl

/-- Loading gives the lines of a file in whatever way they were put into bytes. Bytes are refused
exactly if they are not valid UTF-8 and hold a byte without meaning; what is loaded otherwise has no
line boundary within a line. -/
theorem loadLines_dressed :
    (∀ (d : Dressing) (ls : List Text), d.Suits ls → files.read path = .ok (d.bytes ls) →
      loadLines files path = .ok ls)
    ∧ ∀ bytes : Bytes, files.read path = .ok bytes →
      ((loadLines files path = .error (.undecodable path)
          ↔ ¬bytes.toByteArray.IsValidUTF8 ∧ ∃ b ∈ bytes, b ∈ meaningless)
        ∧ (loadLines files path = .error (.undecodable path)
          ∨ ∃ ls, loadLines files path = .ok ls ∧ ∀ l ∈ ls, IsLine l)) := by
  refine ⟨fun d ls hsuits hread => ?_, fun bytes hread => ?_⟩
  · rw [loadLines_of_read hread, linesOf, Dressing.decode?_bytes hsuits]
    exact congrArg _ (Dressing.lines_text hsuits)
  · rw [loadLines_of_read hread, linesOf, ← decode?_eq_none_iff]
    cases decode? bytes with
    | none => exact ⟨by simp, .inl rfl⟩
    | some content => exact ⟨by simp, .inr ⟨_, rfl, fun l hl => isLine_of_mem_lines hl⟩⟩

/-- Lines that need the mark before them, with an empty one between them. -/
def markedLines : List Text := [[markChar, 'a'], [], "\u00e9".toList]

/-- The lines with a mark before them and nothing behind the last one. -/
def openDressing : Dressing := ⟨.crlf, false, true⟩

/-- A file with `markedLines`, and one whose second byte has no meaning. -/
def loadable : FileTree :=
  { entries := [(["a.cs".toList], .file (openDressing.bytes markedLines)),
      (["b.cs".toList], .file [0x41, 0x81])] }

/-- The first file of `loadable` has its lines, and the second cannot be loaded. -/
theorem loadLines_dressed_marked : openDressing.Suits markedLines
    ∧ loadLines loadable (Path.ofText "/a.cs".toList) = .ok markedLines
    ∧ loadLines loadable (Path.ofText "/b.cs".toList)
      = .error (.undecodable (Path.ofText "/b.cs".toList))
    ∧ ¬[0x41, 0x81].toByteArray.IsValidUTF8 := by
  have hsuits : openDressing.Suits markedLines := by
    refine ⟨fun l hl c hc => ?_, fun _ => by decide +kernel, by simp [openDressing]⟩
    have hplain : markedLines.all (fun l => l.all fun c => !isLineBreak c) = true := by decide
    simpa using List.all_eq_true.mp (List.all_eq_true.mp hplain l hl) c hc
  have hrefused : loadLines loadable (Path.ofText "/b.cs".toList)
      = .error (.undecodable (Path.ofText "/b.cs".toList)) := by decide +kernel
  obtain ⟨hinvalid, -⟩ :=
    (loadLines_dressed.2 [0x41, 0x81] (by decide +kernel)).1.mp hrefused
  exact ⟨hsuits, loadLines_dressed.1 _ _ hsuits (by decide +kernel), hrefused, hinvalid⟩

end Typings.Discovery
