import Typings.Proofs.Text.Pieces
import Typings.Text.Lines

/-!
# Lines and what ends them

No line has a line boundary in it, and a text without one, with a boundary behind it, is a line in
front of the lines of what follows.
-/

namespace Typings.Text

/-- Whether a text has no line boundary in it. -/
def IsLine (l : Text) : Prop := ∀ c ∈ l, isLineBreak c = false

theorem isLine_nil : IsLine [] := by simp [IsLine]

theorem isLine_cons {c : Char} {l : Text} : IsLine (c :: l) ↔ isLineBreak c = false ∧ IsLine l :=
  List.forall_mem_cons

theorem IsLine.head?_ne {l : Text} (h : IsLine l) : l.head? ≠ some '\n' := by
  rintro hhead
  exact absurd (h _ (List.mem_of_head? hhead)) (by decide)

/-- A text is cut only where its lines end. -/
theorem isLine_of_mem_lines {t l : Text} (h : l ∈ lines t) : IsLine l := by
  fun_induction lines t generalizing l with
  | case1 => simp at h
  | case2 t ih =>
    rcases List.mem_cons.mp h with rfl | h
    · exact isLine_nil
    · exact ih h
  | case3 c t _ _ ih =>
    rcases List.mem_cons.mp h with rfl | h
    · exact isLine_nil
    · exact ih h
  | case4 c t _ hc hnone ih =>
    rw [List.mem_singleton.mp h]
    exact isLine_cons.mpr ⟨by simpa using hc, isLine_nil⟩
  | case5 c t _ hc first more hlines ih =>
    rw [hlines] at ih
    rcases List.mem_cons.mp h with rfl | h
    · exact isLine_cons.mpr ⟨by simpa using hc, ih List.mem_cons_self⟩
    · exact ih (List.mem_cons_of_mem _ h)

/-- A character that ends no line is put in front of the first line. -/
theorem lines_cons {c : Char} (h : isLineBreak c = false) {t l : Text} {ls : List Text}
    (hlines : lines t = l :: ls) : lines (c :: t) = (c :: l) :: ls := by
  rw [lines.eq_3, if_neg (by simp [h])]
  · simp only [hlines]
  · rintro r rfl -
    exact absurd h (by decide)

/-- Text without line boundaries is put in front of the first line. -/
theorem lines_append {l : Text} (h : IsLine l) {t first : Text} {more : List Text}
    (hlines : lines t = first :: more) : lines (l ++ t) = (l ++ first) :: more := by
  induction l with
  | nil => exact hlines
  | cons c l ih => exact lines_cons (isLine_cons.mp h).1 (ih (isLine_cons.mp h).2)

/-- Text without line boundaries is a single line, if there is any. -/
theorem lines_of_isLine {l : Text} (h : IsLine l) (hne : l ≠ []) : lines l = [l] := by
  obtain ⟨init, c, rfl⟩ := (List.eq_nil_or_concat l).resolve_left hne
  rw [List.concat_eq_append] at h ⊢
  have hc : isLineBreak c = false := h c (by simp)
  refine lines_append (fun b hb => h b (List.mem_append_left _ hb)) ?_
  rw [lines.eq_3, if_neg (by simp [hc])]
  · rfl
  · rintro r - hr
    cases hr

/-- A single character that ends a line. -/
theorem lines_break {c : Char} (hc : isLineBreak c = true) {t : Text}
    (h : c = '\r' → t.head? ≠ some '\n') : lines (c :: t) = [] :: lines t := by
  rw [lines.eq_3, if_pos hc]
  rintro r rfl rfl
  exact h rfl rfl

/-- How the lines of a text are ended. -/
inductive LineEnd where
  | lf
  | crlf
  | cr
  deriving DecidableEq

/-- What stands behind a line. -/
def LineEnd.text : LineEnd → Text
  | lf => ['\n']
  | crlf => ['\r', '\n']
  | cr => ['\r']

/-- A line in front of the lines of what follows. A line feed that follows would belong to a
carriage return. -/
theorem lines_append_end (e : LineEnd) {l t : Text} (hl : IsLine l)
    (h : e = .cr → t.head? ≠ some '\n') : lines (l ++ e.text ++ t) = l :: lines t := by
  have hempty : lines (e.text ++ t) = [] :: lines t := by
    cases e with
    | lf => exact lines_break (by decide) fun hcr => absurd hcr (by decide)
    | crlf => exact lines.eq_2 t
    | cr => exact lines_break (by decide) fun _ => h rfl
  rw [List.append_assoc, lines_append hl hempty, List.append_nil]

/-- Lines with their ends, in front of the lines of what follows. -/
theorem lines_flatMap_append (e : LineEnd) {ls : List Text} (hls : ∀ l ∈ ls, IsLine l) {t : Text}
    (h : e = .cr → t.head? ≠ some '\n') :
    lines (ls.flatMap (· ++ e.text) ++ t) = ls ++ lines t := by
  induction ls with
  | nil => rfl
  | cons l ls ih =>
    rw [List.flatMap_cons, List.append_assoc, lines_append_end e (hls l List.mem_cons_self),
      ih fun r hr => hls r (List.mem_cons_of_mem _ hr), List.cons_append]
    rintro rfl
    -- what follows starts with a line or with the end of an empty one
    rcases ls with _ | ⟨_ | ⟨c, r⟩, ls⟩
    · exact h rfl
    · simp [LineEnd.text]
    · have hline := hls (c :: r) (by simp)
      exact hline.head?_ne

/-- Lines are told apart again after they were put together, if the last one is ended or is not
empty. -/
theorem lines_flatMap (e : LineEnd) {ls : List Text} (hls : ∀ l ∈ ls, IsLine l) :
    lines (ls.flatMap (· ++ e.text)) = ls := by
  have hlines := lines_flatMap_append e hls (t := []) (by simp)
  rwa [List.append_nil, lines, List.append_nil] at hlines

theorem lines_joinWith (e : LineEnd) {ls : List Text} (hls : ∀ l ∈ ls, IsLine l)
    (hlast : ls.getLast? ≠ some []) : lines (joinWith e.text ls) = ls := by
  rcases List.eq_nil_or_concat ls with rfl | ⟨init, last, rfl⟩
  · rfl
  rw [List.concat_eq_append] at hls hlast ⊢
  have hne : last ≠ [] := by simpa using hlast
  have hline := hls last (by simp)
  have hjoined : joinWith e.text (init ++ [last]) = init.flatMap (· ++ e.text) ++ last := by
    rcases eq_or_ne init [] with rfl | hinit
    · simp [joinWith]
    · rw [joinWith_concat _ hinit, flatMap_append_eq_joinWith _ hinit]
  rw [hjoined, lines_flatMap_append e (fun l hl => hls l (List.mem_append_left _ hl)),
    lines_of_isLine hline hne]
  exact fun _ => hline.head?_ne

/-- Without a carriage return no line end is changed. -/
theorem unifyBreaks_of_notMem {t : Text} (h : '\r' ∉ t) : unifyBreaks t = t := by
  fun_induction unifyBreaks t with
  | case1 => rfl
  | case2 r ih => simp at h
  | case3 c r _ ih =>
    rw [List.mem_cons, not_or] at h
    rw [if_neg (Ne.symm h.1), ih h.2]

end Typings.Text
