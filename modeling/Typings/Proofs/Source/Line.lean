import Typings.Proofs.Text.Words
import Typings.Source.Line

/-!
# What decides the kind of a line

Keywords are looked for among the words of a line, and tokens are its words once commas have drawn
their neighbours together.
-/

namespace Typings.Source

open Text

/-! ## Comments -/

/-- What may follow the text of a line: nothing, or a line comment. -/
def IsComment (c : Text) : Prop := c = [] ∨ ∃ r, c = '/' :: '/' :: r

/-- A text without slashes is what is left when the comment behind it is gone. -/
theorem stripComment_append {t c : Text} (ht : '/' ∉ t) (hc : IsComment c) :
    stripComment (t ++ c) = t := by
  induction t with
  | nil =>
    rcases hc with rfl | ⟨r, rfl⟩
    · rfl
    · rfl
  | cons d t ih =>
    have hd : d ≠ '/' := fun h => ht (by simp [h])
    have hrest : '/' ∉ t := fun h => ht (List.mem_cons_of_mem _ h)
    rw [List.cons_append, stripComment, ih hrest]
    exact fun r hslash => absurd hslash hd

/-! ## Keywords -/

/-- A word stands at the front of a text and ends at a boundary if it is what comes before the first
blank. -/
theorem prefix_boundary_iff {w : Text} (hw : IsSolid w) (t : Text) :
    (w.isPrefixOf t && startsAtBoundary (t.drop w.length)) = true
      ↔ w = t.takeWhile fun c => !isBlank c := by
  induction w generalizing t with
  | nil =>
    cases t with
    | nil => simp [startsAtBoundary]
    | cons c t => cases hc : isBlank c <;> simp [startsAtBoundary, hc]
  | cons d w ih =>
    obtain ⟨hd, hw⟩ := isSolid_cons.mp hw
    cases t with
    | nil => simp
    | cons c t =>
      by_cases hdc : d = c
      · subst hdc
        simpa [hd] using ih hw t
      · cases hc : isBlank c <;> simp [hdc, hc]

theorem hasWordAfter_iff {w : Text} (hw : IsSolid w) (hne : w ≠ []) (t : Text) :
    (hasWordAfter w true t = true ↔ w ∈ words t)
      ∧ (hasWordAfter w false t = true ↔ w ∈ words (t.dropWhile fun c => !isBlank c)) := by
  induction t with
  | nil => simp [hasWordAfter, words, hne]
  | cons c t ih =>
    obtain ⟨ihtrue, ihfalse⟩ := ih
    cases hc : isBlank c with
    | true =>
      have hprefix : w.isPrefixOf (c :: t) = false := by
        obtain ⟨d, w, rfl⟩ := List.exists_cons_of_ne_nil hne
        have hdc : d ≠ c := by
          rintro rfl
          rw [(isSolid_cons.mp hw).1] at hc
          cases hc
        rw [List.isPrefixOf, beq_false_of_ne hdc, Bool.false_and]
      rw [hasWordAfter, hasWordAfter, hc, hprefix, words_cons_blank hc,
        List.dropWhile_cons_of_neg (by simp [hc]), words_cons_blank hc, Bool.and_false,
        Bool.and_false, Bool.false_and, Bool.false_or]
      exact ⟨ihtrue, ihtrue⟩
    | false =>
      have hfirst := prefix_boundary_iff hw (c :: t)
      rw [List.takeWhile_cons_of_pos (by simp [hc])] at hfirst
      rw [hasWordAfter, hasWordAfter, hc, words_cons_solid hc,
        List.dropWhile_cons_of_pos (by simp [hc]), List.mem_cons, Bool.true_and, Bool.false_and,
        Bool.false_and, Bool.false_or, Bool.or_eq_true, hfirst, ihfalse]
      exact ⟨Iff.rfl, Iff.rfl⟩

/-- A keyword is in a line if it is one of its words. -/
theorem hasWord_iff {w : Text} (hw : IsSolid w) (hne : w ≠ []) {t : Text} :
    hasWord w t = true ↔ w ∈ words t :=
  (hasWordAfter_iff hw hne t).1

/-- A text that starts with something other than a number sign is no directive. -/
theorem isDirective_of_head {lead t : Text} (hlead : IsGap lead) (ht : IsSolid t) (hne : t ≠ [])
    (hhead : t.head? ≠ some '#') (s : Text) : isDirective (lead ++ t ++ s) = false := by
  rw [isDirective, List.append_assoc, trimStart_gap_append hlead, trimStart_of_isSolid ht s hne]
  obtain ⟨c, t, rfl⟩ := List.exists_cons_of_ne_nil hne
  have hc : c ≠ '#' := by simpa using hhead
  simp [hc]

/-! ## Tokens -/

theorem joinAtCommas_cons {w v : Text} {ws vs : List Text} (h : joinAtCommas ws = v :: vs) :
    joinAtCommas (w :: ws)
      = if w.getLast? = some ',' ∨ v.head? = some ',' then (w ++ v) :: vs else w :: v :: vs := by
  rw [joinAtCommas, h]
  simp only [Bool.or_eq_true, decide_eq_true_iff]

/-- The first word stays at the front of what it is drawn into. -/
theorem exists_joinAtCommas_cons (w : Text) (ws : List Text) :
    ∃ s vs, joinAtCommas (w :: ws) = (w ++ s) :: vs := by
  cases h : joinAtCommas ws with
  | nil => exact ⟨[], [], by simp [joinAtCommas, h]⟩
  | cons v vs =>
    rw [joinAtCommas_cons h]
    split
    · exact ⟨v, vs, rfl⟩
    · exact ⟨[], v :: vs, by simp⟩

/-- Words are drawn together on each side of a place that no comma is next to. -/
theorem joinAtCommas_append {xs : List Text} {y : Text} {ys : List Text}
    (hxs : ∀ x ∈ xs.getLast?, x.getLast? ≠ some ',') (hy : y ≠ []) (hy' : y.head? ≠ some ',') :
    joinAtCommas (xs ++ y :: ys) = joinAtCommas xs ++ joinAtCommas (y :: ys) := by
  induction xs with
  | nil => rfl
  | cons x xs ih =>
    cases xs with
    | nil =>
      obtain ⟨s, vs, hjoin⟩ := exists_joinAtCommas_cons y ys
      have hhead : (y ++ s).head? ≠ some ',' := by rwa [List.head?_append_of_ne_nil _ hy]
      have hx : x.getLast? ≠ some ',' := hxs x rfl
      rw [List.cons_append, List.nil_append, joinAtCommas_cons hjoin,
        if_neg (not_or.mpr ⟨hx, hhead⟩), hjoin]
      rfl
    | cons x' xs =>
      obtain ⟨s, vs, hjoin⟩ := exists_joinAtCommas_cons x' xs
      have ih :
          joinAtCommas (x' :: xs ++ y :: ys) = (x' ++ s) :: (vs ++ joinAtCommas (y :: ys)) := by
        rw [ih (by simpa using hxs), hjoin]
        rfl
      rw [List.cons_append, joinAtCommas_cons ih, joinAtCommas_cons hjoin]
      split <;> rfl

/-- A text in front of the first word goes to the front of the first token. -/
theorem joinAtCommas_append_cons (u : Text) {w : Text} (hw : w ≠ []) (ws : List Text) :
    joinAtCommas ((u ++ w) :: ws) = (joinAtCommas (w :: ws)).modifyHead (u ++ ·) := by
  cases h : joinAtCommas ws with
  | nil => simp [joinAtCommas, h]
  | cons v vs =>
    rw [joinAtCommas_cons h, joinAtCommas_cons h, List.getLast?_append_of_ne_nil _ hw]
    split <;> simp

/-- Two words with a comma at the place between them might as well be one. -/
theorem joinAtCommas_drawn {u w : Text} (hw : w ≠ [])
    (h : u.getLast? = some ',' ∨ w.head? = some ',') (ws : List Text) :
    joinAtCommas (u :: w :: ws) = joinAtCommas ((u ++ w) :: ws) := by
  obtain ⟨s, vs, hjoin⟩ := exists_joinAtCommas_cons w ws
  have hcomma : u.getLast? = some ',' ∨ (w ++ s).head? = some ',' := by
    rwa [List.head?_append_of_ne_nil _ hw]
  rw [joinAtCommas_cons hjoin, if_pos hcomma, joinAtCommas_append_cons u hw, hjoin]
  rfl

/-- Words without commas stay as they are. -/
theorem joinAtCommas_of_notMem {ws : List Text} (h : ∀ w ∈ ws, ',' ∉ w) : joinAtCommas ws = ws := by
  induction ws with
  | nil => rfl
  | cons w ws ih =>
    have hw : w.getLast? ≠ some ',' := fun hlast =>
      h w List.mem_cons_self (List.mem_of_getLast? hlast)
    cases ws with
    | nil => rfl
    | cons v ws =>
      have hv : v.head? ≠ some ',' := fun hhead => h v (by simp) (List.mem_of_head? hhead)
      have ih := ih fun v hv => h v (List.mem_cons_of_mem _ hv)
      rw [joinAtCommas_cons ih, if_neg (not_or.mpr ⟨hw, hv⟩)]

/-- What may follow the last word of a line: blanks, with one comma among them or none. -/
inductive IsClosing : Text → Text → Prop
  | gap {b : Text} : IsGap b → IsClosing b []
  | comma {b b' : Text} : IsGap b → IsGap b' → IsClosing (b ++ ',' :: b') [',']

theorem IsClosing.mark_eq {t mark : Text} (h : IsClosing t mark) : mark = [] ∨ mark = [','] := by
  cases h with
  | gap => exact Or.inl rfl
  | comma => exact Or.inr rfl

theorem words_closing {x t mark : Text} (hx : IsSolid x) (hne : x ≠ []) (ht : IsClosing t mark) :
    words (x ++ t) = [x ++ mark] ∨ mark = [','] ∧ words (x ++ t) = [x, mark] := by
  cases ht with
  | gap hb =>
    left
    rw [words_append_gap_end hb, words_of_isSolid hx hne, List.append_nil]
  | @comma b b' hb hb' =>
    have hcomma : IsSolid [','] := by decide
    have hsplit : ∀ s : Text, words (s ++ ',' :: b') = words (s ++ [',']) := by
      intro s
      rw [← words_append_gap_end hb' (s ++ [',']), List.append_assoc]
      rfl
    by_cases hnil : b = []
    · left
      rw [hnil, List.nil_append, hsplit]
      exact words_of_isSolid (isSolid_append.mpr ⟨hx, hcomma⟩) (by simp)
    · right
      rw [← List.append_assoc, hsplit, words_solid_gap hx hne hb hnil,
        words_of_isSolid hcomma (by simp)]
      exact ⟨rfl, rfl⟩

/-- A closing comma goes to the last word. -/
theorem joinAtCommas_closing {x t mark : Text} (hx : IsSolid x) (hne : x ≠ [])
    (ht : IsClosing t mark) : joinAtCommas (words (x ++ t)) = [x ++ mark] := by
  rcases words_closing hx hne ht with h | ⟨rfl, h⟩
  · rw [h]
    rfl
  · have hlast : joinAtCommas [[',']] = [[',']] := rfl
    have hhead : [','].head? = some ',' := rfl
    rw [h, joinAtCommas_cons hlast, if_pos (Or.inr hhead)]

/-- The words in a closed line are its last word and what has a comma. -/
theorem eq_of_mem_words_closing {x t mark w : Text} (hx : IsSolid x) (hne : x ≠ [])
    (ht : IsClosing t mark) (hw : w ∈ words (x ++ t)) : w = x ∨ ',' ∈ w := by
  rcases words_closing hx hne ht with h | ⟨rfl, h⟩
  · obtain rfl : w = x ++ mark := by simpa [h] using hw
    rcases ht.mark_eq with rfl | rfl <;> simp
  · rw [h] at hw
    rcases List.mem_cons.mp hw with rfl | hw
    · exact Or.inl rfl
    · right
      simp [List.mem_singleton.mp hw]

/-- Words with a mark behind the last of them. -/
def markLast (mark : Text) : List Text → List Text
  | [] => []
  | [w] => [w ++ mark]
  | w :: ws => w :: markLast mark ws

theorem markLast_cons_cons (mark w v : Text) (ws : List Text) :
    markLast mark (w :: v :: ws) = w :: markLast mark (v :: ws) := rfl

theorem exists_markLast_cons (mark w : Text) (ws : List Text) :
    ∃ s vs, markLast mark (w :: ws) = (w ++ s) :: vs := by
  cases ws with
  | nil => exact ⟨mark, [], rfl⟩
  | cons v ws => exact ⟨[], markLast mark (v :: ws), by simp [markLast]⟩

theorem mem_markLast {mark v : Text} {ws : List Text} (hv : v ∈ markLast mark ws) :
    ∃ w ∈ ws, v = w ∨ v = w ++ mark := by
  induction ws with
  | nil => cases hv
  | cons w ws ih =>
    cases ws with
    | nil => exact ⟨w, by simp, Or.inr (List.mem_singleton.mp hv)⟩
    | cons u ws =>
      rcases List.mem_cons.mp hv with rfl | hv
      · exact ⟨v, by simp, Or.inl rfl⟩
      · obtain ⟨x, hx, hv⟩ := ih hv
        exact ⟨x, List.mem_cons_of_mem _ hx, hv⟩

section Closed

variable {ws : List Text} {t closing mark : Text}
variable (h : Spaced ws t) (hclosing : IsClosing closing mark)

include h hclosing

/-- A closed line of words without commas has these words, and its comma is part of the last. -/
theorem joinAtCommas_spaced (hcomma : ∀ w ∈ ws, ',' ∉ w) :
    joinAtCommas (words (t ++ closing)) = markLast mark ws := by
  induction h with
  | one hw hne => exact joinAtCommas_closing hw hne hclosing
  | @cons w b t ws hw hne hb hb' h ih =>
    have ih := ih fun v hv => hcomma v (List.mem_cons_of_mem _ hv)
    obtain ⟨v, vs, s, rfl, hv, hne', -⟩ := h.exists_cons
    obtain ⟨s, us, hlast⟩ := exists_markLast_cons mark v vs
    -- neither side of the gap is a comma
    have hw' : w.getLast? ≠ some ',' := fun hget =>
      hcomma w List.mem_cons_self (List.mem_of_getLast? hget)
    have hv' : (v ++ s).head? ≠ some ',' := by
      rw [List.head?_append_of_ne_nil _ hne']
      exact fun hget => hcomma v (by simp) (List.mem_of_head? hget)
    rw [hlast] at ih
    rw [List.append_assoc, words_solid_gap hw hne hb hb', joinAtCommas_cons ih,
      if_neg (not_or.mpr ⟨hw', hv'⟩), ← hlast]
    rfl

/-- The words of a closed line are its words and what has a comma. -/
theorem mem_or_of_mem_words_spaced {w : Text} (hw : w ∈ words (t ++ closing)) :
    w ∈ ws ∨ ',' ∈ w := by
  induction h with
  | one hx hne =>
    rcases eq_of_mem_words_closing hx hne hclosing hw with rfl | hw
    · simp
    · exact Or.inr hw
  | @cons x b t ws hx hne hb hb' h ih =>
    rw [List.append_assoc, words_solid_gap hx hne hb hb', List.mem_cons] at hw
    rcases hw with rfl | hw
    · simp
    · rcases ih hw with hw | hw
      · exact Or.inl (List.mem_cons_of_mem _ hw)
      · exact Or.inr hw

end Closed

/-- A gap in front of what closes a line belongs to it. -/
theorem IsClosing.gap_append {b t mark : Text} (hb : IsGap b) (h : IsClosing t mark) :
    IsClosing (b ++ t) mark := by
  cases h with
  | gap hb' => exact .gap (isGap_append.mpr ⟨hb, hb'⟩)
  | comma hb' hb'' =>
    rw [← List.append_assoc]
    exact .comma (isGap_append.mpr ⟨hb, hb'⟩) hb''

/-- In a line without commas but a closing one, that one goes to the last word. -/
theorem joinAtCommas_closed {t closing mark : Text} (ht : isBlankText t = false) (hcomma : ',' ∉ t)
    (hclosing : IsClosing closing mark) :
    joinAtCommas (words (t ++ closing)) = markLast mark (words t) := by
  obtain ⟨b, s, b', hb, hs, hb', heq⟩ := exists_spaced ht
  have hwords : ∀ w ∈ words t, ',' ∉ w := fun w hw hmem =>
    hcomma ((mem_iff_exists_words (by decide)).mpr ⟨w, hw, hmem⟩)
  have hline : words (t ++ closing) = words (s ++ (b' ++ closing)) := by
    rw [heq, List.append_assoc, List.append_assoc, words_gap_append hb]
  rw [hline, joinAtCommas_spaced hs (hclosing.gap_append hb') hwords]

/-! ## Kinds -/

/-- Whether a text declares something and opens its body. -/
def OpensInline (t : Text) : Prop :=
  (hasWord "enum".toList t = true ∨ hasWord "class".toList t = true) ∧ '\x7b' ∈ t

section Kinds

variable {raw : Text}

/-- The lines whose kind depends on where they stand. -/
theorem fixedKind?_eq_none_iff : fixedKind? raw = none ↔
    isBlankText (stripComment raw) = false ∧ isDirective (stripComment raw) = false
      ∧ ¬OpensInline (stripComment raw) := by
  rw [fixedKind?, OpensInline, ← Bool.or_eq_true, ← List.contains_iff_mem, ← Bool.and_eq_true]
  by_cases hblank : isBlankText (stripComment raw) = true
  · simp [hblank]
  · by_cases hdirective : isDirective (stripComment raw) = true
    · simp [hblank, hdirective]
    · rw [if_neg hblank, if_neg hdirective]
      split <;> simp_all

theorem fixedKind?_eq_malformed_iff : fixedKind? raw = some .malformedDeclaration ↔
    isBlankText (stripComment raw) = false ∧ isDirective (stripComment raw) = false
      ∧ OpensInline (stripComment raw) := by
  rw [fixedKind?, OpensInline, ← Bool.or_eq_true, ← List.contains_iff_mem, ← Bool.and_eq_true]
  by_cases hblank : isBlankText (stripComment raw) = true
  · simp only [hblank, if_true]
    split <;> simp
  · by_cases hdirective : isDirective (stripComment raw) = true
    · simp [hblank, hdirective]
    · rw [if_neg hblank, if_neg hdirective]
      split <;> simp_all

/-- No kind that is read further is fixed. -/
theorem mem_of_fixedKind? {kind : LineKind} (h : fixedKind? raw = some kind) :
    kind ∈ [LineKind.blank, .comment, .directive, .malformedDeclaration] := by
  rw [fixedKind?] at h
  split at h
  · split at h <;> simp_all
  · split at h
    · simp_all
    · split at h <;> simp_all

/-- A word with nothing but blanks around it is no blank text. -/
theorem isBlankText_of_hasWord {w t : Text} (hw : IsSolid w) (hne : w ≠ [])
    (h : hasWord w t = true) : isBlankText t = false := by
  rw [← Bool.not_eq_true, ← words_eq_nil_iff]
  intro hnil
  rw [hasWord_iff hw hne, hnil] at h
  cases h

/-- What a text has to be free of to be a member of an enumeration. -/
theorem isEnumerator_iff {t : Text} : isEnumerator t = true ↔ isBlankText t = false
    ∧ hasWord "enum".toList t = false ∧ hasWord "namespace".toList t = false
    ∧ hasWord "using".toList t = false ∧ isConstructor t = false
    ∧ ∀ c ∈ t, c ∉ ['\x7b', '\x7d', '[', ']'] := by
  simp only [isEnumerator, Bool.and_eq_true, Bool.not_eq_true', List.any_eq_false, Bool.or_eq_true,
    beq_iff_eq, List.mem_cons, List.not_mem_nil, or_false, and_assoc, or_assoc]

/-- A line is taken for a member of an enumeration if its text is one and no directive. -/
theorem classifyMember_of_isEnumerator (hdirective : isDirective (stripComment raw) = false)
    (h : isEnumerator (stripComment raw) = true) :
    Line.classifyMember raw =
      { kind := .enumerator
        text := stripComment raw
        tokens := tokensOf (stripComment raw) } := by
  have hfixed : fixedKind? raw = none := by
    obtain ⟨hblank, -, -, -, -, hbraces⟩ := isEnumerator_iff.mp h
    rw [fixedKind?_eq_none_iff]
    exact ⟨hblank, hdirective, fun hopens => hbraces _ hopens.2 (by simp)⟩
  rw [Line.classifyMember, hfixed]
  dsimp only
  rw [if_pos h]

theorem kind_classifyMember_ne
    (h : isDirective (stripComment raw) = true ∨ isEnumerator (stripComment raw) = false) :
    (Line.classifyMember raw).kind ≠ .enumerator := by
  rw [Line.classifyMember]
  cases hfixed : fixedKind? raw with
  | some kind =>
    have hkind := mem_of_fixedKind? hfixed
    rintro rfl
    simp at hkind
  | none =>
    rw [fixedKind?_eq_none_iff] at hfixed
    have hother := h.resolve_left (by simp [hfixed.2.1])
    simp [hother]

/-- The kind of a line that is none of the fixed kinds and has the keyword of enumerations. -/
theorem classify_of_enum (hdirective : isDirective (stripComment raw) = false)
    (henum : hasWord "enum".toList (stripComment raw) = true) (hbrace : '\x7b' ∉ stripComment raw) :
    Line.classify raw =
      { kind := .enumHeader
        text := stripComment raw
        tokens := tokensOf (stripComment raw) } := by
  have hfixed : fixedKind? raw = none := by
    rw [fixedKind?_eq_none_iff]
    exact ⟨isBlankText_of_hasWord (by decide) (by decide) henum, hdirective,
      fun hopens => hbrace hopens.2⟩
  rw [Line.classify, hfixed]
  dsimp only
  rw [if_pos henum]

theorem kind_classify_eq_enumHeader_iff : (Line.classify raw).kind = .enumHeader ↔
    isDirective (stripComment raw) = false ∧ hasWord "enum".toList (stripComment raw) = true
      ∧ '\x7b' ∉ stripComment raw := by
  refine ⟨fun h => ?_, fun ⟨hdirective, henum, hbrace⟩ => ?_⟩
  · rw [Line.classify] at h
    cases hfixed : fixedKind? raw with
    | some kind =>
      rw [hfixed] at h
      dsimp only at h
      have hkind := mem_of_fixedKind? hfixed
      rw [h] at hkind
      simp at hkind
    | none =>
      rw [hfixed] at h
      dsimp only at h
      obtain ⟨-, hdirective, hopens⟩ := fixedKind?_eq_none_iff.mp hfixed
      split at h
      · next henum => exact ⟨hdirective, henum, fun hbrace => hopens ⟨Or.inl henum, hbrace⟩⟩
      · split at h
        · cases h
        · split at h <;> cases h
  · rw [classify_of_enum hdirective henum hbrace]

/-- A line is malformed if it is neither blank nor a directive, and opens what it declares. -/
theorem kind_classify_eq_malformed_iff : (Line.classify raw).kind = .malformedDeclaration ↔
    isBlankText (stripComment raw) = false ∧ isDirective (stripComment raw) = false
      ∧ OpensInline (stripComment raw) := by
  rw [← fixedKind?_eq_malformed_iff, Line.classify]
  cases hfixed : fixedKind? raw with
  | some kind => simp
  | none =>
    dsimp only
    split
    · simp
    · split
      · simp
      · split <;> simp

end Kinds

end Typings.Source
