import Typings.Proofs.Source.Line

/-!
# Layout of lines

What a line declares is decided by the words in front of its comment. The blanks around them and the
comment itself may be changed at will.
-/

namespace Typings.Source

open Text

/-! ## Comments and gaps -/

section Strip

variable {s t b : Text}

/-- A character that starts no comment stays. -/
theorem stripComment_cons {c : Char} (h : c ≠ '/' ∨ t.head? ≠ some '/') :
    stripComment (c :: t) = c :: stripComment t := by
  refine stripComment.eq_3 c t ?_
  rintro r rfl rfl
  rcases h with h | h
  · exact h rfl
  · exact h rfl

/-- Two slashes start a comment, whatever is behind them. -/
theorem stripComment_opened (hs : s.head? = some '/') (t : Text) :
    stripComment ('/' :: s ++ t) = [] := by
  obtain ⟨s, rfl⟩ := List.head?_eq_some_iff.mp hs
  rfl

/-- A character other than a slash keeps what is behind it out of the comments in front of it. -/
theorem stripComment_append_cons {c : Char} (hc : c ≠ '/') (s t : Text) :
    stripComment (s ++ c :: t)
      = if stripComment s = s then s ++ c :: stripComment t else stripComment s := by
  induction s with
  | nil => exact stripComment_cons (Or.inl hc)
  | cons d s ih =>
    by_cases hslash : d = '/' ∧ s.head? = some '/'
    · obtain ⟨rfl, hs⟩ := hslash
      have hnil := stripComment_opened hs []
      rw [List.append_nil] at hnil
      rw [stripComment_opened hs, hnil, if_neg (List.cons_ne_nil _ _).symm]
    · have hopen : d ≠ '/' ∨ s.head? ≠ some '/' := not_and_or.mp hslash
      have hopen' : d ≠ '/' ∨ (s ++ c :: t).head? ≠ some '/' := by
        refine hopen.imp_right fun hs => ?_
        cases s with
        | nil => simpa using hc
        | cons e s => exact hs
      rw [List.cons_append, stripComment_cons hopen', ih, stripComment_cons hopen]
      by_cases hs : stripComment s = s
      · simp [hs]
      · simp [hs]

/-- A text without slashes stands in front of every comment. -/
theorem stripComment_append_of_notMem (hb : '/' ∉ b) (t : Text) :
    stripComment (b ++ t) = b ++ stripComment t := by
  induction b with
  | nil => rfl
  | cons c b ih =>
    have hc : c ≠ '/' := fun h => hb (by simp [h])
    rw [List.cons_append, stripComment_cons (Or.inl hc), ih fun h => hb (List.mem_cons_of_mem _ h)]
    rfl

/-- Two slashes behind a text that does not end in one start a comment, unless they are part of
one. -/
theorem stripComment_append_comment (hs : s.getLast? ≠ some '/') (note : Text) :
    stripComment (s ++ '/' :: '/' :: note) = stripComment s := by
  induction s with
  | nil => rfl
  | cons d s ih =>
    by_cases hslash : d = '/' ∧ s.head? = some '/'
    · obtain ⟨rfl, hopened⟩ := hslash
      have hnil := stripComment_opened hopened []
      rw [List.append_nil] at hnil
      rw [stripComment_opened hopened, hnil]
    · have hopen : d ≠ '/' ∨ s.head? ≠ some '/' := not_and_or.mp hslash
      rw [stripComment_cons hopen]
      cases s with
      | nil =>
        have hd : d ≠ '/' := by simpa using hs
        exact stripComment_cons (Or.inl hd)
      | cons e s =>
        have hlast : (e :: s).getLast? ≠ some '/' := by simpa using hs
        have hopen' : d ≠ '/' ∨ (e :: s ++ '/' :: '/' :: note).head? ≠ some '/' := hopen
        rw [List.cons_append, stripComment_cons hopen', ih hlast]

theorem slash_notMem_of_isGap (hb : IsGap b) : '/' ∉ b := fun hmem =>
  absurd (hb '/' hmem) (by decide)

/-- A gap that is there cuts the words of a line, unless it is part of a comment. -/
theorem words_stripComment_gap (hb : IsGap b) (hne : b ≠ []) (s t : Text) :
    words (stripComment (s ++ b ++ t))
      = if stripComment s = s then words s ++ words (stripComment t)
        else words (stripComment s) := by
  obtain ⟨c, b, rfl⟩ := List.exists_cons_of_ne_nil hne
  obtain ⟨hc, hb'⟩ := isGap_cons.mp hb
  have hslash : c ≠ '/' := by
    rintro rfl
    exact absurd hc (by decide)
  rw [List.append_assoc, List.cons_append, stripComment_append_cons hslash,
    stripComment_append_of_notMem (slash_notMem_of_isGap hb')]
  split
  · rw [words_append_blank hc, words_gap_append hb']
  · rfl

end Strip

/-! ## Edits -/

/-- An edit of the layout of one line: a comment behind it, another gap in the place of one, and
other blanks at its start or at its end. -/
inductive LineEdit : Text → Text → Prop
  | comment {raw : Text} (note : Text) : raw.getLast? ≠ some '/' →
      LineEdit raw (raw ++ '/' :: '/' :: note)
  | gap {b b' : Text} (s t : Text) : IsGap b → b ≠ [] → IsGap b' → b' ≠ [] →
      LineEdit (s ++ b ++ t) (s ++ b' ++ t)
  | start {b b' : Text} (t : Text) : IsGap b → IsGap b' → LineEdit (b ++ t) (b' ++ t)
  | finish {b b' : Text} (s : Text) : IsGap b → IsGap b' → LineEdit (s ++ b) (s ++ b')

/-- A line that declares nothing: it is blank, holds only a comment, or is a directive. -/
inductive IsNoise : Text → Prop
  | blank {b : Text} : IsGap b → IsNoise b
  | comment {b : Text} (note : Text) : IsGap b → IsNoise (b ++ '/' :: '/' :: note)
  | directive {b : Text} {c : Char} (r : Text) : IsGap b → isWordChar c = true →
      IsNoise (b ++ '#' :: c :: r)

/-- Blanks at the end of a line do not change its words. -/
theorem words_stripComment_append_gap {b : Text} (hb : IsGap b) (s : Text) :
    words (stripComment (s ++ b)) = words (stripComment s) := by
  by_cases hne : b = []
  · rw [hne, List.append_nil]
  · have hcut := words_stripComment_gap hb hne s []
    rw [List.append_nil] at hcut
    rw [hcut]
    split
    · next hs => rw [hs, stripComment, words, List.append_nil]
    · rfl

/-- An edit of the layout keeps the words in front of the comment. -/
theorem LineEdit.words_eq {raw raw' : Text} (h : LineEdit raw raw') :
    words (stripComment raw') = words (stripComment raw) := by
  cases h with
  | comment note hlast => rw [stripComment_append_comment hlast]
  | gap s t hb hne hb' hne' => rw [words_stripComment_gap hb hne, words_stripComment_gap hb' hne']
  | start t hb hb' =>
    rw [stripComment_append_of_notMem (slash_notMem_of_isGap hb),
      stripComment_append_of_notMem (slash_notMem_of_isGap hb'), words_gap_append hb,
      words_gap_append hb']
  | finish s hb hb' =>
    rw [words_stripComment_append_gap hb, words_stripComment_append_gap hb']

/-- A line that declares nothing is blank without its comment, or a directive. -/
theorem IsNoise.blank_or_directive {raw : Text} (h : IsNoise raw) :
    isBlankText (stripComment raw) = true ∨ isDirective (stripComment raw) = true := by
  have hblank : ∀ {b c : Text}, IsGap b → IsComment c →
      isBlankText (stripComment (b ++ c)) = true := by
    intro b c hb hc
    rw [stripComment_append (slash_notMem_of_isGap hb) hc]
    exact List.all_eq_true.mpr hb
  cases h with
  | blank hb =>
    left
    simpa using hblank hb (Or.inl rfl)
  | comment note hb => exact Or.inl (hblank hb (Or.inr ⟨note, rfl⟩))
  | @directive b c r hb hc =>
    right
    have hslash : c ≠ '/' := by
      rintro rfl
      exact absurd hc (by decide)
    rw [stripComment_append_of_notMem (slash_notMem_of_isGap hb),
      stripComment_cons (Or.inl (by decide)), stripComment_cons (Or.inl hslash), isDirective,
      trimStart_gap_append hb, trimStart, List.dropWhile_cons_of_neg (by decide)]
    exact hc

/-! ## What the words decide -/

/-- A directive is told by its first word. -/
theorem isDirective_iff {t : Text} : isDirective t = true
    ↔ ∃ c r, (words t).head? = some ('#' :: c :: r) ∧ isWordChar c = true := by
  have hstart : words (trimStart t) = words t := by
    have hlead : IsGap (t.takeWhile isBlank) := fun c hc => List.mem_takeWhile_imp hc
    rw [trimStart, ← words_gap_append hlead, List.takeWhile_append_dropWhile]
  rw [isDirective, ← hstart]
  have hfirst := List.head?_dropWhile_not isBlank t
  cases hrest : trimStart t with
  | nil => simp [words]
  | cons d r =>
    rw [← trimStart, hrest] at hfirst
    have hd : isBlank d = false := by simpa using hfirst
    rw [words_cons_solid hd, List.head?_cons]
    cases r with
    | nil => simp
    | cons c r =>
      by_cases hc : isBlank c = true
      · -- the word ends before the blank, which is no part of a name
        have hword := isWordChar_of_isBlank hc
        rw [List.takeWhile_cons_of_neg (by simp [hc])]
        by_cases hsign : d = '#'
        · subst hsign
          simp [hword]
        · simp [hsign]
      · rw [List.takeWhile_cons_of_pos (by simpa using hc)]
        by_cases hsign : d = '#'
        · subst hsign
          simp
        · simp [hsign]

/-- The kind of a line, comments being blank lines too. -/
def LineKind.withoutComment : LineKind → LineKind
  | comment => blank
  | kind => kind

/-- The kinds of lines that declare nothing. -/
def silentKinds : List LineKind := [.blank, .comment, .directive]

/-- Lines of one kind, but for comments, are of the very same kind, or neither declares anything. -/
theorem LineKind.eq_or_silent {kind kind' : LineKind}
    (h : kind.withoutComment = kind'.withoutComment) :
    kind = kind' ∨ kind ∈ silentKinds ∧ kind' ∈ silentKinds := by
  cases kind <;> cases kind' <;> first
    | exact Or.inl rfl
    | exact Or.inr (by decide)
    | cases h

section SameWords

variable {s t : Text} (h : words s = words t)

include h

theorem isBlankText_of_words : isBlankText s = isBlankText t := by
  rw [Bool.eq_iff_iff, ← words_eq_nil_iff, ← words_eq_nil_iff, h]

theorem isDirective_of_words : isDirective s = isDirective t := by
  rw [Bool.eq_iff_iff, isDirective_iff, isDirective_iff, h]

theorem hasWord_of_words {w : Text} (hw : IsSolid w) (hne : w ≠ []) :
    hasWord w s = hasWord w t := by
  rw [Bool.eq_iff_iff, hasWord_iff hw hne, hasWord_iff hw hne, h]

theorem contains_of_words {c : Char} (hc : isBlank c = false) : s.contains c = t.contains c := by
  rw [Bool.eq_iff_iff, List.contains_iff_mem, List.contains_iff_mem, mem_iff_exists_words hc,
    mem_iff_exists_words hc, h]

theorem isConstructor_of_words : isConstructor s = isConstructor t := by
  rw [isConstructor, isConstructor, hasWord_of_words h (by decide) (by decide),
    contains_of_words h (by decide), contains_of_words h (by decide)]

theorem isEnumerator_of_words : isEnumerator s = isEnumerator t := by
  have hbraces :
      (∀ c ∈ s, c ∉ ['\x7b', '\x7d', '[', ']']) ↔ ∀ c ∈ t, c ∉ ['\x7b', '\x7d', '[', ']'] := by
    have hsolid : IsSolid ['\x7b', '\x7d', '[', ']'] := by decide
    have hmem : ∀ c ∈ ['\x7b', '\x7d', '[', ']'], (c ∈ s ↔ c ∈ t) := fun c hc => by
      rw [mem_iff_exists_words (hsolid c hc), mem_iff_exists_words (hsolid c hc), h]
    exact ⟨fun hs c hc hbrace => hs c ((hmem c hbrace).mpr hc) hbrace,
      fun ht c hc hbrace => ht c ((hmem c hbrace).mp hc) hbrace⟩
  rw [Bool.eq_iff_iff, isEnumerator_iff, isEnumerator_iff, isBlankText_of_words h,
    hasWord_of_words h (by decide) (by decide), hasWord_of_words h (by decide) (by decide),
    hasWord_of_words h (by decide) (by decide), isConstructor_of_words h, hbraces]

theorem tokensOf_of_words : tokensOf s = tokensOf t := by
  rw [tokensOf, tokensOf, h]

end SameWords

section SameLine

variable {raw raw' : Text} (h : words (stripComment raw) = words (stripComment raw'))

include h

theorem fixedKind?_of_words :
    (fixedKind? raw).map LineKind.withoutComment
      = (fixedKind? raw').map LineKind.withoutComment := by
  have hblank : ∀ (p : Prop) [Decidable p],
      (if p then LineKind.blank else .comment).withoutComment = .blank := fun p _ => by
    split <;> rfl
  rw [fixedKind?, fixedKind?, isBlankText_of_words h, isDirective_of_words h,
    hasWord_of_words h (by decide) (by decide), hasWord_of_words h (by decide) (by decide),
    contains_of_words h (by decide)]
  by_cases htext : isBlankText (stripComment raw') = true
  · simp only [htext, if_true, Option.map_some, hblank]
  · simp only [htext, Bool.false_eq_true, if_false]

/-- Either both lines are of a fixed kind, and of the same one but for comments, or neither is. -/
theorem fixedKind?_cases :
    (∃ kind kind', fixedKind? raw = some kind ∧ fixedKind? raw' = some kind'
        ∧ kind.withoutComment = kind'.withoutComment)
      ∨ fixedKind? raw = none ∧ fixedKind? raw' = none := by
  have hfixed := fixedKind?_of_words h
  cases hkind : fixedKind? raw with
  | some kind =>
    rw [hkind] at hfixed
    obtain ⟨kind', hkind', heq⟩ := Option.map_eq_some_iff.mp hfixed.symm
    exact Or.inl ⟨kind, kind', rfl, hkind', heq.symm⟩
  | none =>
    rw [hkind] at hfixed
    exact Or.inr ⟨rfl, Option.map_eq_none_iff.mp hfixed.symm⟩

/-- Lines with the same words in front of their comments are of one kind, and have the same
tokens. -/
theorem classify_of_words :
    (Line.classify raw).kind.withoutComment = (Line.classify raw').kind.withoutComment
      ∧ (Line.classify raw).tokens = (Line.classify raw').tokens := by
  rw [Line.classify, Line.classify]
  rcases fixedKind?_cases h with ⟨kind, kind', hkind, hkind', heq⟩ | ⟨hnone, hnone'⟩
  · rw [hkind, hkind']
    exact ⟨heq, rfl⟩
  · rw [hnone, hnone']
    dsimp only
    rw [hasWord_of_words h (by decide) (by decide), hasWord_of_words h (by decide) (by decide),
      hasWord_of_words h (by decide) (by decide), contains_of_words h (by decide),
      isConstructor_of_words h, tokensOf_of_words h]
    split
    · exact ⟨rfl, rfl⟩
    · split
      · exact ⟨rfl, rfl⟩
      · split <;> exact ⟨rfl, rfl⟩

theorem classifyMember_of_words :
    (Line.classifyMember raw).kind.withoutComment = (Line.classifyMember raw').kind.withoutComment
      ∧ (Line.classifyMember raw).tokens = (Line.classifyMember raw').tokens := by
  rw [Line.classifyMember, Line.classifyMember]
  rcases fixedKind?_cases h with ⟨kind, kind', hkind, hkind', heq⟩ | ⟨hnone, hnone'⟩
  · rw [hkind, hkind']
    exact ⟨heq, rfl⟩
  · rw [hnone, hnone']
    dsimp only
    rw [isEnumerator_of_words h, tokensOf_of_words h]
    split <;> exact ⟨rfl, rfl⟩

end SameLine

/-- A line that declares nothing is of a kind that says so. -/
theorem kind_classify_of_noise {raw : Text} (h : IsNoise raw) :
    (Line.classify raw).kind ∈ silentKinds := by
  have hfixed : ∃ kind ∈ silentKinds, fixedKind? raw = some kind := by
    rw [fixedKind?]
    by_cases hblank : isBlankText (stripComment raw) = true
    · rw [if_pos hblank]
      exact ⟨_, by split <;> decide, rfl⟩
    · have hdirective := h.blank_or_directive.resolve_left hblank
      rw [if_neg hblank, if_pos hdirective]
      exact ⟨_, by decide, rfl⟩
  obtain ⟨kind, hkind, hsome⟩ := hfixed
  rw [Line.classify, hsome]
  exact hkind

end Typings.Source
