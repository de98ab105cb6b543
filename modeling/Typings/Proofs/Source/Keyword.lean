import Mathlib.Data.List.Chain
import Typings.Proofs.Source.PropertyLine

/-!
# Keywords and tokens

A keyword is looked for as a run of characters with a blank or an end of the line on each side, and
that finds exactly the words of the line. Where no blank stands next to a comma, the tokens of a
line are its words without the modifiers, so a property loses its keyword and nothing that matters.
-/

namespace Typings.Source

open Text

/-! ## Occurrences -/

/-- Whether a text occurs in a line with a blank or an end of the line on each side. -/
def OccursApart (word line : Text) : Prop :=
  ∃ before after, line = before ++ word ++ after
    ∧ (∀ c ∈ before.getLast?, isBlank c = true) ∧ ∀ c ∈ after.head?, isBlank c = true

theorem startsAtBoundary_iff {t : Text} :
    startsAtBoundary t = true ↔ ∀ c ∈ t.head?, isBlank c = true := by
  cases t <;> simp [startsAtBoundary]

/-- The search finds the occurrences there are; one at the very front needs a boundary before it. -/
theorem hasWordAfter_iff_exists {word : Text} {boundary : Bool} {t : Text} :
    hasWordAfter word boundary t = true ↔ ∃ before after, t = before ++ word ++ after
      ∧ (before = [] → boundary = true) ∧ (∀ c ∈ before.getLast?, isBlank c = true)
      ∧ ∀ c ∈ after.head?, isBlank c = true := by
  induction t generalizing boundary with
  | nil =>
    rw [hasWordAfter, Bool.and_eq_true, List.isEmpty_iff]
    constructor
    · rintro ⟨hboundary, rfl⟩
      exact ⟨[], [], rfl, fun _ => hboundary, by simp, by simp⟩
    · rintro ⟨before, after, heq, hboundary, -, -⟩
      obtain ⟨hfront, -⟩ := List.append_eq_nil_iff.mp heq.symm
      obtain ⟨hbefore, hword⟩ := List.append_eq_nil_iff.mp hfront
      exact ⟨hboundary hbefore, hword⟩
  | cons c r ih =>
    rw [hasWordAfter, Bool.or_eq_true, Bool.and_eq_true, Bool.and_eq_true,
      List.isPrefixOf_iff_prefix, startsAtBoundary_iff, ih]
    constructor
    · rintro (⟨⟨hboundary, s, hs⟩, hafter⟩ | ⟨before, after, rfl, hblank, hlast, hafter⟩)
      · rw [← hs, List.drop_left] at hafter
        exact ⟨[], s, hs.symm, fun _ => hboundary, by simp, hafter⟩
      · refine ⟨c :: before, after, rfl, by simp, ?_, hafter⟩
        rcases eq_or_ne before [] with rfl | hne
        · simpa using hblank rfl
        · rwa [List.getLast?_cons_of_ne_nil hne]
    · rintro ⟨before, after, heq, hboundary, hlast, hafter⟩
      cases before with
      | nil =>
        rw [List.nil_append] at heq
        refine Or.inl ⟨⟨hboundary rfl, after, heq.symm⟩, ?_⟩
        rwa [heq, List.drop_left]
      | cons d before =>
        obtain ⟨rfl, hr⟩ := List.cons.inj heq
        refine Or.inr ⟨before, after, hr, ?_, ?_, hafter⟩
        · rintro rfl
          exact hlast c rfl
        · intro e he
          have hne : before ≠ [] := by
            rintro rfl
            cases he
          exact hlast e (by rwa [List.getLast?_cons_of_ne_nil hne])

theorem hasWord_iff_occursApart {word line : Text} :
    hasWord word line = true ↔ OccursApart word line := by
  rw [hasWord, hasWordAfter_iff_exists]
  simp [OccursApart]

/-! ## Commas -/

/-- Whether two neighbours are a comma and a blank, in either order. -/
def IsLoose (a b : Char) : Prop := a = ',' ∧ isBlank b = true ∨ isBlank a = true ∧ b = ','

instance (a b : Char) : Decidable (IsLoose a b) := inferInstanceAs (Decidable (_ ∨ _))

/-- A text in which no blank stands next to a comma. -/
def IsTight (t : Text) : Prop := t.IsChain fun a b => ¬IsLoose a b

instance (t : Text) : Decidable (IsTight t) :=
  inferInstanceAs (Decidable (t.IsChain fun a b => ¬IsLoose a b))

/-- A gap that is there keeps commas away from the words on its sides. -/
theorem IsTight.around_gap {w b t : Text} (h : IsTight (w ++ b ++ t)) (hb : IsGap b)
    (hne : b ≠ []) : w.getLast? ≠ some ',' ∧ t.head? ≠ some ',' := by
  obtain ⟨hfront, -, hright⟩ := List.isChain_append.mp h
  obtain ⟨-, -, hleft⟩ := List.isChain_append.mp hfront
  constructor
  · intro hlast
    obtain ⟨c, b, rfl⟩ := List.exists_cons_of_ne_nil hne
    exact hleft ',' hlast c rfl (Or.inl ⟨rfl, (isGap_cons.mp hb).1⟩)
  · intro hhead
    have hlast := List.getLast?_eq_some_getLast hne
    refine hright (b.getLast hne) ?_ ',' hhead (Or.inr ⟨hb _ (List.getLast_mem hne), rfl⟩)
    rw [List.getLast?_append_of_ne_nil _ hne, hlast]
    rfl

/-- Where no blank stands next to a comma, commas draw no words together. -/
theorem joinAtCommas_of_isTight {ws : List Text} {t : Text} (h : Spaced ws t) (ht : IsTight t) :
    joinAtCommas ws = ws := by
  induction h with
  | one => rfl
  | @cons w b t ws hw hne hb hb' h ih =>
    obtain ⟨hlast, hhead⟩ := ht.around_gap hb hb'
    obtain ⟨v, vs, s, rfl, -, hv, rfl⟩ := h.exists_cons
    rw [List.head?_append_of_ne_nil _ hv] at hhead
    have hrest : IsTight (v ++ s) := (List.isChain_append.mp ht).2.1
    rw [joinAtCommas_cons (ih hrest), if_neg (not_or.mpr ⟨hlast, hhead⟩)]

theorem tokensOf_of_isTight {line : Text} (h : IsTight line) :
    tokensOf line = (words line).filter fun w => w ∉ modifiers := by
  have hjoin : joinAtCommas (words line) = words line := by
    by_cases hblank : isBlankText line = true
    · rw [words_eq_nil_iff.mpr hblank]
      rfl
    · obtain ⟨b, s, b', -, hs, -, heq⟩ := exists_spaced (by simpa using hblank)
      rw [heq] at h
      have hinner : IsTight s := h.infix ⟨b, b', by rw [List.append_assoc]⟩
      exact joinAtCommas_of_isTight hs hinner
  rw [tokensOf, hjoin]
  exact List.filter_congr fun w _ => by simp

/-- No modifier is a token, whatever the commas do. -/
theorem notMem_tokensOf {m : Text} (hm : m ∈ modifiers) (line : Text) : m ∉ tokensOf line := by
  intro hmem
  have hkept := (List.mem_filter.mp hmem).2
  simp [hm] at hkept

/-! ## Words and tokens -/

/-- A search for a text finds where it stands between blanks or ends of the line. If the text has no
blanks and is not empty, whatever else it is made of, that makes it one of the words of the line. If
no blank stands next to a comma, the tokens of a line are its words without the modifiers. The line
of a property has its keyword among the words and never among the tokens, and in such a line nothing
but modifiers is lost with it. -/
theorem keywords_are_words :
    (∀ word line, hasWord word line = true ↔ OccursApart word line)
    ∧ (∀ word line, IsSolid word → word ≠ [] → (hasWord word line = true ↔ word ∈ words line))
    ∧ (∀ line, IsTight line → tokensOf line = (words line).filter fun w => w ∉ modifiers)
    ∧ ∀ raw, (Line.classify raw).kind = .property →
      "public".toList ∈ words (stripComment raw)
      ∧ "public".toList ∉ (Line.classify raw).tokens
      ∧ (IsTight (stripComment raw) →
        (Line.classify raw).tokens = (words (stripComment raw)).filter fun w => w ∉ modifiers) := by
  refine ⟨fun word line => hasWord_iff_occursApart,
    fun word line hsolid hne => hasWord_iff hsolid hne, fun line => tokensOf_of_isTight,
    fun raw hkind => ?_⟩
  obtain ⟨⟨-, hpublic, -⟩, -⟩ := kind_classify_eq_property_iff.mp hkind
  rw [tokens_classify_of_property hkind]
  exact ⟨(hasWord_iff (by decide) (by decide)).mp hpublic, notMem_tokensOf (by decide) _,
    tokensOf_of_isTight⟩

/-- The line of a property with three kinds of blanks, and with marks that patterns are made of. -/
def markedProperty : Text := "\tpublic\u3000virtual\u2028Map<string,int>? [x].*$ //, y".toList

/-- The marks stand for themselves, and what is left are the type and the name. -/
theorem keywords_are_words_marked :
    (hasWord "[x].*$".toList markedProperty = true
      ↔ OccursApart "[x].*$".toList markedProperty)
    ∧ IsSolid "[x].*$".toList ∧ "[x].*$".toList ≠ []
    ∧ (hasWord "[x].*$".toList markedProperty = true ↔ "[x].*$".toList ∈ words markedProperty)
    ∧ IsTight (stripComment markedProperty) ∧ (Line.classify markedProperty).kind = .property
    ∧ (Line.classify markedProperty).tokens = ["Map<string,int>?".toList, "[x].*$".toList]
    ∧ tokensOf (stripComment markedProperty)
      = (words (stripComment markedProperty)).filter fun w => w ∉ modifiers := by
  obtain ⟨hoccurs, hwords, htokens, hproperty⟩ := keywords_are_words
  have hsolid : IsSolid "[x].*$".toList := by decide
  have htight : IsTight (stripComment markedProperty) := by decide +kernel
  have hkind : (Line.classify markedProperty).kind = .property := by decide +kernel
  obtain ⟨-, -, hkept⟩ := hproperty _ hkind
  refine ⟨hoccurs _ _, hsolid, by decide, hwords _ _ hsolid (by decide), htight, hkind, ?_,
    htokens _ htight⟩
  rw [hkept htight]
  decide +kernel

end Typings.Source
