import Typings.Proofs.Source.DeclaredType

/-!
# Lines of properties

What makes a line the declaration of a property, and its tokens when it is written in the common
form: modifiers, type, name, and perhaps more. Blanks may stand around the comma of a dictionary, so
a type is not always one word, but it is always one token.
-/

namespace Typings.Source

open Text

/-! ## Declarations -/

/-- Whether a text declares something of a type that is written in the given way: modifiers, the
type, and, behind a gap, the rest of the declaration, which does not start with a comma. -/
inductive DeclaresAs (declared rest : Text) : Text → Prop
  | intro {lead s gap gap' : Text} {mods : List Text} : IsGap lead → Spaced mods s →
      mods ⊆ modifiers → IsGap gap → gap ≠ [] → IsGap gap' → gap' ≠ [] →
      (trimStart rest).head? ≠ some ',' →
      DeclaresAs declared rest (lead ++ (s ++ gap ++ (declared ++ gap' ++ rest)))

/-- Behind the modifiers, the type is the first token of the words of a declaration. -/
theorem tokensOf_of_words_eq {declared token rest t : Text} {mods : List Text}
    (hdrawn : IsDrawn declared token) (hfree : token ∉ modifiers) (hmods : mods ⊆ modifiers)
    (hrest : (trimStart rest).head? ≠ some ',')
    (hwords : words t = mods ++ (words declared ++ words rest)) :
    tokensOf t = token :: tokensOf rest := by
  have hmodifiers : ∀ w ∈ modifiers, ',' ∉ w := by decide
  have hcomma : ∀ w ∈ mods, ',' ∉ w := fun w hw => hmodifiers w (hmods hw)
  have hlast : ∀ w ∈ mods.getLast?, w.getLast? ≠ some ',' := fun w hw hget =>
    hcomma w (List.mem_of_getLast? hw) (List.mem_of_getLast? hget)
  have hfirst : ∀ w ∈ (words rest).head?, w ≠ [] ∧ w.head? ≠ some ',' := by
    intro w hw
    refine ⟨(isSolid_of_mem_words (List.mem_of_head? hw)).2, ?_⟩
    rwa [head?_eq_of_mem_head?_words hw]
  -- the modifiers go, the type stays
  have hnone : (mods.filter fun w => !modifiers.contains w) = [] := by
    rw [List.filter_eq_nil_iff]
    intro w hw
    simpa using hmods hw
  rw [tokensOf, hwords, hdrawn.joinAtCommas_eq hlast hfirst, joinAtCommas_of_notMem hcomma,
    List.filter_append, hnone, List.nil_append, List.filter_cons_of_pos (by simpa using hfree)]
  rfl

/-- The type is the first token of a declaration. -/
theorem DeclaresAs.tokensOf_eq {declared rest t token : Text} (h : DeclaresAs declared rest t)
    (hdrawn : IsDrawn declared token) (hfree : token ∉ modifiers) :
    tokensOf t = token :: tokensOf rest := by
  obtain @⟨lead, s, gap, gap', mods, hlead, hs, hmods, hgap, hne, hgap', hne', hrest⟩ := h
  refine tokensOf_of_words_eq hdrawn hfree hmods hrest ?_
  rw [words_gap_append hlead, words_append_gap hgap hne, words_append_gap hgap' hne', hs.words_eq]

/-! ## Properties -/

/-- A property as a source declares it. Its name is no modifier, and neither a comma nor a semicolon
is part of it. -/
structure SourceProperty where
  declared : DeclaredType
  name : Text
  ne_nil : name ≠ []
  solid : IsSolid name
  unmarked : ',' ∉ name ∧ ';' ∉ name
  free : name ∉ modifiers

/-- What may follow the name of a property: nothing, a semicolon, or a blank and any text that does
not start with a comma. -/
inductive IsTail : Text → Prop
  | nil : IsTail []
  | semicolon : IsTail [';']
  | blank {c : Char} {t : Text} :
      isBlank c = true → (trimStart t).head? ≠ some ',' → IsTail (c :: t)

/-- Whether a text declares a property in the common form: `public` and perhaps more modifiers, the
type, the name, and what may follow a name. -/
def SourceProperty.Written (p : SourceProperty) (t : Text) : Prop :=
  ∃ lead mods s gap gap' tail, IsGap lead ∧ Spaced ("public".toList :: mods) s ∧ mods ⊆ modifiers
    ∧ IsGap gap ∧ gap ≠ [] ∧ IsGap gap' ∧ gap' ≠ [] ∧ IsTail tail
    ∧ t = lead ++ (s ++ gap ++ (p.declared.text ++ gap' ++ (p.name ++ tail)))

namespace SourceProperty

variable (p : SourceProperty)

/-- The name comes first in what is left behind the type, perhaps with its semicolon. -/
theorem words_name {tail : Text} (h : IsTail tail) : ∃ semicolon ws,
    (semicolon = [] ∨ semicolon = [';']) ∧ words (p.name ++ tail) = (p.name ++ semicolon) :: ws
      ∧ ∀ w ∈ ws.head?, w.head? ≠ some ',' := by
  cases h with
  | nil =>
    refine ⟨[], [], Or.inl rfl, ?_, by simp⟩
    rw [List.append_nil, words_of_isSolid p.solid p.ne_nil]
  | semicolon =>
    have hsolid : IsSolid (p.name ++ [';']) := isSolid_append.mpr ⟨p.solid, by decide⟩
    exact ⟨[';'], [], Or.inr rfl, words_of_isSolid hsolid (by simp), by simp⟩
  | @blank c t hc ht =>
    refine ⟨[], words t, Or.inl rfl, ?_, fun w hw => ?_⟩
    · rw [words_append_blank hc, words_of_isSolid p.solid p.ne_nil, List.append_nil]
      rfl
    · rw [head?_eq_of_mem_head?_words hw]
      exact ht

/-- The name, perhaps with its semicolon, is the first token behind the type. -/
theorem exists_tokensOf_name {tail : Text} (h : IsTail tail) : ∃ semicolon rest,
    (semicolon = [] ∨ semicolon = [';'])
      ∧ tokensOf (p.name ++ tail) = (p.name ++ semicolon) :: rest := by
  obtain ⟨semicolon, ws, hsemicolon, hwords, hws⟩ := p.words_name h
  have hmodifiers : ∀ w ∈ modifiers, ';' ∉ w := by decide
  have hcomma : ',' ∉ p.name ++ semicolon := by
    rw [List.mem_append, not_or]
    exact ⟨p.unmarked.1, by rcases hsemicolon with rfl | rfl <;> decide⟩
  have hfree : p.name ++ semicolon ∉ modifiers := by
    rcases hsemicolon with rfl | rfl
    · rw [List.append_nil]
      exact p.free
    · exact fun hmem => hmodifiers _ hmem (by simp)
  have hjoin : joinAtCommas ((p.name ++ semicolon) :: ws)
      = (p.name ++ semicolon) :: joinAtCommas ws := by
    cases ws with
    | nil => rfl
    | cons w ws =>
      have hw : w ≠ [] := by
        refine (isSolid_of_mem_words (t := p.name ++ tail) ?_).2
        rw [hwords]
        simp
      refine @joinAtCommas_append [p.name ++ semicolon] w ws ?_ hw (hws w rfl)
      simpa using fun hget => hcomma (List.mem_of_getLast? hget)
  rw [tokensOf, hwords, hjoin, List.filter_cons_of_pos (by simpa using hfree)]
  exact ⟨semicolon, _, hsemicolon, rfl⟩

/-- The tokens of a line in the common form are the type, the name, and whatever else there is. -/
theorem Written.exists_tokens {p : SourceProperty} {t : Text} (h : p.Written t) :
    ∃ semicolon rest, (semicolon = [] ∨ semicolon = [';'])
      ∧ tokensOf t = p.declared.token :: (p.name ++ semicolon) :: rest := by
  obtain ⟨lead, mods, s, gap, gap', tail, hlead, hs, hmods, hgap, hne, hgap', hne', htail, rfl⟩ := h
  obtain ⟨semicolon, rest, hsemicolon, hname⟩ := p.exists_tokensOf_name htail
  have hpublic : "public".toList :: mods ⊆ modifiers :=
    List.cons_subset.mpr ⟨by decide, hmods⟩
  have hfirst : (trimStart (p.name ++ tail)).head? ≠ some ',' := by
    rw [trimStart_of_isSolid p.solid tail p.ne_nil, List.head?_append_of_ne_nil _ p.ne_nil]
    exact fun hget => p.unmarked.1 (List.mem_of_head? hget)
  have hdeclares : DeclaresAs p.declared.text (p.name ++ tail)
      (lead ++ (s ++ gap ++ (p.declared.text ++ gap' ++ (p.name ++ tail)))) :=
    .intro hlead hs hpublic hgap hne hgap' hne' hfirst
  refine ⟨semicolon, rest, hsemicolon, ?_⟩
  rw [hdeclares.tokensOf_eq p.declared.isDrawn_text p.declared.notMem_modifiers, hname]

end SourceProperty

/-! ## Kinds -/

/-- Whether a line counts as the declaration of a property: it has the keyword, and it is neither a
directive, nor a class, nor a constructor. -/
def DeclaresProperty (raw : Text) : Prop :=
  isDirective (stripComment raw) = false ∧ hasWord "public".toList (stripComment raw) = true
    ∧ hasWord "class".toList (stripComment raw) = false ∧ isConstructor (stripComment raw) = false

instance (raw : Text) : Decidable (DeclaresProperty raw) :=
  inferInstanceAs (Decidable (_ ∧ _ ∧ _ ∧ _))

section Kinds

variable {raw : Text}

theorem classify_of_declaresProperty (h : DeclaresProperty raw)
    (henum : hasWord "enum".toList (stripComment raw) = false) : Line.classify raw
      = { kind := .property, text := stripComment raw, tokens := tokensOf (stripComment raw) } := by
  obtain ⟨hdirective, hpublic, hclass, hconstructor⟩ := h
  have hfixed : fixedKind? raw = none := by
    rw [fixedKind?_eq_none_iff]
    refine ⟨isBlankText_of_hasWord (by decide) (by decide) hpublic, hdirective, fun hopens => ?_⟩
    rcases hopens.1 with hword | hword
    · rw [henum] at hword
      cases hword
    · rw [hclass] at hword
      cases hword
  rw [Line.classify, hfixed]
  dsimp only
  rw [henum, hclass, hpublic, hconstructor]
  rfl

/-- A line that is taken for a property is read with all of its tokens. -/
theorem tokens_classify_of_property (h : (Line.classify raw).kind = .property) :
    (Line.classify raw).tokens = tokensOf (stripComment raw) := by
  rw [Line.classify] at h ⊢
  cases hfixed : fixedKind? raw with
  | some kind =>
    rw [hfixed] at h
    have hmem := mem_of_fixedKind? hfixed
    obtain rfl : kind = .property := h
    simp at hmem
  | none =>
    rw [hfixed] at h
    dsimp only at h ⊢
    split at h
    · cases h
    · split at h
      · cases h
      · next henum hclass =>
        split at h
        · next hproperty => rw [if_neg henum, if_neg hclass, if_pos hproperty]
        · cases h

theorem kind_classify_ne_property (h : ¬DeclaresProperty raw) :
    (Line.classify raw).kind ≠ .property := by
  intro hkind
  rw [Line.classify] at hkind
  cases hfixed : fixedKind? raw with
  | some kind =>
    rw [hfixed] at hkind
    dsimp only at hkind
    have hmem := mem_of_fixedKind? hfixed
    rw [hkind] at hmem
    simp at hmem
  | none =>
    rw [hfixed] at hkind
    dsimp only at hkind
    obtain ⟨-, hdirective, -⟩ := fixedKind?_eq_none_iff.mp hfixed
    split at hkind
    · cases hkind
    · split at hkind
      · cases hkind
      · split at hkind
        · next hproperty =>
          simp only [Bool.and_eq_true, Bool.not_eq_true'] at hproperty
          exact h ⟨hdirective, hproperty.1.1, hproperty.1.2, hproperty.2⟩
        · cases hkind

theorem kind_classify_eq_property_iff : (Line.classify raw).kind = .property
    ↔ DeclaresProperty raw ∧ hasWord "enum".toList (stripComment raw) = false := by
  refine ⟨fun hkind => ?_, fun ⟨hdeclares, henum⟩ => by
    rw [classify_of_declaresProperty hdeclares henum]⟩
  have hdeclares : DeclaresProperty raw := by
    by_contra hnot
    exact kind_classify_ne_property hnot hkind
  refine ⟨hdeclares, ?_⟩
  by_contra henum
  rw [Bool.not_eq_false] at henum
  -- with the keyword, the line is a header or opens its body
  have hheader := mt kind_classify_eq_enumHeader_iff.mpr (by rw [hkind]; decide)
  have hopens := mt kind_classify_eq_malformed_iff.mpr (by rw [hkind]; decide)
  have hbrace : '\x7b' ∈ stripComment raw := by
    by_contra hno
    exact hheader ⟨hdeclares.1, henum, hno⟩
  exact hopens ⟨isBlankText_of_hasWord (by decide) (by decide) henum, hdeclares.1, Or.inl henum,
    hbrace⟩

end Kinds

end Typings.Source
