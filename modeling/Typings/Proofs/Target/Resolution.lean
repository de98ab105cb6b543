import Typings.Proofs.Target.Registration

/-!
# What names lead to after a registration

A registration that replaces nothing and succeeds adds its language and points only such aliases to
it that led nowhere before, or to it already. So a name leads where it did, with one exception:
the language itself may have the name of an alias. Languages are looked up first, so the alias is
hidden from then on, and its name leads to the new language.
-/

namespace Typings.TargetRegistry

open Text

variable {key language name : Text} {aliasName : Text} {aliases : List Text}
variable {offered : Option Target} {target found : Target} {r r' : TargetRegistry}

/-! ## Look-ups -/

/-- A name leads to the language of its key, or else to the language that its alias leads to. -/
theorem find_eq_ok_iff : r.find name = .ok found ↔
    r.languages.lookup (lower name) = some found
    ∨ (r.languages.lookup (lower name) = none ∧ ∃ primary,
      r.aliases.lookup (lower name) = some primary ∧ r.languages.lookup primary = some found) := by
  rw [find]
  cases hlanguage : r.languages.lookup (lower name) with
  | some target => simp
  | none =>
    cases hprimary : r.aliases.lookup (lower name) with
    | none => simp
    | some primary => cases htarget : r.languages.lookup primary <;> simp [htarget]

/-! ## Registrations that succeed -/

/-- An alias clashes with nothing exactly if it is the key itself, or no language and no alias of
another key. -/
theorem clash?_eq_none_iff : clash? key r aliasName = none ↔ lower aliasName = key
    ∨ (r.languages.lookup (lower aliasName) = none
      ∧ ∀ other, r.aliases.lookup (lower aliasName) = some other → other = key) := by
  rw [clash?]
  by_cases hkey : lower aliasName = key
  · simp [hkey]
  · cases hlanguage : r.languages.lookup (lower aliasName) with
    | some target => simp [hkey]
    | none => cases hother : r.aliases.lookup (lower aliasName) <;> simp [hkey]

/-- What does not clash once another alias of the key is pointed to it did not clash before. -/
theorem clash?_of_pointTo {other : Text} (hother : clash? key r other = none)
    (h : clash? key (pointTo key r other) aliasName = none) : clash? key r aliasName = none := by
  by_cases hsame : lower aliasName = lower other
  · rw [clash?_eq_none_iff, hsame]
    exact clash?_eq_none_iff.mp hother
  · have hlookup : (pointTo key r other).aliases.lookup (lower aliasName)
        = r.aliases.lookup (lower aliasName) := by
      have hfold := lookup_aliases_foldl_pointTo key [other] r (lower aliasName)
      simpa [hsame] using hfold
    rw [clash?_eq_none_iff, languages_pointTo, hlookup] at h
    exact clash?_eq_none_iff.mpr h

/-- Aliases that are all added were pointed to the key one after the other, and none of them clashed
with what was there before the first. -/
theorem addAliases_ok (h : addAliases key false aliases r = (.ok (), r')) :
    r' = aliases.foldl (pointTo key) r
    ∧ ∀ aliasName ∈ aliases, clash? key r aliasName = none := by
  induction aliases generalizing r with
  | nil =>
    rw [addAliases] at h
    cases h
    exact ⟨rfl, by simp⟩
  | cons first rest ih =>
    rw [addAliases_cons, if_neg Bool.false_ne_true] at h
    split at h
    · cases h
    · next hfirst =>
      obtain ⟨hr', hrest⟩ := ih h
      refine ⟨hr', fun aliasName hmem => ?_⟩
      rcases List.mem_cons.mp hmem with rfl | hmem
      · exact hfirst
      · exact clash?_of_pointTo hfirst (hrest aliasName hmem)

/-- A registration that replaces nothing and succeeds was for a language that was there, and changed
nothing, or it added the language and aliases that led nowhere else. -/
theorem register_ok (h : r.register language offered aliases false = (.ok (), r')) :
    ((r.languages.lookup (lower language)).isSome ∧ r' = r)
    ∨ ∃ target, offered = some target ∧ r.languages.lookup (lower language) = none
      ∧ (∀ k, r'.languages.lookup k
        = if k = lower language then some target else r.languages.lookup k)
      ∧ (∀ k, r'.aliases.lookup k = if k ∈ aliases.map lower ∧ k ≠ lower language
        then some (lower language) else r.aliases.lookup k)
      ∧ ∀ k ∈ aliases.map lower, k ≠ lower language → r.languages.lookup k = none
        ∧ ∀ other, r.aliases.lookup k = some other → other = lower language := by
  rcases register_cases r language offered aliases false with ⟨-, hrefused⟩ |
    ⟨-, hthere, hleft⟩ | ⟨target, hoffered, hnew, hset⟩
  · rw [hrefused] at h
    cases h
  · rw [hleft] at h
    cases h
    exact Or.inl ⟨hthere, rfl⟩
  · rw [hset] at h
    obtain ⟨hr', hclash⟩ := addAliases_ok h
    refine Or.inr ⟨target, hoffered, hnew rfl, ?_, ?_, ?_⟩
    · intro k
      rw [hr', languages_foldl_pointTo, lookup_set]
    · intro k
      rw [hr', lookup_aliases_foldl_pointTo]
    · intro k hk hne
      obtain ⟨aliasName, hmem, rfl⟩ := List.mem_map.mp hk
      have hfree := (clash?_eq_none_iff.mp (hclash aliasName hmem)).resolve_left hne
      rwa [lookup_set, if_neg hne] at hfree

/-! ## Names that a language takes over -/

/-- Whether registering a language takes a name over: the name is an alias, and the language, which
is not registered yet, has the same key. -/
def TakesOver (r : TargetRegistry) (language name : Text) : Prop :=
  lower name = lower language ∧ r.languages.lookup (lower name) = none
  ∧ (r.aliases.lookup (lower name)).isSome

/-- After a registration that replaces nothing and succeeds, a name leads where it did unless the
language takes it over. -/
theorem find_of_not_takesOver (h : r.register language offered aliases false = (.ok (), r'))
    (hfound : r.find name = .ok found) (hkept : ¬r.TakesOver language name) :
    r'.find name = .ok found := by
  rcases register_ok h with ⟨-, rfl⟩ | ⟨target, rfl, hnew, hlanguages, haliases, hfree⟩
  · exact hfound
  rw [find_eq_ok_iff] at hfound ⊢
  rcases hfound with hlanguage | ⟨hnone, primary, hprimary, hlanguage⟩
  · have hne : lower name ≠ lower language := by
      intro heq
      rw [heq, hnew] at hlanguage
      cases hlanguage
    exact Or.inl (by rw [hlanguages, if_neg hne, hlanguage])
  · have hne : lower name ≠ lower language := fun heq =>
      hkept ⟨heq, hnone, by rw [hprimary]; rfl⟩
    -- the alias leads to a language that is registered already, so it is none of the new ones
    have hold : primary ≠ lower language := by
      rintro rfl
      rw [hnew] at hlanguage
      cases hlanguage
    have hother : ¬(lower name ∈ aliases.map lower ∧ lower name ≠ lower language) :=
      fun ⟨hmem, _⟩ => hold ((hfree _ hmem hne).2 primary hprimary)
    refine Or.inr ⟨by rw [hlanguages, if_neg hne, hnone], primary, ?_, ?_⟩
    · rw [haliases, if_neg hother, hprimary]
    · rw [hlanguages, if_neg hold, hlanguage]

/-- A name that the language takes over leads to the language. -/
theorem find_of_takesOver (h : r.register language offered aliases false = (.ok (), r'))
    (htaken : r.TakesOver language name) :
    ∃ target, offered = some target ∧ r'.find name = .ok target := by
  obtain ⟨hkey, hnone, -⟩ := htaken
  rcases register_ok h with ⟨hthere, -⟩ | ⟨target, hoffered, -, hlanguages, -, -⟩
  · rw [← hkey, hnone] at hthere
    cases hthere
  · exact ⟨target, hoffered, find_eq_ok_iff.mpr (Or.inl (by rw [hlanguages, if_pos hkey]))⟩

/-- After a registration that replaces nothing and succeeds, a name leads where it did exactly if
the language does not take it over, or is written by what the name led to anyway. A name that is
taken over leads to the new language. -/
theorem register_redirects_iff (h : r.register language offered aliases false = (.ok (), r'))
    (hfound : r.find name = .ok found) :
    (r'.find name ≠ .ok found ↔ r.TakesOver language name ∧ offered ≠ some found)
    ∧ (r.TakesOver language name →
      ∃ target, offered = some target ∧ r'.find name = .ok target) := by
  refine ⟨?_, find_of_takesOver h⟩
  by_cases htaken : r.TakesOver language name
  · obtain ⟨target, rfl, htarget⟩ := find_of_takesOver h htaken
    simp [htaken, htarget]
  · simp [htaken, find_of_not_takesOver h hfound htaken]

/-- A target that writes plain text. -/
def plainText : Target :=
  { language := "plain".toList, extension := ".txt".toList, engine := {} }

/-- A second language with an alias of its own takes the alias of the first one over, and only
that. -/
theorem register_redirects_iff_taken : ∃ r',
    oneLanguage.register "X".toList (some plainText) ["y".toList] false = (.ok (), r')
    ∧ oneLanguage.find "x".toList = .ok .typescript
    ∧ r'.find "x".toList = .ok plainText
    ∧ r'.find "ALPHA".toList = .ok .typescript := by
  obtain ⟨r', hdone⟩ : ∃ r', oneLanguage.register "X".toList (some plainText) ["y".toList] false
      = (.ok (), r') :=
    ⟨_, Prod.ext (by decide) rfl⟩
  have hx : oneLanguage.find "x".toList = .ok .typescript := rfl
  have halpha : oneLanguage.find "ALPHA".toList = .ok .typescript := rfl
  have hspared : ¬oneLanguage.TakesOver "X".toList "ALPHA".toList := fun h =>
    absurd h.1 (by decide)
  obtain ⟨target, htarget, hfind⟩ :=
    (register_redirects_iff hdone hx).2 ⟨by decide, rfl, by decide⟩
  cases htarget
  refine ⟨r', hdone, hx, hfind, ?_⟩
  by_contra hmoved
  exact hspared ((register_redirects_iff hdone halpha).1.mp hmoved).1

/-- A language that is registered under the name of an alias, without replacing anything, takes the
alias over. -/
theorem alias_redirected :
    (oneLanguage.find "x".toList).toOption.map Target.language = some "typescript".toList
    ∧ (oneLanguage.register "X".toList (some plainText) [] false).1 = .ok ()
    ∧ ((oneLanguage.register "X".toList (some plainText) [] false).2.find "x".toList).toOption.map
      Target.language = some "plain".toList := by
  decide

end Typings.TargetRegistry
