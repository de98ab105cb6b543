import Mathlib.Data.List.Induction
import Typings.Proofs.Target.Registration
import Typings.Proofs.Text.Casing

/-!
# Aliases lead to languages

A registration sets its language before it points the first alias to it, and nothing ever takes a
language away. So however the registrations so far have ended, every alias leads to a language, and
looking a name up finds a target or says that the name is unknown.
-/

namespace Typings.TargetRegistry

open Text

variable {name : Text} {r : TargetRegistry}

/-! ## Registrations one after the other -/

/-- What is asked of a registry when a language is to be registered. -/
structure Registration where
  language : Text
  offered : Option Target
  aliases : List Text
  replace : Bool

/-- The registry after a registration, whether it has succeeded or failed. -/
def attempt (r : TargetRegistry) (g : Registration) : TargetRegistry :=
  (r.register g.language g.offered g.aliases g.replace).2

/-- A new registry after some registrations, those that failed included. -/
def attempts (registrations : List Registration) : TargetRegistry := registrations.foldl attempt {}

theorem attempts_concat (registrations : List Registration) (g : Registration) :
    attempts (registrations ++ [g]) = (attempts registrations).attempt g := by
  rw [attempts, List.foldl_concat, attempts]

example : attempts [⟨"typescript".toList, some .typescript, ["ts".toList], false⟩] = builtIn := rfl

/-! ## What a registration leaves -/

/-- However adding aliases ends, those in front were pointed to the key, one after the other. -/
theorem exists_prefix_addAliases (key : Text) (replace : Bool) (aliases : List Text)
    (r : TargetRegistry) : ∃ before, before <+: aliases
      ∧ (addAliases key replace aliases r).2 = before.foldl (pointTo key) r := by
  induction aliases generalizing r with
  | nil => exact ⟨[], List.prefix_rfl, rfl⟩
  | cons aliasName rest ih =>
    rw [addAliases_cons]
    split
    · exact ⟨[], List.nil_prefix, rfl⟩
    · obtain ⟨before, hbefore, hpointed⟩ := ih (pointTo key r aliasName)
      exact ⟨aliasName :: before, (List.prefix_cons_inj aliasName).mpr hbefore, hpointed⟩

/-- However a registration ends, it has changed nothing, since nothing was offered or the language
was there, or it has set the language and pointed aliases of it, and no others, to it. -/
theorem attempt_cases (r : TargetRegistry) (g : Registration) :
    (r.attempt g = r ∧ (g.offered = none ∨ (r.languages.lookup (lower g.language)).isSome))
    ∨ ∃ target pointed, g.offered = some target ∧ pointed ⊆ g.aliases
      ∧ (∀ k, (r.attempt g).languages.lookup k
        = if k = lower g.language then some target else r.languages.lookup k)
      ∧ ∀ k, (r.attempt g).aliases.lookup k
        = if k ∈ pointed.map lower ∧ k ≠ lower g.language then some (lower g.language)
          else r.aliases.lookup k := by
  rw [attempt]
  rcases register_cases r g.language g.offered g.aliases g.replace with ⟨hnone, hrefused⟩ |
    ⟨-, hthere, hleft⟩ | ⟨target, hoffered, -, hset⟩
  · exact Or.inl ⟨by rw [hrefused], Or.inl hnone⟩
  · exact Or.inl ⟨by rw [hleft], Or.inr hthere⟩
  · obtain ⟨before, hbefore, hpointed⟩ := exists_prefix_addAliases (lower g.language) g.replace
      g.aliases { r with languages := set (lower g.language) target r.languages }
    rw [hset, hpointed]
    refine Or.inr ⟨target, before, hoffered, hbefore.subset, fun k => ?_, fun k => ?_⟩
    · rw [languages_foldl_pointTo, lookup_set]
    · rw [lookup_aliases_foldl_pointTo]

/-! ## Where languages and aliases come from -/

/-- Where what is in a registry comes from. Its languages are those that a target was offered for,
and each alias was given for the language that it leads to. -/
structure StemsFrom (registrations : List Registration) (r : TargetRegistry) : Prop where
  language_iff : ∀ k, (r.languages.lookup k).isSome
    ↔ ∃ g ∈ registrations, g.offered.isSome ∧ lower g.language = k
  of_alias : ∀ k primary, r.aliases.lookup k = some primary →
    ∃ g ∈ registrations, g.offered.isSome ∧ lower g.language = primary ∧ k ∈ g.aliases.map lower

namespace StemsFrom

variable {registrations : List Registration}

/-- One more registration, however it ends, adds its language if a target is offered, and aliases
of no other language. -/
theorem concat (h : StemsFrom registrations r) (g : Registration) :
    StemsFrom (registrations ++ [g]) (r.attempt g) := by
  have hoffers : ∀ k, (∃ g' ∈ registrations ++ [g], g'.offered.isSome ∧ lower g'.language = k)
      ↔ (r.languages.lookup k).isSome ∨ (g.offered.isSome ∧ lower g.language = k) := by
    intro k
    rw [h.language_iff k]
    simp only [List.mem_append, List.mem_singleton, or_and_right, exists_or, exists_eq_left]
  have hgiven : ∀ k primary, r.aliases.lookup k = some primary → ∃ g' ∈ registrations ++ [g],
      g'.offered.isSome ∧ lower g'.language = primary ∧ k ∈ g'.aliases.map lower := by
    intro k primary hk
    obtain ⟨g', hg', hprimary⟩ := h.of_alias k primary hk
    exact ⟨g', List.mem_append_left _ hg', hprimary⟩
  rcases attempt_cases r g with ⟨hsame, hkept⟩ |
    ⟨target, pointed, hoffered, hpointed, hlanguages, haliases⟩
  · rw [hsame]
    refine ⟨fun k => ?_, hgiven⟩
    rw [hoffers]
    -- a target that is offered is only left out if its language is there
    refine ⟨Or.inl, ?_⟩
    rintro (hthere | ⟨hsome, rfl⟩)
    · exact hthere
    · exact hkept.resolve_left (Option.isSome_iff_ne_none.mp hsome)
  · have hsome : g.offered.isSome := by rw [hoffered]; rfl
    refine ⟨fun k => ?_, fun k primary hk => ?_⟩
    · rw [hoffers, hlanguages]
      by_cases hnew : k = lower g.language
      · simp [hnew, hsome]
      · simp [hnew, Ne.symm hnew]
    · rw [haliases] at hk
      split at hk
      · next hnew =>
        cases hk
        exact ⟨g, by simp, hsome, rfl, List.map_subset lower hpointed hnew.1⟩
      · exact hgiven k primary hk

theorem lower_language (h : StemsFrom registrations r) {k : Text}
    (hk : (r.languages.lookup k).isSome) : lower k = k := by
  obtain ⟨g, -, -, rfl⟩ := (h.language_iff k).mp hk
  exact lower_lower g.language

theorem lower_alias (h : StemsFrom registrations r) {k primary : Text}
    (hk : r.aliases.lookup k = some primary) : lower k = k := by
  obtain ⟨g, -, -, -, hgiven⟩ := h.of_alias k primary hk
  obtain ⟨aliasName, -, rfl⟩ := List.mem_map.mp hgiven
  exact lower_lower aliasName

theorem leads (h : StemsFrom registrations r) {k primary : Text}
    (hk : r.aliases.lookup k = some primary) : (r.languages.lookup primary).isSome := by
  obtain ⟨g, hg, hoffered, hprimary, -⟩ := h.of_alias k primary hk
  exact (h.language_iff primary).mpr ⟨g, hg, hoffered, hprimary⟩

end StemsFrom

/-- What is in a registry stems from the registrations that were tried, whatever became of them. -/
theorem stemsFrom_attempts (registrations : List Registration) :
    StemsFrom registrations (attempts registrations) := by
  -- one more registration at the end
  induction registrations using List.reverseRecOn with
  | nil => exact ⟨by simp [attempts], by simp [attempts]⟩
  | append_singleton registrations g ih =>
    rw [attempts_concat]
    exact ih.concat g

/-! ## Looking names up -/

/-- Whether a name, in any case, is that of a language or an alias. -/
def Knows (r : TargetRegistry) (name : Text) : Prop :=
  (r.languages.lookup (lower name)).isSome ∨ (r.aliases.lookup (lower name)).isSome

/-- A name that is known is found if no alias leads to what is no language. -/
theorem exists_find_of_knows (h : r.Knows name) (hleads : ∀ k primary,
    r.aliases.lookup k = some primary → (r.languages.lookup primary).isSome) :
    ∃ target, r.find name = .ok target := by
  cases hlanguage : r.languages.lookup (lower name) with
  | some target => exact ⟨target, by simp [find, hlanguage]⟩
  | none =>
    have halias : (r.aliases.lookup (lower name)).isSome := by simpa [Knows, hlanguage] using h
    obtain ⟨primary, hprimary⟩ := Option.isSome_iff_exists.mp halias
    obtain ⟨target, htarget⟩ := Option.isSome_iff_exists.mp (hleads _ primary hprimary)
    exact ⟨target, by simp [find, hlanguage, hprimary, htarget]⟩

theorem find_of_not_knows (h : ¬r.Knows name) :
    r.find name = .error (.unknownLanguage name r.keys) := by
  simp only [Knows, not_or, Option.not_isSome_iff_eq_none] at h
  simp [find, h.1, h.2]

/-- Whatever was registered in a new registry, replacing or not, and however it ended: the languages
are exactly those that a target was offered for; every alias leads to one of them; the keys of both
are lower-cased already. A name is found exactly if it is that of a language or an alias, in any
case, and otherwise it is unknown. -/
theorem aliases_lead_to_languages (registrations : List Registration) :
    (∀ k, ((attempts registrations).languages.lookup k).isSome
      ↔ ∃ g ∈ registrations, g.offered.isSome ∧ lower g.language = k)
    ∧ (∀ k, ((attempts registrations).languages.lookup k).isSome → lower k = k)
    ∧ (∀ k primary, (attempts registrations).aliases.lookup k = some primary →
      lower k = k ∧ ((attempts registrations).languages.lookup primary).isSome)
    ∧ ∀ name, ((∃ target, (attempts registrations).find name = .ok target)
        ↔ (attempts registrations).Knows name)
      ∧ ((∃ target, (attempts registrations).find name = .ok target)
        ∨ (attempts registrations).find name
          = .error (.unknownLanguage name (attempts registrations).keys)) := by
  have hstems := stemsFrom_attempts registrations
  refine ⟨hstems.language_iff, fun k => hstems.lower_language,
    fun k primary hk => ⟨hstems.lower_alias hk, hstems.leads hk⟩, fun name => ?_⟩
  by_cases hknown : (attempts registrations).Knows name
  · have hfound := exists_find_of_knows hknown fun _ _ => hstems.leads
    exact ⟨iff_of_true hfound hknown, Or.inl hfound⟩
  · have hunknown := find_of_not_knows hknown
    exact ⟨iff_of_false (by simp [hunknown]) hknown, Or.inr hunknown⟩

/-- A language with an alias; another one whose second alias is taken; and one under the name of that
alias, which takes the name of the first language for its own alias. -/
def clashing : List Registration :=
  [⟨"Alpha".toList, some .typescript, ["x".toList], false⟩,
    ⟨"Beta".toList, some .typescript, ["Y".toList, "X".toList, "z".toList], false⟩,
    ⟨"X".toList, some .typescript, ["Alpha".toList], true⟩]

/-- The alias that was added before the second registration failed leads to its language. The
name behind it in the list is unknown. -/
theorem aliases_lead_to_languages_clashing :
    ((attempts (clashing.take 1)).register "Beta".toList (some .typescript)
        ["Y".toList, "X".toList, "z".toList] false).1
      = .error (.aliasTaken "X".toList "alpha".toList)
    ∧ ((attempts clashing).aliases.lookup "y".toList = some "beta".toList
      ∧ lower "y".toList = "y".toList
      ∧ ((attempts clashing).languages.lookup "beta".toList).isSome)
    ∧ (((attempts clashing).languages.lookup "x".toList).isSome ∧ lower "x".toList = "x".toList)
    ∧ (∃ target, (attempts clashing).find "Y".toList = .ok target)
    ∧ (attempts clashing).find "Z".toList
      = .error (.unknownLanguage "Z".toList (attempts clashing).keys) := by
  obtain ⟨-, hlowered, hleads, hfind⟩ := aliases_lead_to_languages clashing
  have hy : (attempts clashing).aliases.lookup "y".toList = some "beta".toList := by decide
  have hx : ((attempts clashing).languages.lookup "x".toList).isSome := by decide
  have hknown : (attempts clashing).Knows "Y".toList := Or.inr (by decide)
  have hunknown : ¬(attempts clashing).Knows "Z".toList := not_or.mpr (by decide)
  exact ⟨by decide, ⟨hy, hleads _ _ hy⟩, ⟨hx, hlowered _ hx⟩, (hfind _).1.mpr hknown,
    (hfind _).2.resolve_left (mt (hfind _).1.mp hunknown)⟩

end Typings.TargetRegistry
