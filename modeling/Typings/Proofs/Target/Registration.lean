import Mathlib.Data.List.Basic
import Typings.Target

/-!
# What a registration changes

A registration first sets its language and then points its aliases to it, one after the other. If
one of them clashes, it fails there. What is offered and cannot write a language at all is refused
before anything is done, and only then nothing has changed.
-/

namespace Typings.TargetRegistry

open Text

/-! ## Keys -/

/-- What was set is found under its key, and all else is as it was. -/
theorem lookup_set {α : Type} (key : Text) (value : α) (pairs : List (Text × α)) (k : Text) :
    (set key value pairs).lookup k = if k = key then some value else pairs.lookup k := by
  induction pairs with
  | nil =>
    rw [set, List.lookup_cons]
    by_cases hk : k = key
    · simp [hk]
    · simp [hk, beq_eq_false_iff_ne.mpr hk]
  | cons pair pairs ih =>
    obtain ⟨k', v⟩ := pair
    rw [set]
    by_cases hset : k' = key
    · subst hset
      rw [if_pos rfl, List.lookup_cons, List.lookup_cons]
      by_cases hk : k = k'
      · simp [hk]
      · simp [hk, beq_eq_false_iff_ne.mpr hk]
    · rw [if_neg hset, List.lookup_cons, List.lookup_cons, ih]
      by_cases hk : k = k'
      · subst hk
        simp [hset]
      · simp [beq_eq_false_iff_ne.mpr hk]

/-- A key that was not there is set at the end. -/
theorem set_of_lookup_eq_none {α : Type} {key : Text} (value : α) {pairs : List (Text × α)}
    (h : pairs.lookup key = none) : set key value pairs = pairs ++ [(key, value)] := by
  induction pairs with
  | nil => rfl
  | cons pair pairs ih =>
    obtain ⟨k, v⟩ := pair
    have hk : k ≠ key := by
      rintro rfl
      simp at h
    have hbeq : (key == k) = false := beq_eq_false_iff_ne.mpr (Ne.symm hk)
    rw [List.lookup_cons, hbeq] at h
    rw [set, if_neg hk, ih h, List.cons_append]

/-! ## Aliases -/

/-- The registry with an alias that leads to a key. The key itself needs none. -/
def pointTo (key : Text) (r : TargetRegistry) (aliasName : Text) : TargetRegistry :=
  if lower aliasName = key then r else { r with aliases := set (lower aliasName) key r.aliases }

/-- Why an alias of a key clashes with what is registered: it is a language of its own, or it leads
to another key. -/
def clash? (key : Text) (r : TargetRegistry) (aliasName : Text) : Option Error :=
  if lower aliasName = key then none
  else if (r.languages.lookup (lower aliasName)).isSome then some (.aliasIsLanguage aliasName)
  else (r.aliases.lookup (lower aliasName)).bind fun other =>
    if other = key then none else some (.aliasTaken aliasName other)

variable {key : Text} {replace : Bool} {r r' : TargetRegistry} {e : Error}

@[simp] theorem languages_pointTo (key : Text) (r : TargetRegistry) (aliasName : Text) :
    (pointTo key r aliasName).languages = r.languages := by
  rw [pointTo]
  split <;> rfl

theorem languages_foldl_pointTo (key : Text) (aliases : List Text) (r : TargetRegistry) :
    (aliases.foldl (pointTo key) r).languages = r.languages := by
  induction aliases generalizing r with
  | nil => rfl
  | cons aliasName rest ih => rw [List.foldl_cons, ih, languages_pointTo]

/-- Pointed to a key, aliases lead to it, and all else leads where it did. -/
theorem lookup_aliases_foldl_pointTo (key : Text) (aliases : List Text) (r : TargetRegistry)
    (k : Text) :
    (aliases.foldl (pointTo key) r).aliases.lookup k
      = if k ∈ aliases.map lower ∧ k ≠ key then some key else r.aliases.lookup k := by
  induction aliases generalizing r with
  | nil => simp
  | cons aliasName rest ih =>
    rw [List.foldl_cons, ih, pointTo]
    by_cases hkey : lower aliasName = key
    · by_cases hk : k = key
      · simp [hkey, hk]
      · simp [hkey, hk]
    · rw [if_neg hkey, lookup_set]
      by_cases hk : k = lower aliasName
      · simp [hk, hkey]
      · simp [hk]

/-- One alias is pointed to the key before the others, unless it clashes and nothing is to be
replaced. -/
theorem addAliases_cons (aliasName : Text) (rest : List Text) :
    addAliases key replace (aliasName :: rest) r
      = match if replace then none else clash? key r aliasName with
        | some e => (.error e, r)
        | none => addAliases key replace rest (pointTo key r aliasName) := by
  rw [addAliases]
  by_cases hkey : lower aliasName = key
  · simp [hkey, clash?, pointTo]
  · cases replace with
    | true => simp [hkey, pointTo]
    | false =>
      cases hlanguage : (r.languages.lookup (lower aliasName)).isSome with
      | true => simp [hkey, hlanguage, clash?]
      | false =>
        cases hother : r.aliases.lookup (lower aliasName) with
        | none => simp [hkey, hlanguage, hother, clash?, pointTo]
        | some other =>
          by_cases heq : other = key
          · simp [hkey, hlanguage, hother, heq, clash?, pointTo]
          · simp [hkey, hlanguage, hother, heq, clash?]

/-- Aliases that are not all added were added up to the first that clashes. -/
theorem addAliases_error {aliases : List Text}
    (h : addAliases key replace aliases r = (.error e, r')) :
    replace = false ∧ ∃ before aliasName after, aliases = before ++ aliasName :: after
      ∧ r' = before.foldl (pointTo key) r ∧ clash? key r' aliasName = some e := by
  induction aliases generalizing r with
  | nil => simp [addAliases] at h
  | cons aliasName rest ih =>
    rw [addAliases_cons] at h
    split at h
    · next hclash =>
      cases h
      have hkept : replace = false := by
        by_contra hreplace
        simp [hreplace] at hclash
      exact ⟨hkept, [], aliasName, rest, rfl, rfl, by simpa [hkept] using hclash⟩
    · obtain ⟨hkept, before, clashing, after, rfl, hr', hclash⟩ := ih h
      exact ⟨hkept, aliasName :: before, clashing, after, rfl, hr', hclash⟩

/-! ## Registrations -/

variable {language : Text} {offered : Option Target} {aliases : List Text}

/-- A registration is refused, has nothing to do, or sets its language and adds the aliases. -/
theorem register_cases (r : TargetRegistry) (language : Text) (offered : Option Target)
    (aliases : List Text) (replace : Bool) :
    (offered = none ∧ r.register language offered aliases replace = (.error .notAGenerator, r))
    ∨ (replace = false ∧ (r.languages.lookup (lower language)).isSome
      ∧ r.register language offered aliases replace = (.ok (), r))
    ∨ ∃ target, offered = some target
      ∧ (replace = false → r.languages.lookup (lower language) = none)
      ∧ r.register language offered aliases replace = addAliases (lower language) replace aliases
        { r with languages := set (lower language) target r.languages } := by
  rw [register.eq_def]
  cases offered with
  | none => exact Or.inl ⟨rfl, rfl⟩
  | some target =>
    dsimp only
    split
    · next hthere =>
      rw [Bool.and_eq_true, Bool.not_eq_true'] at hthere
      exact Or.inr (Or.inl ⟨hthere.2, hthere.1, rfl⟩)
    · next hnew =>
      refine Or.inr (Or.inr ⟨target, rfl, ?_, rfl⟩)
      rintro rfl
      rwa [Bool.not_false, Bool.and_true, Option.not_isSome_iff_eq_none] at hnew

/-- A registration that fails was offered what cannot write a language and changed nothing, or it
was for a new language, which is registered with the aliases before the first that clashes. -/
theorem register_error (h : r.register language offered aliases replace = (.error e, r')) :
    (offered = none ∧ e = .notAGenerator ∧ r' = r)
    ∨ ∃ target before aliasName after, offered = some target ∧ replace = false
      ∧ r.languages.lookup (lower language) = none
      ∧ aliases = before ++ aliasName :: after
      ∧ r' = before.foldl (pointTo (lower language))
        { r with languages := r.languages ++ [(lower language, target)] }
      ∧ clash? (lower language) r' aliasName = some e := by
  rcases register_cases r language offered aliases replace with ⟨rfl, hrefused⟩ |
    ⟨-, -, hthere⟩ | ⟨target, rfl, hnew, hset⟩
  · rw [hrefused] at h
    cases h
    exact Or.inl ⟨rfl, rfl, rfl⟩
  · rw [hthere] at h
    cases h
  · rw [hset] at h
    obtain ⟨rfl, before, aliasName, after, rfl, hr', hclash⟩ := addAliases_error h
    rw [set_of_lookup_eq_none target (hnew rfl)] at hr'
    exact Or.inr ⟨target, before, aliasName, after, rfl, rfl, hnew rfl, rfl, hr', hclash⟩

/-- A registration that fails has changed nothing exactly if what was offered cannot write a
language. In every other case the language is new and registered now, and the aliases before the
first that clashes lead to it. -/
theorem register_unchanged_iff (h : r.register language offered aliases replace = (.error e, r')) :
    (r' = r ↔ offered = none)
    ∧ ∀ target, offered = some target → replace = false
      ∧ r.languages.lookup (lower language) = none
      ∧ (∀ k, r'.languages.lookup k
        = if k = lower language then some target else r.languages.lookup k)
      ∧ ∃ before aliasName after, aliases = before ++ aliasName :: after
        ∧ (∀ k, r'.aliases.lookup k = if k ∈ before.map lower ∧ k ≠ lower language
          then some (lower language) else r.aliases.lookup k)
        ∧ clash? (lower language) r' aliasName = some e := by
  rcases register_error h with ⟨rfl, -, rfl⟩ |
    ⟨target, before, aliasName, after, rfl, rfl, hnone, rfl, hr', hclash⟩
  · exact ⟨by simp, fun target htarget => by cases htarget⟩
  · have hset := set_of_lookup_eq_none target hnone
    have hlanguages : ∀ k, r'.languages.lookup k
        = if k = lower language then some target else r.languages.lookup k := by
      intro k
      rw [hr', languages_foldl_pointTo, ← hset, lookup_set]
    refine ⟨⟨fun heq => ?_, fun hoffered => by cases hoffered⟩, ?_⟩
    · have hfound := hlanguages (lower language)
      rw [heq, hnone, if_pos rfl] at hfound
      cases hfound
    · rintro _ ⟨⟩
      refine ⟨rfl, hnone, hlanguages, before, aliasName, after, rfl, fun k => ?_, hclash⟩
      rw [hr', lookup_aliases_foldl_pointTo]

/-- A registry with one language and one alias of it. -/
def oneLanguage : TargetRegistry :=
  (register {} "Alpha".toList (some .typescript) ["x".toList] false).2

/-- The second alias of a new language is taken. The language and its first alias stay. -/
theorem register_unchanged_iff_taken : ∃ r',
    oneLanguage.register "Beta".toList (some .typescript) ["y".toList, "X".toList, "z".toList] false
      = (.error (.aliasTaken "X".toList "alpha".toList), r')
    ∧ r' ≠ oneLanguage
    ∧ oneLanguage.languages.lookup "beta".toList = none
    ∧ r'.languages.lookup "beta".toList = some .typescript
    ∧ ∃ before aliasName after, ["y".toList, "X".toList, "z".toList] = before ++ aliasName :: after
      ∧ clash? "beta".toList r' aliasName = some (.aliasTaken "X".toList "alpha".toList) := by
  obtain ⟨r', hfailed⟩ : ∃ r', oneLanguage.register "Beta".toList (some .typescript)
      ["y".toList, "X".toList, "z".toList] false
      = (.error (.aliasTaken "X".toList "alpha".toList), r') :=
    ⟨_, Prod.ext (by decide) rfl⟩
  obtain ⟨hunchanged, hregistered⟩ := register_unchanged_iff hfailed
  obtain ⟨-, hnone, hlanguages, before, aliasName, after, heq, -, hclash⟩ :=
    hregistered .typescript rfl
  have hkey : lower "Beta".toList = "beta".toList := by decide
  rw [hkey] at hnone hlanguages hclash
  refine ⟨r', hfailed, fun heq => ?_, hnone, by rw [hlanguages, if_pos rfl],
    before, aliasName, after, heq, hclash⟩
  cases hunchanged.mp heq

/-- A registration that fails for an alias that is taken leaves a language that was not there. -/
theorem failed_language_stays :
    (oneLanguage.register "Beta".toList (some .typescript) ["X".toList] false).1
      = .error (.aliasTaken "X".toList "alpha".toList)
    ∧ oneLanguage.languages.map (·.1) = ["alpha".toList]
    ∧ (oneLanguage.register "Beta".toList (some .typescript) ["X".toList] false).2.languages.map
      (·.1) = ["alpha".toList, "beta".toList] := by
  decide

end Typings.TargetRegistry
