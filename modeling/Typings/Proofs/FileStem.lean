import Typings.Proofs.Naming

/-!
# Names with one file stem

In kebab case a name can be read back from its file stem, so two names never share one. In camel
case a name of capitals is lowered as a whole, and then it meets the name that has nothing but its
first letter raised. Both are about names in ASCII that do not start in lower case, as the names of
models do, and the first about names without hyphens of their own.
-/

namespace Typings

open Text

/-- A name on which the case mappings act letter by letter, and that starts as names of models
do. -/
structure IsPlainName (t : Text) : Prop where
  ascii : ∀ c ∈ t, c.toNat < 0x80
  head : ∀ c ∈ t.head?, c.isLower = false

/-- A source that is named in ASCII gives its model a plain name. -/
theorem isPlainName_pascalCase {t : Text} (h : ∀ c ∈ pascalCase t, c.toNat < 0x80) :
    IsPlainName (pascalCase t) := by
  refine ⟨h, fun d hd => ?_⟩
  cases t with
  | nil => cases hd
  | cons c r =>
    rw [pascalCase] at h hd
    split at hd
    · next hupper =>
      cases hd
      have hc : d.toNat < 0x80 := h d (by simp [hupper])
      rw [isUpper_of_ascii hc] at hupper
      exact isLower_of_isUpper hupper
    · rw [List.head?_append_of_ne_nil _ (upperChar_ne_nil c)] at hd
      exact isLower_of_mem_head_upperChar hd

/-! ## Kebab case -/

/-- What a hyphen stands before: a capital with what follows up to the next. -/
def IsHump (w : Text) : Prop :=
  ∃ c r, w = c :: r ∧ isUpper c = true ∧ ∀ d ∈ r, isUpper d = false

/-- Behind the first word of a name, every word starts with its one capital. What the first
character is does not matter. -/
theorem nameWords_cons (t : Text) : ∃ r humps, (∀ c, nameWords (c :: t) = (c :: r) :: humps)
    ∧ (∀ d ∈ r, isUpper d = false) ∧ ∀ w ∈ humps, IsHump w := by
  induction t with
  | nil => exact ⟨[], [], fun _ => rfl, by simp, by simp⟩
  | cons d t ih =>
    obtain ⟨r, humps, hwords, hr, hhumps⟩ := ih
    by_cases hd : isUpper d = true
    · refine ⟨[], (d :: r) :: humps, fun c => ?_, by simp, ?_⟩
      · rw [nameWords, hwords]
        simp [hd]
      · intro w hw
        rcases List.mem_cons.mp hw with rfl | hw
        · exact ⟨d, r, rfl, hd, hr⟩
        · exact hhumps w hw
    · refine ⟨d :: r, humps, fun c => ?_, ?_, hhumps⟩
      · rw [nameWords, hwords]
        simp [hd]
      · intro e he
        rcases List.mem_cons.mp he with rfl | he
        · simpa using hd
        · exact hr e he

/-- What has no capital behind its first character goes to the front of the first word. -/
theorem nameWords_append (d : Char) {s t w : Text} {humps : List Text}
    (hs : ∀ e ∈ s, isUpper e = false) (h : ∀ c, nameWords (c :: t) = (c :: w) :: humps) :
    nameWords (d :: s ++ t) = (d :: s ++ w) :: humps := by
  induction s generalizing d with
  | nil => exact h d
  | cons e s ih =>
    have ih := ih e fun e' he' => hs e' (List.mem_cons_of_mem _ he')
    rw [List.cons_append] at ih
    rw [List.cons_append, List.cons_append, nameWords, ih]
    simp [hs e List.mem_cons_self]

/-- A word of a file stem as it stands in a name. -/
def capitalised : Text → Text
  | [] => []
  | c :: r => c.toUpper :: r

/-- The name that a file stem in kebab case was made of. -/
def fromKebab (stem : Text) : Text := ((splitOn '-' stem).map capitalised).flatten

/-- In ASCII, a text without capitals is itself in small letters. -/
theorem map_toLower_of_not_isUpper {t : Text} (hascii : ∀ c ∈ t, c.toNat < 0x80)
    (h : ∀ c ∈ t, isUpper c = false) : t.map Char.toLower = t := by
  refine (List.map_congr_left fun c hc => ?_).trans (List.map_id t)
  have hupper := h c hc
  rw [isUpper_of_ascii (hascii c hc)] at hupper
  exact toLower_of_not_isUpper hupper

/-- A word with no small letter at the front and no capital behind it is read back. -/
theorem capitalised_lower {c : Char} {r : Text} (hascii : ∀ d ∈ c :: r, d.toNat < 0x80)
    (hc : c.isLower = false) (hr : ∀ d ∈ r, isUpper d = false) :
    capitalised (lower (c :: r)) = c :: r := by
  have hrest : r.map Char.toLower = r :=
    map_toLower_of_not_isUpper (fun d hd => hascii d (List.mem_cons_of_mem _ hd)) hr
  rw [lower_of_ascii hascii, List.map_cons, capitalised, hrest,
    toUpper_toLower (hascii c List.mem_cons_self) hc]

/-- A plain name without hyphens is read back from its file stem. -/
theorem fromKebab_kebabCase {t : Text} (h : IsPlainName t) (hhyphen : '-' ∉ t) :
    fromKebab (kebabCase t) = t := by
  cases t with
  | nil => rfl
  | cons c t =>
    obtain ⟨r, humps, hwords, hr, hhumps⟩ := nameWords_cons t
    have hwords := hwords c
    have hback : ∀ w ∈ nameWords (c :: t), capitalised (lower w) = w := by
      intro w hw
      have hascii : ∀ d ∈ w, d.toNat < 0x80 := fun d hd => h.ascii d (mem_of_mem_nameWords hw hd)
      rw [hwords, List.mem_cons] at hw
      rcases hw with rfl | hw
      · exact capitalised_lower hascii (h.head c rfl) hr
      · obtain ⟨d, q, rfl, hd, hq⟩ := hhumps w hw
        rw [isUpper_of_ascii (hascii d List.mem_cons_self)] at hd
        exact capitalised_lower hascii (isLower_of_isUpper hd) hq
    have hpieces : ∀ p ∈ (nameWords (c :: t)).map lower, '-' ∉ p := by
      intro p hp hin
      obtain ⟨w, hw, rfl⟩ := List.mem_map.mp hp
      exact hhyphen (mem_of_mem_nameWords hw (mem_of_mem_lower (by decide) hin))
    have hsplit : splitOn '-' (kebabCase (c :: t)) = (nameWords (c :: t)).map lower :=
      splitOn_joinWith (by simp [hwords]) hpieces
    have hsame : (nameWords (c :: t)).map (capitalised ∘ lower) = nameWords (c :: t) :=
      (List.map_congr_left hback).trans (List.map_id _)
    rw [fromKebab, hsplit, List.map_map, hsame, flatten_nameWords]

/-- Plain names without hyphens have file stems of their own. -/
theorem kebabCase_inj {s t : Text} (hs : IsPlainName s) (ht : IsPlainName t) (hs' : '-' ∉ s)
    (ht' : '-' ∉ t) : kebabCase s = kebabCase t ↔ s = t := by
  refine ⟨fun h => ?_, fun h => by rw [h]⟩
  rw [← fromKebab_kebabCase hs hs', h, fromKebab_kebabCase ht ht']

/-! ## Camel case -/

/-- The first name is the second in capitals, and the second has no capital behind its first
character. -/
def InCapitals (s t : Text) : Prop := s = t.map Char.toUpper ∧ ∀ c ∈ t.tail, c.isUpper = false

instance (s t : Text) : Decidable (InCapitals s t) :=
  have := List.decidableBAll (fun c : Char => c.isUpper = false) t.tail
  inferInstanceAs (Decidable (_ ∧ _))

/-- What camel case makes of a name behind its first character. -/
def camelTail (r : Text) : Text := if r.any Char.isLower then r else r.map Char.toLower

theorem camelCase_cons {c : Char} {r : Text} (h : IsPlainName (c :: r)) :
    camelCase (c :: r) = c.toLower :: camelTail r := by
  have hc : c.toNat < 0x80 := h.ascii c List.mem_cons_self
  have hhead : c.isLower = false := h.head c rfl
  have hany : (c :: r).any isLowerLetter = r.any Char.isLower := by
    rw [List.any_cons, isLowerLetter_of_ascii hc, hhead, Bool.false_or]
    rw [Bool.eq_iff_iff, List.any_eq_true, List.any_eq_true]
    refine exists_congr fun d => and_congr_right fun hd => ?_
    rw [isLowerLetter_of_ascii (h.ascii d (List.mem_cons_of_mem _ hd))]
  rw [camelCase, isLower_of_ascii hc, hhead, hany, lower_of_ascii h.ascii, lowerChar, if_pos hc,
    camelTail]
  cases r.any Char.isLower <;> rfl

/-- Where the first text keeps its case and the second is lowered, they meet only if the second is
the first in capitals. -/
theorem eq_map_toLower_iff {r q : Text} (hr : ∀ c ∈ r, c.toNat < 0x80)
    (hq : ∀ c ∈ q, c.toNat < 0x80) (hlower : ∀ c ∈ q, c.isLower = false) :
    r = q.map Char.toLower ↔ q = r.map Char.toUpper ∧ ∀ c ∈ r, c.isUpper = false := by
  constructor
  · rintro rfl
    exact ⟨(map_toUpper_map_toLower hq hlower).symm, fun c hc => isUpper_of_mem_map_toLower hq hc⟩
  · rintro ⟨rfl, hupper⟩
    exact (map_toLower_map_toUpper hr hupper).symm

/-- A text with a small letter is no text in capitals. -/
theorem ne_map_toUpper {r q : Text} (hq : ∀ c ∈ q, c.toNat < 0x80)
    (hr : r.any Char.isLower = true) : r ≠ q.map Char.toUpper := by
  rintro rfl
  obtain ⟨c, hc, hlower⟩ := List.any_eq_true.mp hr
  rw [isLower_of_mem_map_toUpper hq hc] at hlower
  cases hlower

/-- A text without small letters is itself in capitals. -/
theorem map_toUpper_of_not_isLower {q : Text} (h : ∀ c ∈ q, c.isLower = false) :
    q.map Char.toUpper = q :=
  (List.map_congr_left fun c hc => toUpper_of_not_isLower (h c hc)).trans (List.map_id q)

theorem camelTail_eq_iff {r q : Text} (hr : ∀ c ∈ r, c.toNat < 0x80)
    (hq : ∀ c ∈ q, c.toNat < 0x80) : camelTail r = camelTail q ↔ r = q
      ∨ (r = q.map Char.toUpper ∧ ∀ c ∈ q, c.isUpper = false)
      ∨ (q = r.map Char.toUpper ∧ ∀ c ∈ r, c.isUpper = false) := by
  rw [camelTail, camelTail]
  -- small letters on both sides, on one side, and on none
  by_cases hsmall : r.any Char.isLower = true
  · have hr' := ne_map_toUpper hq hsmall
    by_cases hsmall' : q.any Char.isLower = true
    · have hq' := ne_map_toUpper hr hsmall'
      simp only [if_pos hsmall, if_pos hsmall', hr', hq', false_and, or_false]
    · have hlower : ∀ c ∈ q, c.isLower = false := by simpa using hsmall'
      have hne : r ≠ q := fun h => hsmall' (h ▸ hsmall)
      rw [if_pos hsmall, if_neg hsmall', eq_map_toLower_iff hr hq hlower]
      simp only [hr', hne, false_and, false_or]
  · have hlower : ∀ c ∈ r, c.isLower = false := by simpa using hsmall
    by_cases hsmall' : q.any Char.isLower = true
    · have hq' := ne_map_toUpper hr hsmall'
      have hne : r ≠ q := fun h => hsmall (h ▸ hsmall')
      rw [if_neg hsmall, if_pos hsmall', eq_comm, eq_map_toLower_iff hq hr hlower]
      simp only [hq', hne, false_and, false_or, or_false]
    · have hlower' : ∀ c ∈ q, c.isLower = false := by simpa using hsmall'
      rw [if_neg hsmall, if_neg hsmall', map_toUpper_of_not_isLower hlower,
        map_toUpper_of_not_isLower hlower']
      constructor
      · intro h
        left
        rw [← map_toUpper_map_toLower hr hlower, h, map_toUpper_map_toLower hq hlower']
      · rintro (rfl | ⟨rfl, -⟩ | ⟨rfl, -⟩) <;> rfl

theorem toLower_inj {c d : Char} (hc : c.toNat < 0x80) (hd : d.toNat < 0x80)
    (hc' : c.isLower = false) (hd' : d.isLower = false) : c.toLower = d.toLower ↔ c = d := by
  refine ⟨fun h => ?_, fun h => by rw [h]⟩
  rw [← toUpper_toLower hc hc', h, toUpper_toLower hd hd']

theorem inCapitals_cons {c d : Char} {r q : Text} (hd : d.isLower = false) :
    InCapitals (c :: r) (d :: q)
      ↔ c = d ∧ r = q.map Char.toUpper ∧ ∀ c ∈ q, c.isUpper = false := by
  rw [InCapitals, List.map_cons, toUpper_of_not_isLower hd, List.cons.injEq, List.tail_cons,
    and_assoc]

/-- Two plain names share a file stem in camel case only if one is the other in capitals. -/
theorem camelCase_eq_iff {s t : Text} (hs : IsPlainName s) (ht : IsPlainName t) :
    camelCase s = camelCase t ↔ s = t ∨ InCapitals s t ∨ InCapitals t s := by
  cases s with
  | nil =>
    cases t with
    | nil => simp
    | cons d q =>
      rw [camelCase_cons ht]
      simp [camelCase, InCapitals]
  | cons c r =>
    cases t with
    | nil =>
      rw [camelCase_cons hs]
      simp [camelCase, InCapitals]
    | cons d q =>
      have hc := hs.head c rfl
      have hd := ht.head d rfl
      have hr : ∀ e ∈ r, e.toNat < 0x80 := fun e he => hs.ascii e (List.mem_cons_of_mem _ he)
      have hq : ∀ e ∈ q, e.toNat < 0x80 := fun e he => ht.ascii e (List.mem_cons_of_mem _ he)
      rw [camelCase_cons hs, camelCase_cons ht, List.cons.injEq, List.cons.injEq,
        toLower_inj (hs.ascii c List.mem_cons_self) (ht.ascii d List.mem_cons_self) hc hd,
        inCapitals_cons hd, inCapitals_cons hc, camelTail_eq_iff hr hq, eq_comm (a := d) (b := c),
        ← and_or_left, ← and_or_left]

end Typings
