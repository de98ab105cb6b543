import Mathlib.Data.List.Basic
import Mathlib.Data.List.Infix
import Mathlib.Data.List.Nodup
import Typings.FileTree.Basic
import Typings.Proofs.Path.Places

/-!
# Growing trees

Making directories takes nothing away from a tree: what is found before is found after, and what is
new are directories on the way to the one that was asked for. In a closed tree every entry is held
by a directory.
-/

namespace Typings.FileTree

open Typings.Path Text

/-! ## What is found after a change -/

@[simp] theorem find?_nil (t : FileTree) : t.find? [] = some .directory := by simp [find?]

theorem find?_of_ne_nil (t : FileTree) {q : List Text} (h : q ≠ []) :
    t.find? q = t.entries.lookup q := by
  simp [find?, h]

/-- Looking up a key after others were dropped. -/
theorem lookup_filter {α β : Type} [BEq α] [LawfulBEq α] (keep : α → Bool) (l : List (α × β))
    (k : α) :
    (l.filter fun e => keep e.1).lookup k = if keep k then l.lookup k else none := by
  induction l with
  | nil => simp
  | cons e l ih =>
    obtain ⟨a, b⟩ := e
    rw [List.filter_cons, List.lookup_cons]
    by_cases hka : k = a
    · subst hka
      cases hk : keep k
      · simpa [hk] using ih
      · simp
    · have hbeq : (k == a) = false := beq_eq_false_iff_ne.mpr hka
      cases ha : keep a
      · simpa [hbeq] using ih
      · simpa [List.lookup_cons, hbeq] using ih

/-- What was set is found, and all else is as it was. -/
theorem find?_insert (t : FileTree) {place : List Text} (h : place ≠ []) (entry : Entry)
    (q : List Text) :
    (t.insert place entry).find? q = if q = place then some entry else t.find? q := by
  rcases eq_or_ne q [] with rfl | hq
  · simp [Ne.symm h]
  · rw [find?_of_ne_nil _ hq, find?_of_ne_nil _ hq, insert, List.lookup_append,
      lookup_filter fun k => k != place]
    by_cases hqp : q = place
    · simp [hqp]
    · have hbeq : (q == place) = false := beq_eq_false_iff_ne.mpr hqp
      simp [hqp, List.lookup_cons, hbeq]

/-- Nothing is found at or below what was erased. -/
theorem find?_erase (t : FileTree) (place : List Text) {q : List Text} (hq : q ≠ []) :
    (t.erase place).find? q = if place <+: q then none else t.find? q := by
  rw [find?_of_ne_nil _ hq, find?_of_ne_nil _ hq, erase,
    lookup_filter fun k => !place.isPrefixOf k]
  by_cases h : place <+: q
  · simp [h, List.isPrefixOf_iff_prefix.mpr h]
  · simp [h, Bool.eq_false_iff.mpr fun hp => h (List.isPrefixOf_iff_prefix.mp hp)]

/-- Nothing is found below what was cleared. -/
theorem find?_clear (t : FileTree) (place q : List Text) :
    (t.clear place).find? q = if place <+: q ∧ q ≠ place then none else t.find? q := by
  rcases eq_or_ne q [] with rfl | hq
  · rw [find?_nil, find?_nil, if_neg fun h => h.2 (List.prefix_nil.mp h.1).symm]
  · rw [find?_of_ne_nil _ hq, find?_of_ne_nil _ hq, clear,
      lookup_filter fun k => k == place || !place.isPrefixOf k]
    by_cases hqp : q = place
    · simp [hqp]
    · by_cases h : place <+: q
      · simp [hqp, h, List.isPrefixOf_iff_prefix.mpr h]
      · simp [h, Bool.eq_false_iff.mpr fun hp => h (List.isPrefixOf_iff_prefix.mp hp)]

/-! ## Closed trees -/

/-- Whether every entry is held by a directory. -/
def Closed (t : FileTree) : Prop :=
  ∀ q, q ≠ [] → t.find? q ≠ none → t.find? q.dropLast = some .directory

theorem mem_of_find? {t : FileTree} {q : List Text} (hq : q ≠ []) {entry : Entry}
    (h : t.find? q = some entry) : (q, entry) ∈ t.entries := by
  rw [find?_of_ne_nil _ hq] at h
  obtain ⟨before, after, heq, -⟩ := List.lookup_eq_some_iff.mp h
  simp [heq]

theorem WellFormed.closed {t : FileTree} (ht : t.WellFormed) : t.Closed := by
  intro q hq h
  obtain ⟨entry, hentry⟩ := Option.ne_none_iff_exists'.mp h
  exact (ht.parent _ (mem_of_find? hq hentry)).2

/-- Whether no path occurs twice, and none is that of the root of all. -/
def Distinct (t : FileTree) : Prop :=
  (t.entries.map (·.1)).Nodup ∧ [] ∉ t.entries.map (·.1)

theorem WellFormed.distinct {t : FileTree} (ht : t.WellFormed) : t.Distinct := by
  refine ⟨ht.nodup, fun hmem => ?_⟩
  obtain ⟨e, he, hnil⟩ := List.mem_map.mp hmem
  exact (ht.parent e he).1 hnil

/-- The entries of a tree are what their paths lead to. -/
theorem Distinct.mem_iff {t : FileTree} (ht : t.Distinct) {q : List Text} {entry : Entry} :
    (q, entry) ∈ t.entries ↔ q ≠ [] ∧ t.find? q = some entry := by
  refine ⟨fun h => ?_, fun h => mem_of_find? h.1 h.2⟩
  have hq : q ≠ [] := by
    rintro rfl
    exact ht.2 (List.mem_map_of_mem h)
  refine ⟨hq, ?_⟩
  have hsome : t.entries.lookup q ≠ none := by
    intro hnone
    have := List.lookup_eq_none_iff.mp hnone _ h
    simp at this
  obtain ⟨found, hfound⟩ := Option.ne_none_iff_exists'.mp hsome
  rw [find?_of_ne_nil _ hq, hfound]
  have hmem : (q, found) ∈ t.entries := mem_of_find? hq (by rwa [find?_of_ne_nil _ hq])
  have heq : (q, found) = (q, entry) := List.inj_on_of_nodup_map ht.1 hmem h rfl
  simpa using heq

/-- Setting an entry below the root of all keeps paths apart. -/
theorem Distinct.insert {t : FileTree} (ht : t.Distinct) {place : List Text} (hplace : place ≠ [])
    (entry : Entry) : (t.insert place entry).Distinct := by
  have hkept : ((t.entries.filter fun e => e.1 != place).map (·.1)).Sublist
      (t.entries.map (·.1)) := List.filter_sublist.map _
  rw [Distinct, FileTree.insert, List.map_append]
  refine ⟨List.nodup_append.mpr ⟨ht.1.sublist hkept, by simp, ?_⟩, ?_⟩
  · rintro q hq _ hplace rfl
    obtain ⟨e, he, rfl⟩ := List.mem_map.mp hq
    simp_all
  · rw [List.mem_append, not_or]
    exact ⟨fun hmem => ht.2 (hkept.subset hmem), by simpa using Ne.symm hplace⟩

namespace Closed

variable {t : FileTree} (ht : t.Closed)

include ht

/-- Whatever is above an entry is a directory. -/
theorem directory_above {q : List Text} (hq : t.find? q ≠ none) :
    ∀ {p}, p <+: q → p ≠ q → t.find? p = some .directory := by
  -- the induction takes one name after the other off the end of the lower path
  induction q using List.reverseRecOn with
  | nil =>
    intro p hp hne
    exact absurd (List.prefix_nil.mp hp) hne
  | append_singleton q s ih =>
    intro p hp hne
    have hdir : t.find? q = some .directory := by
      have := ht (q ++ [s]) (by simp) hq
      rwa [List.dropLast_concat] at this
    rcases List.prefix_concat_iff.mp hp with h | h
    · exact absurd h hne
    · rcases eq_or_ne p q with rfl | hpq
      · exact hdir
      · exact ih (by simp [hdir]) h hpq

/-- Nothing is found below what is no directory. -/
theorem none_below {p q : List Text} (hp : t.find? p ≠ some .directory) (hpq : p <+: q)
    (hne : p ≠ q) : t.find? q = none := by
  by_contra hq
  exact hp (ht.directory_above hq hpq hne)

/-- Setting an entry held by a directory keeps the tree closed, unless a directory is replaced. -/
theorem insert {place : List Text} (hplace : place ≠ []) {entry : Entry}
    (hheld : t.find? place.dropLast = some .directory)
    (hnew : entry = .directory ∨ t.find? place ≠ some .directory) :
    (t.insert place entry).Closed := by
  intro q hq hfound
  have hneq : q.dropLast ≠ q := by
    intro h
    have := congrArg List.length h
    rw [List.length_dropLast] at this
    have := List.length_pos_iff.mpr hq
    omega
  rw [find?_insert _ hplace] at hfound ⊢
  by_cases hqp : q = place
  · subst hqp
    rw [if_neg hneq]
    exact hheld
  · rw [if_neg hqp] at hfound
    have hdir := ht q hq hfound
    by_cases hdrop : q.dropLast = place
    · rw [if_pos hdrop]
      rcases hnew with rfl | hnew
      · rfl
      · exact absurd (hdrop ▸ hdir) hnew
    · rw [if_neg hdrop]
      exact hdir

end Closed

/-! ## Growth -/

/-- What a tree has become when nothing but directories at allowed places was made. -/
structure GrownBy (allowed : List Text → Prop) (t t' : FileTree) : Prop where
  entry : ∀ q, t'.find? q = t.find? q
    ∨ (t.find? q = none ∧ t'.find? q = some .directory ∧ allowed q)
  closed : t.Closed → t'.Closed
  distinct : t.Distinct → t'.Distinct

namespace GrownBy

variable {allowed more : List Text → Prop} {t t₁ t₂ : FileTree}

theorem refl (allowed : List Text → Prop) (t : FileTree) : GrownBy allowed t t :=
  ⟨fun _ => Or.inl rfl, id, id⟩

theorem trans (h₁ : GrownBy allowed t t₁) (h₂ : GrownBy allowed t₁ t₂) :
    GrownBy allowed t t₂ := by
  refine ⟨fun q => ?_, fun ht => h₂.closed (h₁.closed ht), fun ht => h₂.distinct (h₁.distinct ht)⟩
  rcases h₂.entry q with heq | ⟨hnone, hdir, hq⟩
  · rw [heq]
    exact h₁.entry q
  · rcases h₁.entry q with heq | ⟨_, hdir₁, _⟩
    · exact Or.inr ⟨heq ▸ hnone, hdir, hq⟩
    · exact absurd (hnone.symm.trans hdir₁) (by simp)

theorem mono (h : GrownBy allowed t t₁) (hmore : ∀ q, allowed q → more q) :
    GrownBy more t t₁ := by
  refine ⟨fun q => ?_, h.closed, h.distinct⟩
  rcases h.entry q with heq | ⟨hnone, hdir, hq⟩
  · exact Or.inl heq
  · exact Or.inr ⟨hnone, hdir, hmore q hq⟩

/-- Growth makes no files. -/
theorem file_iff (h : GrownBy allowed t t₁) {q : List Text} {bytes : Bytes} :
    t₁.find? q = some (.file bytes) ↔ t.find? q = some (.file bytes) := by
  rcases h.entry q with heq | ⟨hnone, hdir, _⟩
  · rw [heq]
  · simp [hnone, hdir]

/-- A new directory at an allowed place. -/
theorem insert {place : List Text} (hnone : t.find? place = none) (hallowed : allowed place)
    (hheld : t.Closed → t.find? place.dropLast = some .directory) :
    GrownBy allowed t (t.insert place .directory) := by
  have hplace : place ≠ [] := fun hnil => by simp [hnil] at hnone
  refine ⟨fun q => ?_, fun ht => ht.insert hplace (hheld ht) (Or.inl rfl),
    fun ht => ht.insert hplace _⟩
  rw [find?_insert _ hplace]
  by_cases hq : q = place
  · subst hq
    exact Or.inr ⟨hnone, if_pos rfl, hallowed⟩
  · exact Or.inl (if_neg hq)

end GrownBy

/-- What becomes of what is found at a place: an entry stays, and where there is none, a directory
is made exactly if the place is on the way to something. -/
def KeptOrMade (way : Prop) : Option Entry → Option Entry → Prop
  | some entry, after => after = some entry
  | none, after => (way ∧ after = some .directory) ∨ (¬way ∧ after = none)

/-- What is made in two steps is made on the way to one thing or the other. -/
theorem KeptOrMade.trans {way way' : Prop} {before between after : Option Entry}
    (h₁ : KeptOrMade way before between) (h₂ : KeptOrMade way' between after) :
    KeptOrMade (way ∨ way') before after := by
  cases before with
  | some entry =>
    rw [h₁] at h₂
    exact h₂
  | none =>
    rcases h₁ with ⟨hway, rfl⟩ | ⟨hway, rfl⟩
    · exact Or.inl ⟨Or.inl hway, h₂⟩
    · rcases h₂ with ⟨hway', rfl⟩ | ⟨hway', rfl⟩
      · exact Or.inl ⟨Or.inr hway', rfl⟩
      · exact Or.inr ⟨not_or.mpr ⟨hway, hway'⟩, rfl⟩

/-- Two places with the same entry become the same if both or neither are on the way to
something. -/
theorem KeptOrMade.unique {way way' : Prop} {before after after' : Option Entry}
    (h : KeptOrMade way before after) (h' : KeptOrMade way' before after') (hway : way' ↔ way) :
    after' = after := by
  cases before with
  | some entry => exact Eq.trans h' (Eq.symm h)
  | none =>
    rcases h with ⟨hw, rfl⟩ | ⟨hw, rfl⟩ <;> rcases h' with ⟨hw', rfl⟩ | ⟨hw', rfl⟩
    · rfl
    · exact absurd (hway.mpr hw) hw'
    · exact absurd (hway.mp hw') hw
    · rfl

/-- A place stays as it was if whatever is on the way to something is there already. -/
theorem KeptOrMade.eq_of {way : Prop} {before after : Option Entry}
    (h : KeptOrMade way before after) (hway : way → before ≠ none) : after = before := by
  cases before with
  | some entry => exact h
  | none =>
    rcases h with ⟨hw, -⟩ | ⟨-, hnone⟩
    · exact absurd rfl (hway hw)
    · exact hnone

/-- A place that is kept or made holds the files that it held before. -/
theorem KeptOrMade.file_iff {way : Prop} {before after : Option Entry} {bytes : Bytes}
    (h : KeptOrMade way before after) :
    after = some (.file bytes) ↔ before = some (.file bytes) := by
  cases before with
  | some entry => rw [show after = some entry from h]
  | none => rcases h with ⟨-, rfl⟩ | ⟨-, rfl⟩ <;> simp

theorem keptOrMade_of {way : Prop} {before after : Option Entry}
    (h : after = before ∨ (before = none ∧ after = some .directory ∧ way))
    (hway : way → before = none → after = some .directory) : KeptOrMade way before after := by
  cases before with
  | some entry =>
    rcases h with heq | ⟨hnone, -⟩
    · exact heq
    · cases hnone
  | none =>
    by_cases hw : way
    · exact Or.inl ⟨hw, hway hw rfl⟩
    · rcases h with heq | ⟨-, -, hw'⟩
      · exact Or.inr ⟨hw, heq⟩
      · exact absurd hw' hw

end Typings.FileTree
