import Mathlib.Data.List.Basic
import Mathlib.Data.List.TakeWhile
import Typings.Text.Basic

/-!
# Pieces of a text

Cutting a text at a character undoes joining pieces at it, as long as no piece has the character.
Sorting only moves the members of a list.
-/

namespace Typings.Text

/-- Cutting at a character is the list operation of that name. -/
theorem splitOn_eq_splitOn {α : Type} [DecidableEq α] (c : α) (t : List α) :
    splitOn c t = t.splitOn c := by
  induction t with
  | nil => rfl
  | cons d r ih =>
    rw [splitOn, List.splitOn_cons_eq_if_modifyHead, ih]
    by_cases h : d = c
    · simp [h]
    · obtain ⟨p, ps, hp⟩ := List.exists_cons_of_ne_nil (List.splitOn_ne_nil c r)
      simp [h, hp]

/-- Cutting gives back the pieces that were joined. -/
theorem splitOn_joinWith {α : Type} [DecidableEq α] {c : α} {pieces : List (List α)}
    (hne : pieces ≠ []) (h : ∀ p ∈ pieces, c ∉ p) : splitOn c (joinWith [c] pieces) = pieces := by
  rw [splitOn_eq_splitOn, joinWith, List.splitOn_intercalate c h hne]

/-- A character cuts off the piece before it. -/
theorem splitOn_append_cons {α : Type} [DecidableEq α] {c : α} {p : List α} (hp : c ∉ p)
    (t : List α) : splitOn c (p ++ c :: t) = p :: splitOn c t := by
  induction p with
  | nil => simp [splitOn]
  | cons d p ih =>
    have hd : d ≠ c := fun h => hp (by simp [h])
    rw [List.cons_append, splitOn, if_neg hd, ih fun h => hp (List.mem_cons_of_mem _ h)]

/-- A character cuts a text in two, and each of both is cut on its own. -/
theorem splitOn_append {α : Type} [DecidableEq α] (c : α) (s t : List α) :
    splitOn c (s ++ c :: t) = splitOn c s ++ splitOn c t := by
  simp only [splitOn_eq_splitOn, List.splitOn_append_cons_self]

/-- What a piece has, the text had. -/
theorem mem_of_mem_splitOn {α : Type} [DecidableEq α] {c d : α} {t p : List α}
    (hp : p ∈ splitOn c t) (hd : d ∈ p) : d ∈ t := by
  induction t generalizing p with
  | nil =>
    rw [List.mem_singleton.mp hp] at hd
    cases hd
  | cons e r ih =>
    rw [splitOn_eq_splitOn, List.splitOn_cons_eq_if_modifyHead, ← splitOn_eq_splitOn] at hp
    split at hp
    · rcases List.mem_cons.mp hp with rfl | hp
      · cases hd
      · exact List.mem_cons_of_mem _ (ih hp hd)
    · cases hpieces : splitOn c r with
      | nil => simp [hpieces] at hp
      | cons q qs =>
        rw [hpieces] at ih hp
        rcases List.mem_cons.mp hp with rfl | hp
        · rcases List.mem_cons.mp hd with rfl | hd
          · exact List.mem_cons_self
          · exact List.mem_cons_of_mem _ (ih List.mem_cons_self hd)
        · exact List.mem_cons_of_mem _ (ih (List.mem_cons_of_mem _ hp) hd)

/-- Pieces that are each ended by a character, and not joined at it, leave an empty one behind. -/
theorem splitOn_flatMap {α β : Type} [DecidableEq α] {c : α} {xs : List β} {f : β → List α}
    (h : ∀ x ∈ xs, c ∉ f x) : splitOn c (xs.flatMap fun x => f x ++ [c]) = xs.map f ++ [[]] := by
  induction xs with
  | nil => rfl
  | cons x xs ih =>
    rw [List.flatMap_cons, List.append_assoc, List.singleton_append,
      splitOn_append_cons (h x List.mem_cons_self), ih fun y hy => h y (List.mem_cons_of_mem _ hy)]
    rfl

/-- The text is cut at the first place where the needle can start. -/
theorem cut?_append {c : Char} {t : Text} (ht : c ∉ t) (needle s : Text) :
    cut? (c :: needle) (t ++ c :: needle ++ s) = some (t, s) := by
  induction t with
  | nil => simp [cut?]
  | cons d t ih =>
    have hd : c ≠ d := fun h => ht (by simp [h])
    have ih := ih fun h => ht (List.mem_cons_of_mem _ h)
    rw [List.cons_append, List.cons_append, cut?, ih]
    simp [hd]

/-- A text without the first character of the needle is not cut. -/
theorem cut?_eq_none {c : Char} {t : Text} (ht : c ∉ t) (needle : Text) :
    cut? (c :: needle) t = none := by
  induction t with
  | nil => rfl
  | cons d t ih =>
    have hd : c ≠ d := fun h => ht (by simp [h])
    rw [cut?, ih fun h => ht (List.mem_cons_of_mem _ h)]
    simp [hd]

/-- Joining at least two pieces puts the separator after the first. -/
theorem joinWith_cons {α : Type} (sep p : List α) {pieces : List (List α)} (hne : pieces ≠ []) :
    joinWith sep (p :: pieces) = p ++ sep ++ joinWith sep pieces := by
  rw [joinWith, List.intercalate_cons_of_ne_nil hne]
  rfl

/-- Joining one more piece puts the separator before it. -/
theorem joinWith_concat {α : Type} (sep : List α) {pieces : List (List α)} (hne : pieces ≠ [])
    (p : List α) : joinWith sep (pieces ++ [p]) = joinWith sep pieces ++ sep ++ p := by
  induction pieces with
  | nil => exact absurd rfl hne
  | cons q rest ih =>
    by_cases hrest : rest = []
    · subst hrest
      simp [joinWith]
    · rw [List.cons_append, joinWith_cons _ _ (by simp), ih hrest, joinWith_cons _ _ hrest]
      simp only [List.append_assoc]

/-- Pieces that each have the separator behind them are joined at it, with one more at the end. -/
theorem flatMap_append_eq_joinWith {α : Type} (sep : List α) {pieces : List (List α)}
    (hne : pieces ≠ []) : pieces.flatMap (· ++ sep) = joinWith sep pieces ++ sep := by
  induction pieces with
  | nil => exact absurd rfl hne
  | cons p pieces ih =>
    rcases eq_or_ne pieces [] with rfl | hmore
    · simp [joinWith]
    · rw [List.flatMap_cons, ih hmore, joinWith_cons _ _ hmore, List.append_assoc _ _ sep]

/-- What is joined consists of the separator and of the pieces. -/
theorem mem_joinWith {α : Type} {sep : List α} {c : α} {pieces : List (List α)}
    (h : c ∈ joinWith sep pieces) : c ∈ sep ∨ ∃ p ∈ pieces, c ∈ p := by
  induction pieces with
  | nil => simp [joinWith] at h
  | cons p ps ih =>
    rcases eq_or_ne ps [] with rfl | hne
    · exact Or.inr ⟨p, by simp, by simpa [joinWith] using h⟩
    · rw [joinWith_cons sep p hne, List.mem_append, List.mem_append] at h
      rcases h with (h | h) | h
      · exact Or.inr ⟨p, by simp, h⟩
      · exact Or.inl h
      · rcases ih h with h | ⟨q, hq, h⟩
        · exact Or.inl h
        · exact Or.inr ⟨q, by simp [hq], h⟩

/-- A member that is put into a list is all that is added. -/
theorem insertBy_perm {α : Type} (le : α → α → Bool) (a : α) (l : List α) :
    (insertBy le a l).Perm (a :: l) := by
  induction l with
  | nil => exact List.Perm.refl _
  | cons b r ih =>
    rw [insertBy]
    split
    · exact List.Perm.refl _
    · exact (ih.cons b).trans (List.Perm.swap a b r)

/-- Sorting moves the members of a list and does nothing else. -/
theorem sortBy_perm {α : Type} (le : α → α → Bool) (l : List α) : (sortBy le l).Perm l := by
  induction l with
  | nil => exact List.Perm.refl _
  | cons a r ih => exact (insertBy_perm le a _).trans (ih.cons a)

/-! ## Runs of neighbours -/

/-- No character of a text is one that the text does not have. -/
theorem bne_of_notMem {c : Char} {t : Text} (h : c ∉ t) : ∀ d ∈ t, (d != c) = true := by
  intro d hd
  rw [bne_iff_ne]
  rintro rfl
  exact h hd

/-- A beginning without a character ends before it. -/
theorem prefix_append_cons_iff {needle : Text} {c : Char} (hc : c ∉ needle) (s t : Text) :
    needle <+: s ++ c :: t ↔ needle <+: s := by
  constructor
  · intro h
    rcases List.prefix_or_prefix_of_prefix h (List.prefix_append s _) with h' | ⟨r, rfl⟩
    · exact h'
    · rw [List.prefix_append_right_inj, List.prefix_cons_iff] at h
      rcases h with rfl | ⟨r, rfl, -⟩
      · simp
      · simp at hc
  · intro h
    exact h.trans (List.prefix_append _ _)

/-- A run of neighbours without a character lies on one side of it. -/
theorem infix_append_cons_iff {needle : Text} {c : Char} (hc : c ∉ needle) (s t : Text) :
    needle <:+: s ++ c :: t ↔ needle <:+: s ∨ needle <:+: t := by
  induction s with
  | nil =>
    have hprefix := prefix_append_cons_iff hc [] t
    rw [List.nil_append] at hprefix ⊢
    rw [List.infix_cons_iff, hprefix, List.prefix_nil, List.infix_nil]
  | cons d s ih =>
    have hprefix := prefix_append_cons_iff hc (d :: s) t
    rw [List.cons_append] at hprefix ⊢
    rw [List.infix_cons_iff, hprefix, ih, List.infix_cons_iff, or_assoc]

/-- A text holds what is a run of neighbours in it. -/
theorem holds_iff {needle t : Text} : holds needle t = true ↔ needle <:+: t := by
  induction t with
  | nil => simp [holds]
  | cons c t ih =>
    rw [holds, Bool.or_eq_true, ih, List.isPrefixOf_iff_prefix, List.infix_cons_iff]

/-- What has no occurrence of a character is all there is after the last one. -/
theorem afterLast_append_cons {c : Char} {t : Text} (ht : c ∉ t) (s : Text) :
    afterLast c (s ++ c :: t) = t := by
  have hall : ∀ d ∈ t.reverse, (d != c) = true := bne_of_notMem (by simpa using ht)
  have hreverse : (s ++ c :: t).reverse = t.reverse ++ c :: s.reverse := by simp
  rw [afterLast, hreverse, List.takeWhile_append_of_pos hall,
    List.takeWhile_cons_of_neg (by simp), List.append_nil, List.reverse_reverse]

theorem afterLast_of_notMem {c : Char} {t : Text} (ht : c ∉ t) : afterLast c t = t := by
  have hall : ∀ d ∈ t.reverse, (d != c) = true := bne_of_notMem (by simpa using ht)
  rw [afterLast, List.takeWhile_eq_self_iff.mpr hall, List.reverse_reverse]

end Typings.Text
