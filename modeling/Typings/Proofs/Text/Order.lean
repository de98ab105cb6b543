import Mathlib.Data.Char
import Mathlib.Data.List.Sort
import Typings.Text.Basic

/-!
# Order of texts

Code point order is linear, and sorting by a total and transitive order sorts.
-/

namespace Typings.Text

@[simp] theorem le_nil (t : Text) : le [] t = true := by rw [le]

@[simp] theorem le_cons {a b : Char} {x y : Text} :
    le (a :: x) (b :: y) = true ↔ a < b ∨ a = b ∧ le x y = true := by
  simp [le]

@[simp] theorem not_cons_le_nil (a : Char) (x : Text) : le (a :: x) [] = false := by rw [le]

theorem total_le (s t : Text) : le s t = true ∨ le t s = true := by
  induction s generalizing t with
  | nil => simp
  | cons a x ih =>
    cases t with
    | nil => simp
    | cons b y =>
      rw [le_cons, le_cons]
      rcases lt_trichotomy a b with hlt | rfl | hlt
      · exact Or.inl (Or.inl hlt)
      · exact (ih y).imp (fun h => Or.inr ⟨rfl, h⟩) fun h => Or.inr ⟨rfl, h⟩
      · exact Or.inr (Or.inl hlt)

theorem trans_le {s t u : Text} (h : le s t = true) (h' : le t u = true) : le s u = true := by
  induction s generalizing t u with
  | nil => simp
  | cons a x ih =>
    cases t with
    | nil => simp at h
    | cons b y =>
      cases u with
      | nil => simp at h'
      | cons c z =>
        rw [le_cons] at h h' ⊢
        rcases h with hab | ⟨rfl, hxy⟩ <;> rcases h' with hbc | ⟨rfl, hyz⟩
        · exact Or.inl (hab.trans hbc)
        · exact Or.inl hab
        · exact Or.inl hbc
        · exact Or.inr ⟨rfl, ih hxy hyz⟩

theorem antisymm_le {s t : Text} (h : le s t = true) (h' : le t s = true) : s = t := by
  induction s generalizing t with
  | nil =>
    cases t with
    | nil => rfl
    | cons b y => simp at h'
  | cons a x ih =>
    cases t with
    | nil => simp at h
    | cons b y =>
      rw [le_cons] at h h'
      rcases h with hab | ⟨rfl, hxy⟩
      · rcases h' with hba | ⟨rfl, -⟩
        · exact absurd hab hba.asymm
        · exact absurd hab (lt_irrefl _)
      · rcases h' with hba | ⟨-, hyx⟩
        · exact absurd hba (lt_irrefl _)
        · rw [ih hxy hyx]

/-- Sorting is insertion sort. -/
theorem sortBy_eq_insertionSort {α : Type} (le : α → α → Bool) (l : List α) :
    sortBy le l = l.insertionSort fun a b => le a b = true := by
  have hinsert : ∀ (a : α) (l : List α),
      insertBy le a l = l.orderedInsert (fun a b => le a b = true) a := by
    intro a l
    induction l with
    | nil => rfl
    | cons b r ih => rw [insertBy, List.orderedInsert_cons, ih]
  induction l with
  | nil => rfl
  | cons a r ih => rw [sortBy, List.insertionSort_cons, ih, hinsert]

/-- What was sorted by a total and transitive order is in order. -/
theorem pairwise_sortBy {α : Type} {le : α → α → Bool}
    (htotal : ∀ a b, le a b = true ∨ le b a = true)
    (htrans : ∀ {a b c}, le a b = true → le b c = true → le a c = true) (l : List α) :
    (sortBy le l).Pairwise fun a b => le a b = true := by
  have : Std.Total fun a b => le a b = true := ⟨htotal⟩
  have : IsTrans α fun a b => le a b = true := ⟨fun _ _ _ => htrans⟩
  rw [sortBy_eq_insertionSort]
  exact List.pairwise_insertionSort _ l

end Typings.Text
