import Mathlib.Data.List.Perm.Basic
import Typings.Discovery.Ancestor

/-!
# The ancestor of roots in another order

The longest common beginning of texts is their meet in the order of beginnings, so it does not
depend on the order of the texts, and neither does the ancestor that it is cut back to.
-/

namespace Typings

/-- What two lists both begin with is what their longest common beginning begins with. -/
theorem Path.prefix_commonStart_iff {α : Type} [DecidableEq α] {p x y : List α} :
    p <+: commonStart x y ↔ p <+: x ∧ p <+: y := by
  induction x, y using commonStart.induct generalizing p with
  | case1 a x y ih =>
    rw [commonStart, if_pos rfl]
    cases p with
    | nil => simp
    | cons s p => simp only [List.cons_prefix_cons, ih, ← and_and_left]
  | case2 a x b y hne =>
    rw [commonStart, if_neg hne]
    cases p with
    | nil => simp
    | cons s p =>
      refine iff_of_false (by simp) ?_
      rintro ⟨hx, hy⟩
      rw [List.cons_prefix_cons] at hx hy
      exact hne (hx.1.symm.trans hy.1)
  | case3 x y hnone =>
    rw [commonStart.eq_2 _ _ hnone]
    cases p with
    | nil => simp
    | cons s p =>
      refine iff_of_false (by simp) ?_
      rintro ⟨⟨x', rfl⟩, ⟨y', rfl⟩⟩
      exact hnone _ _ _ _ rfl rfl

/-- The longest common beginning of any number of lists is their meet. -/
theorem Path.prefix_foldl_commonStart_iff {α : Type} [DecidableEq α] {p x : List α}
    {xs : List (List α)} : p <+: xs.foldl commonStart x ↔ ∀ y ∈ x :: xs, p <+: y := by
  induction xs generalizing x with
  | nil => simp
  | cons y xs ih =>
    rw [List.foldl_cons, ih]
    simp only [List.forall_mem_cons, prefix_commonStart_iff, and_assoc]

/-- The longest common beginning depends on what the lists are, not on their order. -/
theorem Path.foldl_commonStart_perm {α : Type} [DecidableEq α] {x y : List α}
    {xs ys : List (List α)} (h : (x :: xs).Perm (y :: ys)) :
    ys.foldl commonStart y = xs.foldl commonStart x := by
  have hbelow : ∀ p, p <+: ys.foldl commonStart y ↔ p <+: xs.foldl commonStart x := by
    intro p
    rw [prefix_foldl_commonStart_iff, prefix_foldl_commonStart_iff]
    exact ⟨fun hp z hz => hp z (h.mem_iff.mp hz), fun hp z hz => hp z (h.mem_iff.mpr hz)⟩
  exact ((hbelow _).mp List.prefix_rfl).eq_of_length_le ((hbelow _).mpr List.prefix_rfl).length_le

namespace Discovery

/-- Roots that have an ancestor have the same one in any order. -/
theorem sharedAncestor_perm {roots roots' : List Path} (h : roots.Perm roots') {anchor : Text}
    (hanchor : sharedAncestor roots = .ok anchor) : sharedAncestor roots' = .ok anchor := by
  match roots, hanchor with
  | [root], hanchor =>
    rw [h.singleton_eq] at hanchor
    exact hanchor
  | root :: other :: roots, hanchor =>
    match roots', h with
    | root' :: other' :: roots', h =>
      have hshared := Path.foldl_commonStart_perm (h.map directoryText)
      rw [sharedAncestor] at hanchor ⊢
      · rw [hshared]
        split at hanchor
        · cases hanchor
        · exact hanchor
      · simp
      · simp
    | [root'], h => simpa using h.length_eq
    | [], h => simpa using h.length_eq

end Discovery

end Typings
