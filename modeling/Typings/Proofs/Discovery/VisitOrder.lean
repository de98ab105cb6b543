import Typings.Proofs.Discovery.Visit

/-!
# Which file is visited first

In every directory, the files of earlier sub-directories come before those of later ones, all of
them before the files of the directory itself, and these are in the order of their names.
-/

namespace Typings

open Text

theorem Text.le_iff {s t : Text} : le s t = true ↔ s < t ∨ s = t := by
  induction s generalizing t with
  | nil => cases t <;> simp
  | cons a s ih =>
    cases t with
    | nil => simp
    | cons b t =>
      rw [le_cons, ih, List.cons_lt_cons_iff, List.cons.injEq]
      tauto

theorem Text.ne_of_lt {s t : Text} (h : s < t) : s ≠ t := by
  rintro rfl
  exact List.lt_irrefl s h

namespace Discovery

/-- Whether one file is visited before another, by the names that lead to them. -/
inductive VisitedBefore : List Text → List Text → Prop where
  /-- One lies in an earlier sub-directory of some directory than the other. -/
  | apart (folder : List Text) {a b : Text} {x y : List Text} : a < b → x ≠ [] → y ≠ [] →
      VisitedBefore (folder ++ a :: x) (folder ++ b :: y)
  /-- One lies in a sub-directory and the other in the directory itself. -/
  | inside (folder : List Text) {a b : Text} {x : List Text} : x ≠ [] →
      VisitedBefore (folder ++ a :: x) (folder ++ [b])
  /-- Both lie in the same directory. -/
  | beside (folder : List Text) {a b : Text} : a < b →
      VisitedBefore (folder ++ [a]) (folder ++ [b])

theorem VisitedBefore.below (folder : List Text) {x y : List Text} (h : VisitedBefore x y) :
    VisitedBefore (folder ++ x) (folder ++ y) := by
  cases h with
  | apart inner hab hx hy =>
    rw [← List.append_assoc, ← List.append_assoc]
    exact .apart _ hab hx hy
  | inside inner hx =>
    rw [← List.append_assoc, ← List.append_assoc]
    exact .inside _ hx
  | beside inner hab =>
    rw [← List.append_assoc, ← List.append_assoc]
    exact .beside _ hab

/-- Names that lead to two files from the same directory are compared from there. -/
theorem visitLe_append (folder : List Text) {x y : List Text} (hx : x ≠ []) (hy : y ≠ []) :
    visitLe (folder ++ x) (folder ++ y) = visitLe x y := by
  induction folder with
  | nil => rfl
  | cons s folder ih =>
    obtain ⟨a, x', hx'⟩ := List.exists_cons_of_ne_nil (List.append_ne_nil_of_right_ne_nil folder hx)
    obtain ⟨b, y', hy'⟩ := List.exists_cons_of_ne_nil (List.append_ne_nil_of_right_ne_nil folder hy)
    rw [List.cons_append, List.cons_append, ← ih, hx', hy', visitLe_more, if_pos rfl]

theorem VisitedBefore.visitLe {x y : List Text} (h : VisitedBefore x y) :
    visitLe x y = true ∧ x ≠ y := by
  cases h with
  | @apart folder a b x y hab hx hy =>
    obtain ⟨a', x, rfl⟩ := List.exists_cons_of_ne_nil hx
    obtain ⟨b', y, rfl⟩ := List.exists_cons_of_ne_nil hy
    rw [visitLe_append _ (by simp) (by simp), visitLe_more, if_neg (Text.ne_of_lt hab)]
    refine ⟨le_iff.mpr (.inl hab), fun heq => Text.ne_of_lt hab ?_⟩
    exact (List.cons.inj (List.append_cancel_left heq)).1
  | @inside folder a b x hx =>
    obtain ⟨a', x, rfl⟩ := List.exists_cons_of_ne_nil hx
    rw [visitLe_append _ (by simp) (by simp), visitLe_more_one]
    exact ⟨rfl, by simp⟩
  | @beside folder a b hab =>
    rw [visitLe_append _ (by simp) (by simp), visitLe_one]
    refine ⟨le_iff.mpr (.inl hab), fun heq => Text.ne_of_lt hab ?_⟩
    exact (List.cons.inj (List.append_cancel_left heq)).1

/-- Of two files only one is visited before the other. -/
theorem VisitedBefore.asymm {x y : List Text} (h : VisitedBefore x y) : ¬VisitedBefore y x :=
  fun h' => h.visitLe.2 (antisymm_visitLe h.visitLe.1 h'.visitLe.1)

end Discovery

end Typings
