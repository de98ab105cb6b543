import Typings.Discovery.Roots
import Typings.Proofs.FileTree.Resilient
import Typings.Proofs.Session

/-!
# Entering the roots

Entering roots makes directories on the way to them and does nothing else to the files.
-/

namespace Typings.Discovery

open FileTree Session Text

variable {settings : Settings} {base : Path} {s s' : Session}

/-- Entering a root makes the directories on the way to it that are missing. -/
theorem enterRoot_grown {root : Path} {r : Except FileFailure Unit}
    (h : run (enterRoot root) s = (r, s')) : GrownBy root.GoesThrough s.files s'.files := by
  rw [enterRoot, run_bind_of_ok run_get] at h
  dsimp only at h
  split at h
  · rw [run_bind, run_throw] at h
    cases h
    exact GrownBy.refl _ _
  · rw [run_bind_of_ok run_get] at h
    split at h
    · cases h
      exact GrownBy.refl _ _
    · rw [run_bind_of_ok (run_say _)] at h
      rcases run_bind_cases h with ⟨_, s₁, hmake, h⟩ | ⟨_, hmake, -⟩
      · cases h
        obtain ⟨_, hmake, -⟩ := run_onFiles_cases hmake
        exact (createDirectory_cases hmake).1
      · obtain ⟨_, hmake, -⟩ := run_onFiles_cases hmake
        exact (createDirectory_cases hmake).1

/-- Entering the root of an item grows the tree on the way to it. -/
theorem enterItem_cases {item : Except RawText Path} {r : Except FileFailure Path}
    (h : run (enterItem item) s = (r, s')) :
    GrownBy (fun q => ∃ root, item = .ok root ∧ root.GoesThrough q) s.files s'.files
    ∧ ∀ root, r = .ok root → item = .ok root := by
  cases item with
  | error raw =>
    cases h
    exact ⟨GrownBy.refl _ _, by simp⟩
  | ok root =>
    rw [enterItem] at h
    rcases run_bind_cases h with ⟨_, s₁, henter, h⟩ | ⟨e, henter, rfl⟩
    · cases h
      refine ⟨(enterRoot_grown henter).mono fun q hq => ⟨root, rfl, hq⟩, fun entered hroot => ?_⟩
      cases hroot
      rfl
    · exact ⟨(enterRoot_grown henter).mono fun q hq => ⟨root, rfl, hq⟩, by simp⟩

/-- Entering the roots of some items grows the tree on the way to them. If all are entered, each
item was a root. -/
theorem mapM_enterItem_cases {items : List (Except RawText Path)}
    {r : Except FileFailure (List Path)} (h : run (items.mapM enterItem) s = (r, s')) :
    GrownBy (fun q => ∃ root, .ok root ∈ items ∧ root.GoesThrough q) s.files s'.files
    ∧ ∀ roots, r = .ok roots → items = roots.map .ok := by
  induction items generalizing s r with
  | nil =>
    cases h
    exact ⟨GrownBy.refl _ _, fun roots hroots => by cases hroots; rfl⟩
  | cons item items ih =>
    rw [List.mapM_cons] at h
    -- places on the way to one of the roots are on the way to one of them and more
    have hhead : ∀ q, (∃ root, item = .ok root ∧ root.GoesThrough q) →
        ∃ root, .ok root ∈ item :: items ∧ root.GoesThrough q := by
      rintro q ⟨root, rfl, hq⟩
      exact ⟨root, by simp, hq⟩
    have htail : ∀ q, (∃ root, .ok root ∈ items ∧ root.GoesThrough q) →
        ∃ root, .ok root ∈ item :: items ∧ root.GoesThrough q := by
      rintro q ⟨root, hroot, hq⟩
      exact ⟨root, by simp [hroot], hq⟩
    rcases run_bind_cases h with ⟨root, s₁, hitem, h⟩ | ⟨e, hitem, rfl⟩
    · obtain ⟨hfirst, hroot⟩ := enterItem_cases hitem
      rcases run_bind_cases h with ⟨rest, s₂, hrest, h⟩ | ⟨e, hrest, rfl⟩
      · cases h
        obtain ⟨hmore, hroots⟩ := ih hrest
        refine ⟨(hfirst.mono hhead).trans (hmore.mono htail), fun roots heq => ?_⟩
        cases heq
        rw [List.map_cons, ← hroot root rfl, ← hroots rest rfl]
      · exact ⟨(hfirst.mono hhead).trans ((ih hrest).1.mono htail), by simp⟩
    · exact ⟨(enterItem_cases hitem).1.mono hhead, by simp⟩

/-- Whether a place is one of the roots that settings stand for, or on the way to one. -/
def LeadsToRoot (settings : Settings) (base : Path) (q : List Text) : Prop :=
  ∃ root, .ok root ∈ rootsOf settings base ∧ root.GoesThrough q

/-- Without working directories the base directory is a root. -/
theorem base_mem_roots {roots : List Path} (hroots : rootsOf settings base = roots.map .ok)
    (hnone : hasRoots settings = false) : base ∈ roots := by
  rw [rootsOf, if_neg (by simp [hnone])] at hroots
  obtain ⟨root, rfl, heq⟩ := List.map_eq_singleton_iff.mp hroots.symm
  cases heq
  exact List.mem_singleton_self _

/-- Finding the roots grows the tree on the way to them. What is found is all that the settings
stand for. -/
theorem enterRoots_cases {r : Except FileFailure (List Path)}
    (h : run (enterRoots settings base) s = (r, s')) :
    GrownBy (LeadsToRoot settings base) s.files s'.files
    ∧ ∀ roots, r = .ok roots → rootsOf settings base = roots.map .ok := by
  rw [enterRoots] at h
  split at h
  · exact mapM_enterItem_cases h
  · next hnone =>
    rw [run_bind_of_ok (run_say _)] at h
    cases h
    refine ⟨GrownBy.refl _ _, fun roots hroots => ?_⟩
    cases hroots
    rw [rootsOf, if_neg hnone]
    rfl

end Typings.Discovery
