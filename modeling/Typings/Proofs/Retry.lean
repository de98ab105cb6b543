import Mathlib.Logic.Basic
import Typings.Retry

/-!
# What attempts do to a state

All calls but the last one fail. So whatever failing calls do to the state, the attempts did that
first, and if they end well, one call that ends well came after it.
-/

namespace Typings.Retry

variable {ε δ α σ : Type} {policy : Policy ε δ} {operation : σ → Except ε α × σ}

/-- Attempts that end well end with a call that does, after calls that failed. All other attempts
consist of calls that failed. -/
theorem attempt_cases {R : σ → σ → Prop} (hrefl : ∀ s, R s s)
    (htrans : ∀ {s₁ s₂ s₃}, R s₁ s₂ → R s₂ s₃ → R s₁ s₃)
    (hfail : ∀ {s e s'}, operation s = (.error e, s') → R s s')
    (spare number : Nat) (s : σ) {report : Report ε δ α} {s' : σ}
    (h : attempt policy operation spare number s = (report, s')) :
    (∃ value before, report.ending = .done value ∧ R s before
      ∧ operation before = (.ok value, s'))
    ∨ ((∀ value, report.ending ≠ .done value) ∧ R s s') := by
  -- on the calls that are left to spare
  induction spare generalizing number s report with
  | zero =>
    rw [attempt] at h
    rcases hop : operation s with ⟨e | value, s₁⟩
    · have hfirst : R s s₁ := hfail hop
      rw [hop] at h
      right
      -- no error gets another call, whatever it is
      cases hc : policy.classify e <;>
        · simp only [hc] at h
          cases h
          exact ⟨by simp, hfirst⟩
    · rw [hop] at h
      cases h
      exact Or.inl ⟨value, s, rfl, hrefl s, hop⟩
  | succ spare ih =>
    -- the calls that follow are attempts again, with one call less to spare
    have hmore : ∀ {s₁ : σ} (delay : Option δ), R s s₁ →
        (⟨(attempt policy operation spare (number + 1) s₁).1.ending,
            (attempt policy operation spare (number + 1) s₁).1.calls + 1,
            delay.toList ++ (attempt policy operation spare (number + 1) s₁).1.sleeps⟩,
          (attempt policy operation spare (number + 1) s₁).2) = (report, s') →
        (∃ value before, report.ending = .done value ∧ R s before
          ∧ operation before = (.ok value, s'))
        ∨ ((∀ value, report.ending ≠ .done value) ∧ R s s') := by
      intro s₁ delay hfirst h
      rcases hrest : attempt policy operation spare (number + 1) s₁ with ⟨rest, s₂⟩
      rw [hrest] at h
      cases h
      rcases ih _ _ hrest with ⟨value, before, hdone, hbefore, hlast⟩ | ⟨hnone, hafter⟩
      · exact Or.inl ⟨value, before, hdone, htrans hfirst hbefore, hlast⟩
      · exact Or.inr ⟨hnone, htrans hfirst hafter⟩
    rw [attempt] at h
    rcases hop : operation s with ⟨e | value, s₁⟩
    · have hfirst : R s s₁ := hfail hop
      rw [hop] at h
      cases hc : policy.classify e with
      | fatal =>
        simp only [hc] at h
        cases h
        exact Or.inr ⟨by simp, hfirst⟩
      | contention =>
        simp only [hc] at h
        split at h
        · cases h
          exact Or.inr ⟨by simp, hfirst⟩
        · exact hmore _ hfirst h
      | missing =>
        simp only [hc] at h
        exact hmore none hfirst h
    · rw [hop] at h
      cases h
      exact Or.inl ⟨value, s, rfl, hrefl s, hop⟩

end Typings.Retry
