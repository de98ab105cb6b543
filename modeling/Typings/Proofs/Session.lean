import Mathlib.Logic.Basic
import Typings.Session

/-!
# Running steps

What the steps of a run come to, one at a time. A run of two steps in a row is taken apart into the
run of the first and, unless that failed, the run of the second.
-/

namespace Typings.Session

variable {ε ε' α β : Type} {s s' : Session}

@[simp] theorem run_get : run (get : Step ε Session) s = (.ok s, s) := rfl

@[simp] theorem run_throw (e : ε) : run (throw e : Step ε α) s = (.error e, s) := rfl

@[simp] theorem run_say (line : Text) :
    run (say line : Step ε Unit) s = (.ok (), { s with log := s.log ++ [line] }) := rfl

@[simp] theorem run_warn (lines : List Text) :
    run (warn lines : Step ε Unit) s = (.ok (), { s with warnings := s.warnings ++ lines }) := rfl

@[simp] theorem run_ofExcept (x : Except ε α) : run (ofExcept x : Step ε α) s = (x, s) := by
  cases x <;> rfl

/-- Two steps in a row. -/
theorem run_bind (x : Step ε α) (f : α → Step ε β) :
    run (x >>= f) s = match run x s with
      | (.ok a, s₁) => run (f a) s₁
      | (.error e, s₁) => (.error e, s₁) := by
  rw [run, run, bind, Monad.toBind, EStateM.instMonad]
  dsimp only
  rw [EStateM.bind]
  cases x s <;> rfl

/-- Either the first of two steps succeeds and the second one decides, or the first one fails. -/
theorem run_bind_cases {x : Step ε α} {f : α → Step ε β} {r : Except ε β}
    (h : run (x >>= f) s = (r, s')) :
    (∃ a s₁, run x s = (.ok a, s₁) ∧ run (f a) s₁ = (r, s'))
    ∨ ∃ e, run x s = (.error e, s') ∧ r = .error e := by
  rw [run_bind] at h
  split at h
  · next a s₁ hx => exact Or.inl ⟨a, s₁, hx, h⟩
  · next e s₁ hx =>
    cases h
    exact Or.inr ⟨e, hx, rfl⟩

/-- A step that only logs or warns before another. -/
theorem run_bind_of_ok {x : Step ε α} {f : α → Step ε β} {a : α} {s₁ : Session}
    (h : run x s = (.ok a, s₁)) : run (x >>= f) s = run (f a) s₁ := by
  rw [run_bind, h]

/-- Other words for a failure change no success. -/
theorem mapError_eq_ok {x : Except ε α} {report : ε → ε'} {a : α} :
    x.mapError report = .ok a ↔ x = .ok a := by
  cases x with
  | ok b => constructor <;> intro h <;> cases h <;> rfl
  | error e => constructor <;> intro h <;> cases h

/-- A step whose failures are reported in other words. -/
theorem run_adaptExcept_cases {x : Step ε α} {report : ε → ε'} {r : Except ε' α}
    (h : run (x.adaptExcept report) s = (r, s')) :
    ∃ done, run x s = (done, s') ∧ r = done.mapError report := by
  rw [run, EStateM.adaptExcept] at h
  rw [run]
  rcases hx : x s with ⟨a, s₁⟩ | ⟨e, s₁⟩ <;> rw [hx] at h <;> cases h
  · exact ⟨.ok a, rfl, rfl⟩
  · exact ⟨.error e, rfl, rfl⟩

/-- A value that may be an error leaves the session as it is. -/
theorem run_bind_ofExcept_cases {x : Except ε α} {f : α → Step ε β} {r : Except ε β}
    (h : run (ofExcept x >>= f) s = (r, s')) :
    (∃ a, x = .ok a ∧ run (f a) s = (r, s')) ∨ ∃ e, x = .error e ∧ r = .error e ∧ s' = s := by
  rw [run_bind, run_ofExcept] at h
  cases x with
  | ok a => exact Or.inl ⟨a, rfl, h⟩
  | error e =>
    cases h
    exact Or.inr ⟨e, rfl, rfl, rfl⟩

/-- An operation on the files does what it does to the files of the session. -/
theorem run_onFiles_cases {report : FileFailure → ε}
    {operation : FileTree → Except FileFailure α × FileTree} {r : Except ε α}
    (h : run (onFiles report operation) s = (r, s')) :
    ∃ done, operation s.files = (done, s'.files) ∧ r = done.mapError report := by
  rw [run, onFiles] at h
  rcases hop : operation s.files with ⟨e | a, files⟩ <;> rw [hop] at h <;> cases h
  · exact ⟨.error e, rfl, rfl⟩
  · exact ⟨.ok a, rfl, rfl⟩

/-- A step whose result is a value succeeds with it. -/
theorem exists_run_of_toOption {x : Step ε α} {a : α} (h : (run x s).1.toOption = some a) :
    ∃ s', run x s = (.ok a, s') := by
  rcases hrun : run x s with ⟨e | b, s'⟩
  · rw [hrun] at h
    cases h
  · rw [hrun] at h
    cases h
    exact ⟨s', rfl⟩

/-! ## Steps that succeed -/

/-- Whether a step succeeds on every session with the given files, whatever was logged before, and
what its value and the files after it are. -/
def Makes (step : Step ε α) (t : FileTree) (a : α) (t' : FileTree) : Prop :=
  ∀ s : Session, s.files = t → ∃ s', run step s = (.ok a, s') ∧ s'.files = t'

section Makes

variable {t t₁ t' : FileTree} {a : α} {b : β}

theorem makes_pure (a : α) (t : FileTree) : Makes (pure a : Step ε α) t a t :=
  fun s hs => ⟨s, rfl, hs⟩

theorem makes_say (line : Text) (t : FileTree) : Makes (say line : Step ε Unit) t () t :=
  fun _ hs => ⟨_, run_say line, hs⟩

theorem makes_warn (lines : List Text) (t : FileTree) : Makes (warn lines : Step ε Unit) t () t :=
  fun _ hs => ⟨_, run_warn lines, hs⟩

theorem makes_ofExcept {x : Except ε α} (h : x = .ok a) (t : FileTree) :
    Makes (ofExcept x : Step ε α) t a t :=
  fun s hs => ⟨s, by rw [run_ofExcept, h], hs⟩

/-- What a step makes is where the next one starts. -/
theorem Makes.bind {x : Step ε α} {f : α → Step ε β} (hx : Makes x t a t₁)
    (hf : Makes (f a) t₁ b t') : Makes (x >>= f) t b t' := by
  intro s hs
  obtain ⟨s₁, hrun, hs₁⟩ := hx s hs
  rw [run_bind_of_ok hrun]
  exact hf s₁ hs₁

/-- Looking at the session shows its files. -/
theorem makes_get {f : Session → Step ε β} (hf : ∀ s : Session, s.files = t → Makes (f s) t b t') :
    Makes (get >>= f) t b t' := by
  intro s hs
  rw [run_bind_of_ok run_get]
  exact hf s hs s hs

theorem Makes.adaptExcept {x : Step ε α} (h : Makes x t a t') (report : ε → ε') :
    Makes (x.adaptExcept report : Step ε' α) t a t' := by
  intro s hs
  obtain ⟨s', hrun, hs'⟩ := h s hs
  refine ⟨s', ?_, hs'⟩
  rw [run] at hrun ⊢
  rw [EStateM.adaptExcept]
  rcases hx : x s with ⟨a, s₁⟩ | ⟨e, s₁⟩ <;> rw [hx] at hrun <;> cases hrun
  rfl

theorem makes_onFiles {operation : FileTree → Except FileFailure α × FileTree}
    (h : operation t = (.ok a, t')) (report : FileFailure → ε) :
    Makes (onFiles report operation) t a t' := by
  intro s hs
  refine ⟨{ s with files := t' }, ?_, rfl⟩
  rw [run, onFiles, hs, h]

end Makes

end Typings.Session
