import Typings.Proofs.Conversion.Emission
import Typings.Proofs.Conversion.Survey

/-!
# The phases of a conversion

A run surveys the roots, prepares the output and emits the declarations. The output is touched only
once the survey is over and the output is known to hold no root.
-/

namespace Typings.Conversion

open Discovery FileTree Session Text

variable {settings : Settings} {base : Path} {s s' : Session}

/-! ## The output -/

/-- How an output is prepared: the base directory with nothing touched, or a directory that the
settings give, which was replaced. -/
def Prepared (settings : Settings) (base : Path) (t t' : FileTree) (output : Path) : Prop :=
  (outputOf settings base = .ok none ∧ output = base ∧ t' = t)
  ∨ (outputOf settings base = .ok (some output) ∧ ReplacedFor output t t' ∧ t'.Holds output)

/-- An output that the settings give has no double dots. -/
theorem isPlain_of_outputOf {output : Path} (h : outputOf settings base = .ok (some output)) :
    output.IsPlain := by
  rw [outputOf] at h
  split at h
  · split at h
    · split at h
      · cases h
      · dsimp only at h
        split at h
        · cases h
        · cases h
          exact Path.isPlain_resolve _
    · cases h
  · cases h

/-- Whether there is an output besides the base directory is said by the settings. -/
theorem isGiven_of_outputOf {given : Option Path} (h : outputOf settings base = .ok given) :
    settings.convertDirectory.isGiven = given.isSome := by
  rw [outputOf] at h
  split at h
  · next hgiven =>
    rw [hgiven]
    split at h
    · split at h
      · cases h
      · dsimp only at h
        split at h
        · cases h
        · cases h
          rfl
    · cases h
  · next hnot =>
    cases h
    simpa using hnot

/-- The output is the one that the settings give, and the base directory if they give none. -/
theorem Prepared.output {t t' : FileTree} {output : Path}
    (h : Prepared settings base t t' output) :
    outputOf settings base = .ok (if settings.convertDirectory.isGiven then some output else none)
    ∧ (settings.convertDirectory.isGiven = false → output = base) := by
  rcases h with ⟨houtput, hbase, -⟩ | ⟨houtput, -⟩
  · simp [isGiven_of_outputOf houtput, houtput, hbase]
  · simp [isGiven_of_outputOf houtput, houtput]

/-- What preparing the output may come to: it fails and touches nothing, it fails when the directory
is replaced, or it leaves the output prepared. -/
def Preparation (settings : Settings) (base : Path) (t t' : FileTree) (r : Except Failure Path) :
    Prop :=
  (∃ output, r = .ok output ∧ Prepared settings base t t' output)
  ∨ (∃ e, r = .error e ∧ t' = t)
  ∨ ∃ e output, r = .error e ∧ e.isRejection = false ∧ outputOf settings base = .ok (some output)
    ∧ (ReplacedFor output t t' ∨ GrownBy output.GoesThrough t t')

/-- Replacing an output that the settings give leaves it prepared, or fails on the files. What was
logged before does not matter. -/
theorem replaceOutput_cases (hclosed : s.files.Closed) {output : Path}
    (hgiven : outputOf settings base = .ok (some output)) {log : List Text}
    {r : Except Failure Path}
    (h : Session.run (do
      onFiles .files (replaceDirectory output)
      return output) { s with log } = (r, s')) :
    Preparation settings base s.files s'.files r := by
  have hplain := isPlain_of_outputOf hgiven
  rcases run_bind_cases h with ⟨_, s₁, hfiles, h⟩ | ⟨e, hfiles, rfl⟩
  · cases h
    obtain ⟨done, hreplace, hdone⟩ := run_onFiles_cases hfiles
    rcases replaceDirectory_cases hplain hclosed hreplace with ⟨-, hreplaced, hholds⟩ | ⟨hne, -⟩
    · exact Or.inl ⟨output, rfl, Or.inr ⟨hgiven, hreplaced, hholds⟩⟩
    · exact absurd (mapError_eq_ok.mp hdone.symm) hne
  · obtain ⟨done, hreplace, hdone⟩ := run_onFiles_cases hfiles
    rcases replaceDirectory_cases hplain hclosed hreplace with ⟨rfl, -⟩ | ⟨hne, hafter⟩
    · cases hdone
    · cases done with
      | ok => exact absurd rfl hne
      | error failure =>
        cases hdone
        exact Or.inr (Or.inr ⟨_, output, rfl, rfl, hgiven, hafter⟩)

/-- The output is looked at before it is touched: one that holds a root, or that cannot be looked
at, is left alone. -/
theorem prepareOutput_cases (hclosed : s.files.Closed) {roots : List Path} {r : Except Failure Path}
    (h : Session.run (prepareOutput settings base roots) s = (r, s')) :
    Preparation settings base s.files s'.files r := by
  rw [prepareOutput] at h
  rcases run_bind_ofExcept_cases h with ⟨given, hgiven, h⟩ | ⟨e, -, rfl, rfl⟩
  · cases given with
    | none =>
      dsimp only at h
      rw [run_bind_of_ok (run_say _)] at h
      cases h
      exact Or.inl ⟨base, rfl, Or.inl ⟨hgiven, rfl, rfl⟩⟩
    | some output =>
      dsimp only at h
      split at h
      · rw [run_bind, run_throw] at h
        cases h
        exact Or.inr (Or.inl ⟨_, rfl, rfl⟩)
      · rw [run_bind_of_ok run_get] at h
        split at h
        · rw [run_bind, run_throw] at h
          cases h
          exact Or.inr (Or.inl ⟨_, rfl, rfl⟩)
        · rw [run_bind_of_ok run_get] at h
          split at h
          · rw [run_bind_of_ok (run_say _)] at h
            exact replaceOutput_cases hclosed hgiven h
          · rw [run_bind_of_ok (run_say _)] at h
            exact replaceOutput_cases hclosed hgiven h
  · exact Or.inr (Or.inl ⟨e, rfl, rfl⟩)

/-! ## The whole run -/

/-- How far a run has come with the output that it was to write. -/
structure Reached (settings : Settings) (base : Path) (found : Survey) (output : Path)
    (done : List Model) (t t' : FileTree) : Prop where
  surveyed : Surveyed settings base t found
  written : ∃ t₁, Prepared settings base t t₁ output
    ∧ Emitted settings.generator output found.models done t₁ t'

/-- A run fails before the output is touched, fails when the output is replaced, or reaches the
declarations and writes all of them unless one cannot be written. -/
theorem run_cases (hclosed : s.files.Closed) {r : Except Failure Conversion}
    (h : Session.run (run settings base) s = (r, s')) :
    ∃ t, GrownBy (LeadsToRoot settings base) s.files t
      ∧ ((∃ e, r = .error e ∧ s'.files = t)
      ∨ (∃ e output, r = .error e ∧ e.isRejection = false
        ∧ outputOf settings base = .ok (some output)
        ∧ (ReplacedFor output t s'.files ∨ GrownBy output.GoesThrough t s'.files))
      ∨ (∃ e found output done, r = .error e ∧ e.isRejection = false ∧ done <+: found.models
        ∧ Reached settings base found output done t s'.files)
      ∨ ∃ c, r = .ok c ∧ c.written = c.models.map (settings.generator.outputPath c.output)
        ∧ Reached settings base c.toSurvey c.output c.models t s'.files) := by
  rw [run, run_bind_of_ok (run_say _)] at h
  rcases run_bind_cases h with ⟨found, s₁, hsurvey, h⟩ | ⟨e, hsurvey, rfl⟩
  · obtain ⟨hgrown, hfound⟩ := survey_cases hsurvey
    have hfound := hfound found rfl
    -- all that follows starts from the tree that the survey leaves
    refine ⟨s₁.files, hgrown, ?_⟩
    rcases run_bind_cases h with ⟨output, s₂, hprepare, h⟩ | ⟨e, hprepare, rfl⟩
    · rcases prepareOutput_cases (hgrown.closed hclosed) hprepare with
        ⟨output, hok, hprepared⟩ | ⟨e, hok, -⟩ | ⟨e, output, hok, -⟩
      · cases hok
        rw [run_bind_of_ok (run_say _)] at h
        rcases run_bind_cases h with ⟨written, s₃, hemit, h⟩ | ⟨e, hemit, rfl⟩
        · rw [run_bind_of_ok (run_say _)] at h
          cases h
          rcases mapM_emit_cases (fun _ hm => hm) hemit with ⟨hok, hemitted⟩ | ⟨e, done, hok, -⟩
          · cases hok
            exact Or.inr (Or.inr (Or.inr ⟨_, rfl, rfl, hfound, s₂.files, hprepared, hemitted⟩))
          · cases hok
        · rcases mapM_emit_cases (fun _ hm => hm) hemit with
            ⟨hok, -⟩ | ⟨e, done, hok, he, hdone, hemitted⟩
          · cases hok
          · cases hok
            exact Or.inr (Or.inr (Or.inl ⟨e, found, output, done, rfl, he, hdone, hfound,
              s₂.files, hprepared, hemitted⟩))
      · cases hok
      · cases hok
    · rcases prepareOutput_cases (hgrown.closed hclosed) hprepare with
        ⟨output, hok, -⟩ | ⟨e, hok, hsame⟩ | ⟨e, output, hok, he, hgiven, hafter⟩
      · cases hok
      · cases hok
        exact Or.inl ⟨e, rfl, hsame⟩
      · cases hok
        exact Or.inr (Or.inl ⟨e, output, rfl, he, hgiven, hafter⟩)
  · exact ⟨s'.files, (survey_cases hsurvey).1, Or.inl ⟨e, rfl, rfl⟩⟩

/-- A run that succeeds has written the declarations of all models that it found. -/
theorem run_ok (hclosed : s.files.Closed) {c : Conversion}
    (h : Session.run (run settings base) s = (.ok c, s')) :
    ∃ t, GrownBy (LeadsToRoot settings base) s.files t
      ∧ c.written = c.models.map (settings.generator.outputPath c.output)
      ∧ Reached settings base c.toSurvey c.output c.models t s'.files := by
  obtain ⟨t, hgrown, hcases⟩ := run_cases hclosed h
  rcases hcases with ⟨_, hok, -⟩ | ⟨_, _, hok, -⟩ | ⟨_, _, _, _, hok, -⟩
    | ⟨c, hok, hwritten, hreached⟩
  · cases hok
  · cases hok
  · cases hok
  · cases hok
    exact ⟨t, hgrown, hwritten, hreached⟩

end Typings.Conversion
