import Typings.Proofs.Conversion.FinalTree
import Typings.Proofs.Conversion.Progress

/-!
# What a run that succeeds has done

A run that succeeds has found its output to hold no root, and it has left files that can be read
along their paths. Two runs that prepared equal trees and wrote equal declarations leave equal
trees.
-/

namespace Typings.Conversion

open Discovery FileTree Typings.Path Session Text

variable {settings : Settings} {base : Path} {s s' : Session}

/-! ## The phases -/

/-- A survey creates no base directory. -/
theorem survey_unentered (hnone : hasRoots settings = false) {r : Except Failure Survey}
    (h : Session.run (survey settings base) s = (r, s')) : s'.files = s.files := by
  have henter : ∀ {r s₁}, Session.run (enterRoots settings base) s = (r, s₁) →
      s₁.files = s.files := by
    intro r s₁ henter
    rw [enterRoots, if_neg (by simp [hnone]), run_bind_of_ok (run_say _)] at henter
    cases henter
    rfl
  rw [survey] at h
  rcases run_bind_cases h with ⟨roots, s₁, hroots, h⟩ | ⟨e, hroots, -⟩
  · obtain ⟨_, hroots, -⟩ := run_adaptExcept_cases hroots
    rw [← henter hroots]
    rcases run_bind_ofExcept_cases h with ⟨anchor, -, h⟩ | ⟨_, -, -, rfl⟩
    · rcases run_bind_cases h with ⟨registry, s₂, hdiscover, h⟩ | ⟨_, hdiscover, -⟩
      · rw [← (discover_cases hdiscover).1]
        rcases run_bind_ofExcept_cases h with ⟨models, -, h⟩ | ⟨_, -, -, rfl⟩
        · rw [run_bind_of_ok (run_warn _)] at h
          cases h
          rfl
        · rfl
      · exact (discover_cases hdiscover).1
    · rfl
  · obtain ⟨_, hroots, -⟩ := run_adaptExcept_cases hroots
    exact henter hroots

/-- An output that was prepared holds no root and is a directory. -/
theorem prepareOutput_ok {roots : List Path} {output : Path}
    (h : Session.run (prepareOutput settings base roots) s = (.ok output, s')) :
    (s.files.Distinct → s'.files.Distinct)
    ∧ (settings.convertDirectory.isGiven = true →
      heldRoot? output roots = none ∧ s'.files.isDirectory output = true) := by
  have hlast : ∀ {given : Path} {log : List Text}, Session.run (do
      onFiles Failure.files (replaceDirectory given)
      return given) { s with log } = (.ok output, s') →
      given = output ∧ replaceDirectory given s.files = (.ok (), s'.files) := by
    intro given log h
    rcases run_bind_cases h with ⟨_, s₁, hfiles, h⟩ | ⟨_, -, herror⟩
    · cases h
      obtain ⟨done, hreplace, hdone⟩ := run_onFiles_cases hfiles
      exact ⟨rfl, (mapError_eq_ok.mp hdone.symm) ▸ hreplace⟩
    · cases herror
  rw [prepareOutput] at h
  rcases run_bind_ofExcept_cases h with ⟨given, hgiven, h⟩ | ⟨_, -, herror, -⟩
  · cases given with
    | none =>
      dsimp only at h
      rw [run_bind_of_ok (run_say _)] at h
      cases h
      exact ⟨id, by simp [isGiven_of_outputOf hgiven]⟩
    | some given =>
      dsimp only at h
      split at h
      · rw [run_bind, run_throw] at h
        cases h
      · next hfree =>
        rw [run_bind_of_ok run_get] at h
        split at h
        · rw [run_bind, run_throw] at h
          cases h
        · rw [run_bind_of_ok run_get] at h
          have hreplaced : given = output
              ∧ replaceDirectory given s.files = (.ok (), s'.files) := by
            split at h
            · rw [run_bind_of_ok (run_say _)] at h
              exact hlast h
            · rw [run_bind_of_ok (run_say _)] at h
              exact hlast h
          obtain ⟨rfl, hreplace⟩ := hreplaced
          exact ⟨replaceDirectory_distinct hreplace,
            fun _ => ⟨Option.eq_none_iff_forall_ne_some.mpr hfree,
              isDirectory_of_replaceDirectory hreplace⟩⟩
  · cases herror

/-- What stands after a declaration was written. -/
theorem emit_ok {g : Generator} {output path : Path} {m : Model}
    (h : Session.run (emit g output m) s = (.ok path, s')) :
    (g.outputPath output m).Fits
    ∧ ∃ bytes, WrittenAt (g.outputPath output m) bytes s.files s'.files := by
  rcases emit_cases h with ⟨-, content, -, hwritten⟩ | ⟨_, herror, -⟩
  · refine ⟨?_, _, hwritten⟩
    rw [emit, run_bind_of_ok (run_say _)] at h
    rcases run_bind_ofExcept_cases h with ⟨content, -, h⟩ | ⟨_, -, herror, -⟩
    · rcases run_bind_cases h with ⟨_, s₁, hopen, h⟩ | ⟨_, -, herror⟩
      · cases h
        obtain ⟨done, hfiles, hdone⟩ := run_onFiles_cases hopen
        exact fits_of_openForWrite ((mapError_eq_ok.mp hdone.symm) ▸ hfiles)
      · cases herror
    · cases herror
  · cases herror

/-- When all declarations were written, nothing was taken away, and each of the files can be
read. -/
theorem mapM_emit_ok {g : Generator} {output : Path} {models : List Model} {paths : List Path}
    (h : Session.run (models.mapM (emit g output)) s = (.ok paths, s')) :
    s.files.Within s'.files
    ∧ (∀ m ∈ models, ∃ bytes, s'.files.read (g.outputPath output m) = .ok bytes)
    ∧ (s.files.Distinct → s'.files.Distinct) := by
  induction models generalizing s paths with
  | nil =>
    cases h
    exact ⟨Within.refl _, by simp, id⟩
  | cons m models ih =>
    rw [List.mapM_cons] at h
    rcases run_bind_cases h with ⟨path, s₁, hemit, h⟩ | ⟨_, -, herror⟩
    · obtain ⟨hfits, bytes, hwritten⟩ := emit_ok hemit
      rcases run_bind_cases h with ⟨rest, s₂, hrest, h⟩ | ⟨_, -, herror⟩
      · cases h
        obtain ⟨hwithin, hread, hdistinct⟩ := ih hrest
        refine ⟨hwritten.within.trans hwithin, fun n hn => ?_,
          fun hs => hdistinct (hwritten.distinct hs)⟩
        rcases List.mem_cons.mp hn with rfl | hn
        · exact hwithin.read (hwritten.read hfits)
        · exact hread n hn
      · cases herror
    · cases herror

/-! ## The whole run -/

/-- What a run that succeeds has gone through: the tree `t` after the survey, and the tree `t₁` in
which the output was prepared. -/
structure Succeeded (settings : Settings) (base : Path) (s s' : FileTree) (c : Conversion)
    (t t₁ : FileTree) : Prop where
  grown : GrownBy (LeadsToRoot settings base) s t
  /-- Where no working directory is configured, none is created. -/
  unentered : hasRoots settings = false → t = s
  surveyed : Surveyed settings base t c.toSurvey
  prepared : Prepared settings base t t₁ c.output
  /-- An output that is given holds no root, and it can be entered. -/
  entered : settings.convertDirectory.isGiven = true →
    heldRoot? c.output c.roots = none ∧ t₁.isDirectory c.output = true
  written : c.written = c.models.map (settings.generator.outputPath c.output)
  emitted : Emitted settings.generator c.output c.models c.models t₁ s'
  /-- Nothing that was prepared is taken away. -/
  within : t₁.Within s'
  read : ∀ m ∈ c.models, ∃ bytes,
    s'.read (settings.generator.outputPath c.output m) = .ok bytes
  distinct : s.Distinct → s'.Distinct

theorem run_succeeded (hclosed : s.files.Closed) {c : Conversion}
    (h : Session.run (run settings base) s = (.ok c, s')) :
    ∃ t t₁, Succeeded settings base s.files s'.files c t t₁ := by
  rw [run, run_bind_of_ok (run_say _)] at h
  rcases run_bind_cases h with ⟨found, s₁, hsurvey, h⟩ | ⟨_, -, herror⟩
  · obtain ⟨hgrown, hfound⟩ := survey_cases hsurvey
    have hsame : hasRoots settings = false → s₁.files = s.files :=
      fun hnone => (survey_unentered hnone hsurvey :)
    rcases run_bind_cases h with ⟨output, s₂, hprepare, h⟩ | ⟨_, -, herror⟩
    · obtain ⟨hdistinct, hentered⟩ := prepareOutput_ok hprepare
      rcases prepareOutput_cases (hgrown.closed hclosed) hprepare with
        ⟨output, hok, hprepared⟩ | ⟨_, hok, -⟩ | ⟨_, _, hok, -⟩
      · cases hok
        rw [run_bind_of_ok (run_say _)] at h
        rcases run_bind_cases h with ⟨written, s₃, hemit, h⟩ | ⟨_, -, herror⟩
        · rw [run_bind_of_ok (run_say _)] at h
          cases h
          obtain ⟨hwithin, hread, hkept⟩ := mapM_emit_ok hemit
          rcases mapM_emit_cases (fun _ hm => hm) hemit with ⟨hok, hemitted⟩ | ⟨_, _, hok, -⟩
          · cases hok
            exact ⟨s₁.files, s₂.files, hgrown, hsame, hfound found rfl,
              hprepared, hentered, rfl, hemitted, hwithin, hread,
              fun hs => hkept (hdistinct (hgrown.distinct hs))⟩
          · cases hok
        · cases herror
      · cases hok
      · cases hok
    · cases herror
  · cases herror

theorem Succeeded.reached {t t' u u₁ : FileTree} {c : Conversion}
    (h : Succeeded settings base t t' c u u₁) :
    Reached settings base c.toSurvey c.output c.models u t' :=
  ⟨h.surveyed, u₁, h.prepared, h.emitted⟩

/-- What a run has found to be there after its survey was there before, or leads to a root. -/
theorem Succeeded.keptOrMade {t t' u u₁ : FileTree} {c : Conversion}
    (h : Succeeded settings base t t' c u u₁) (q : List Text) :
    KeptOrMade (LeadsToRoot settings base q) (t.find? q) (u.find? q) :=
  keptOrMade_of_reached (s := { files := t }) h.grown h.reached q

/-- The settings leave no choice of the output. -/
theorem Prepared.output_unique {t t₁ u u₁ : FileTree} {output output' : Path}
    (h : Prepared settings base t t₁ output) (h' : Prepared settings base u u₁ output') :
    output' = output := by
  rcases h with ⟨hnone, rfl, -⟩ | ⟨hgiven, -⟩ <;> rcases h' with ⟨hnone', rfl, -⟩ | ⟨hgiven', -⟩
  · rfl
  · rw [hnone] at hgiven'
    cases hgiven'
  · rw [hgiven] at hnone'
    cases hnone'
  · rw [hgiven] at hgiven'
    cases hgiven'
    rfl

theorem Prepared.closed {t t' : FileTree} {output : Path}
    (h : Prepared settings base t t' output) (ht : t.Closed) : t'.Closed := by
  rcases h with ⟨-, -, rfl⟩ | ⟨-, hreplaced, -⟩
  · exact ht
  · exact hreplaced.closed ht

theorem Succeeded.closed {t t' u u₁ : FileTree} {c : Conversion}
    (h : Succeeded settings base t t' c u u₁) (ht : t.Closed) : t'.Closed :=
  h.emitted.closed (h.prepared.closed (h.grown.closed ht))

/-- An output that is given was replaced. -/
theorem Succeeded.replaced {t t' u u₁ : FileTree} {c : Conversion}
    (h : Succeeded settings base t t' c u u₁) (hgiven : settings.convertDirectory.isGiven = true) :
    outputOf settings base = .ok (some c.output) ∧ ReplacedFor c.output u u₁
      ∧ u₁.Holds c.output := by
  rcases h.prepared with ⟨hnone, -⟩ | hreplaced
  · simp [isGiven_of_outputOf hnone] at hgiven
  · exact hreplaced

/-- No file is on the way to an output that is given. -/
theorem Succeeded.passes {t t' u u₁ : FileTree} {c : Conversion}
    (h : Succeeded settings base t t' c u u₁) (hgiven : settings.convertDirectory.isGiven = true) :
    u.Passes c.output := by
  obtain ⟨houtput, hreplaced, -⟩ := h.replaced hgiven
  exact hreplaced.passes (isPlain_of_outputOf houtput) (h.entered hgiven).2

/-- All roots are directories after the survey. -/
theorem Surveyed.isDirectory {files : FileTree} {found : Survey}
    (h : Surveyed settings base files found) {root : Path} (hroot : root ∈ found.roots) :
    files.isDirectory root = true := by
  obtain ⟨registry, hscan, -⟩ := h.models
  obtain ⟨hlocate, hdir⟩ := directory_of_scanAll hscan hroot
  rw [FileTree.isDirectory, status, hlocate]
  dsimp only
  rw [hdir]

/-! ## Two runs -/

section Compared

variable {t t₁ t' u u₁ u' : FileTree} {output : Path} {g : Generator} {models models' : List Model}

/-- What was found at and below an output that is given, and on the way to it, makes no difference
once it is prepared. -/
theorem Prepared.find?_eq (h : Prepared settings base t t₁ output)
    (h' : Prepared settings base u u₁ output) (ht : t.Closed) (hu : u.Closed) {q : List Text}
    (hsame : (settings.convertDirectory.isGiven = true →
      ¬output.segments <+: q ∧ ¬q <+: output.segments) → u.find? q = t.find? q) :
    u₁.find? q = t₁.find? q := by
  rcases h with ⟨hnone, -, rfl⟩ | ⟨hgiven, hreplaced, hholds⟩
  · rcases h' with ⟨-, -, rfl⟩ | ⟨hgiven, -, -⟩
    · exact hsame (by simp [isGiven_of_outputOf hnone])
    · rw [hnone] at hgiven
      cases hgiven
  · rcases h' with ⟨hnone, -, -⟩ | ⟨-, hreplaced', hholds'⟩
    · rw [hnone] at hgiven
      cases hgiven
    · have hplain := isPlain_of_outputOf hgiven
      by_cases habove : q <+: output.segments
      · rw [hreplaced.directory_above hplain hholds ht habove,
          hreplaced'.directory_above hplain hholds' hu habove]
      by_cases hbelow : output.segments <+: q
      · have hne : q ≠ output.segments := fun heq => habove (heq ▸ List.prefix_rfl)
        rw [hreplaced.find?_below hplain hbelow hne, hreplaced'.find?_below hplain hbelow hne]
      · have hkept : ∀ {v v₁ : FileTree}, ReplacedFor output v v₁ → v₁.find? q = v.find? q := by
          intro v v₁ hv
          rcases hv.find?_away hbelow with heq | ⟨-, -, hway⟩
          · exact heq
          · exact absurd ((goesThrough_iff_of_isPlain hplain).mp hway) habove
        rw [hkept hreplaced, hkept hreplaced', hsame fun _ => ⟨hbelow, habove⟩]

/-- What is found at a place after the declarations were written depends only on what was found
there before, on the declaration that goes there last, and on whether one goes below it. -/
theorem find?_of_emitted (h : Emitted g output models models t t')
    (h' : Emitted g output models' models' u u') {q : List Text}
    (hstart : lastAt? g output q models = none → u.find? q = t.find? q)
    (hlast : (lastAt? g output q models').map g.generate
      = (lastAt? g output q models).map g.generate)
    (hways : (∃ m ∈ models', (g.outputPath output m).parent.GoesThrough q)
      ↔ ∃ m ∈ models, (g.outputPath output m).parent.GoesThrough q) :
    u'.find? q = t'.find? q := by
  cases hm : lastAt? g output q models with
  | some m =>
    obtain ⟨m', hm', hgenerate⟩ := Option.map_eq_some_iff.mp (hlast.trans (by rw [hm]; rfl))
    obtain ⟨content, hcontent, hfile⟩ := h.last q m hm
    obtain ⟨content', hcontent', hfile'⟩ := h'.last q m' hm'
    rw [hgenerate, hcontent] at hcontent'
    cases hcontent'
    rw [hfile, hfile']
  | none =>
    have hm' : lastAt? g output q models' = none :=
      Option.map_eq_none_iff.mp (hlast.trans (by rw [hm]; rfl))
    have hkept := keptOrMade_of (h.others q hm) fun hway _ => h.ways q hm hway
    have hkept' := keptOrMade_of (h'.others q hm') fun hway _ => h'.ways q hm' hway
    rw [hstart hm] at hkept'
    exact hkept.unique hkept' hways

end Compared

end Typings.Conversion
