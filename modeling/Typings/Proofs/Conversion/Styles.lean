import Typings.Proofs.Conversion.Survey
import Typings.Proofs.Model.Blanked
import Typings.Proofs.PathStyle

/-!
# Surveys in the two path styles

The path style has a say in nothing but import paths and output paths. A survey finds the same
models in both styles, with import paths at the same places.
-/

namespace Typings

open Text

/-- The settings in a path style. -/
def Settings.inStyle (settings : Settings) (style : PathStyle) : Settings :=
  { settings with pathStyle := style }

namespace Conversion

open Session Typings.Path

variable {settings : Settings} {base : Path} {s s' : Session}

/-- Whether two models are one model in the two styles: they are the same but for their import
paths, which they have at the same places, and the path in kebab case of the declaration is made of
the default one segment by segment if there is a small letter in the name. -/
structure Isomorphic (g : Generator) (plain kebab : Model) : Prop where
  blanked : kebab.blanked = plain.blanked
  outputPath : plain.name.any isLowerLetter = true → ∀ output : Path, ∃ folders stem,
    ({ g with style := .default } : Generator).outputPath output plain
        = ⟨output.root, output.segments ++ folders ++ [stem ++ Generator.extension]⟩
      ∧ ({ g with style := .kebab } : Generator).outputPath output kebab = ⟨output.root,
        output.segments ++ folders.map kebabCase ++ [kebabCase stem ++ Generator.extension]⟩

/-- What can be read can be read where the same names stand for models, with the same result but
for the import paths. -/
theorem exists_readModels_blanked {ctx ctx' : ReadContext}
    (himports : ∀ name folder, blankedPath (ctx'.imports.find? name folder)
      = blankedPath (ctx.imports.find? name folder)) (htypes : ctx'.types = ctx.types)
    {sources : List SourceFile} {models : List Model} (h : readModels ctx sources = .ok models) :
    ∃ models', readModels ctx' sources = .ok models'
      ∧ models'.map Model.blanked = models.map Model.blanked := by
  induction sources generalizing models with
  | nil =>
    cases h
    exact ⟨[], rfl, rfl⟩
  | cons source sources ih =>
    rw [readModels] at h
    split at h
    · cases h
    · next m hm =>
      split at h
      · cases h
      · next rest hrest =>
        cases h
        obtain ⟨m', hm', hblanked⟩ := Model.exists_read_blanked himports htypes hm
        obtain ⟨rest', hrest', hblanked'⟩ := ih hrest
        refine ⟨m' :: rest', ?_, ?_⟩
        · rw [readModels, hm', hrest']
        · rw [List.map_cons, List.map_cons, hblanked, hblanked']

/-- Which names stand for models does not depend on the style. -/
theorem blankedPath_find?_inStyle (style : PathStyle) (anchor : Text) (registry : Registry)
    (name folder : Text) :
    blankedPath ((contextOf (settings.inStyle style) anchor registry).imports.find? name folder)
      = blankedPath ((contextOf settings anchor registry).imports.find? name folder) := by
  rw [ImportPaths.find?, ImportPaths.find?, blankedPath, blankedPath, Option.map_map,
    Option.map_map]
  rfl

/-- A survey that succeeds in one style does so in any other, and finds the same models but for
their import paths. -/
theorem survey_inStyle {found : Survey} (h : Session.run (survey settings base) s = (.ok found, s'))
    (style : PathStyle) : ∃ models s₁,
      Session.run (survey (settings.inStyle style) base) s = (.ok { found with models }, s₁)
      ∧ models.map Model.blanked = found.models.map Model.blanked := by
  have hsurvey : survey (settings.inStyle style) base = (do
      let roots ← (Discovery.enterRoots settings base).adaptExcept .files
      let anchor ← ofExcept ((Discovery.sharedAncestor roots).mapError .ancestor)
      let registry ← discover settings roots
      let models ← ofExcept (modelsOf (settings.inStyle style) anchor registry)
      warn (models.flatMap Model.warnings)
      return { roots, anchor, models }) := rfl
  rw [survey] at h
  rw [hsurvey]
  -- up to the models, both surveys take the same steps
  rcases run_bind_cases h with ⟨roots, s₁, henter, h⟩ | ⟨e, -, herror⟩
  · rw [run_bind_of_ok henter]
    rcases run_bind_ofExcept_cases h with ⟨anchor, hanchor, h⟩ | ⟨e, -, herror, -⟩
    · rw [hanchor, run_bind_of_ok (run_ofExcept _)]
      rcases run_bind_cases h with ⟨registry, s₂, hdiscover, h⟩ | ⟨e, -, herror⟩
      · rw [run_bind_of_ok hdiscover]
        rcases run_bind_ofExcept_cases h with ⟨plain, hplain, h⟩ | ⟨e, -, herror, -⟩
        · obtain ⟨models, hmodels, hblanked⟩ := exists_readModels_blanked
            (blankedPath_find?_inStyle style anchor registry) rfl hplain
          have hmodels : modelsOf (settings.inStyle style) anchor registry = .ok models := hmodels
          rw [run_bind_of_ok (run_warn _)] at h
          cases h
          rw [hmodels, run_bind_of_ok (run_ofExcept _), run_bind_of_ok (run_warn _)]
          exact ⟨models, _, rfl, hblanked⟩
        · cases herror
      · cases herror
    · cases herror
  · cases herror

/-- Where a survey succeeds in one style, it does so in both, and gives models that are the same but
for their import paths, which they have at the same places. The path in kebab case of a declaration
is the default one with each segment below the output directory and the file stem in kebab case,
provided that there is a small letter in the name of the model. -/
theorem survey_isomorphic (hs : s.files.WellFormed) {found : Survey}
    (h : Session.run (survey settings base) s = (.ok found, s')) : ∃ plain kebab,
      (Session.run (survey (settings.inStyle .default) base) s).1
        = .ok { found with models := plain }
      ∧ (Session.run (survey (settings.inStyle .kebab) base) s).1
        = .ok { found with models := kebab }
      ∧ List.Forall₂ (Isomorphic settings.generator) plain kebab := by
  obtain ⟨plain, s₁, hplain, hplain'⟩ := survey_inStyle h .default
  obtain ⟨kebab, s₂, hkebab, hkebab'⟩ := survey_inStyle h .kebab
  refine ⟨plain, kebab, by rw [hplain], by rw [hkebab], ?_⟩
  obtain ⟨hgrown, hsurveyed⟩ := survey_cases hplain
  have hfoldered : ∀ m ∈ plain, Foldered m.folder m.name := fun m hm =>
    (hsurveyed _ rfl).foldered hs hgrown hm
  have hsame : List.Forall₂ (fun m m' : Model => m.blanked = m'.blanked) plain kebab := by
    refine List.forall₂_map_left_iff.mp (List.forall₂_map_right_iff.mp ?_)
    rw [List.forall₂_eq_eq_eq, hplain', hkebab']
  refine ((List.forall₂_and_left plain kebab).mpr ⟨hfoldered, hsame⟩).imp
    fun m m' hm => ⟨hm.2.symm, ?_⟩
  intro hname output
  obtain ⟨hname', hfolder⟩ := Model.name_folder_of_blanked hm.2.symm
  obtain ⟨folders, stem, hdefault, hkebab⟩ :=
    settings.generator.exists_outputPaths hm.1 hname output
  exact ⟨folders, stem, hdefault, (Generator.outputPath_congr _ hname' hfolder output).trans hkebab⟩

/-! ### A survey in both styles -/

/-- A tree with two sources, one of them in a folder below the root. -/
def orders : FileTree :=
  { entries :=
      [(["b".toList], .directory),
       (["b".toList, "Order.cs".toList], .file (encode "public class Order\n".toList)),
       (["b".toList, "SalesData".toList], .directory),
       (["b".toList, "SalesData".toList, "OrderLine.cs".toList],
        .file (encode "public class OrderLine : Order\n".toList))] }

theorem wellFormed_orders : orders.WellFormed :=
  ⟨by decide, by decide, by decide⟩

/-- The survey of `orders` finds two models in both styles, with small letters in both names. -/
theorem survey_isomorphic_orders : ∃ plain kebab,
    List.Forall₂ (Isomorphic ({} : Settings).generator) plain kebab
      ∧ plain.length = 2 ∧ ∀ m ∈ plain, m.name.any isLowerLetter = true := by
  have hcheck : (Session.run (survey {} (ofText "/b".toList)) { files := orders }).1.toOption.map
      (fun found => decide (found.models.length = 2
        ∧ ∀ m ∈ found.models, m.name.any isLowerLetter = true)) = some true := by
    decide +kernel
  rcases hrun : Session.run (survey {} (ofText "/b".toList)) { files := orders } with
    ⟨e | found, s'⟩
  · rw [hrun] at hcheck
    cases hcheck
  · rw [hrun] at hcheck
    obtain ⟨plain, kebab, hplain, -, hisomorphic⟩ := survey_isomorphic wellFormed_orders hrun
    have hdefault : ({} : Settings).inStyle .default = {} := rfl
    rw [hdefault, hrun] at hplain
    obtain rfl : found.models = plain := congrArg Survey.models (Except.ok.inj hplain)
    exact ⟨found.models, kebab, hisomorphic, of_decide_eq_true (Option.some.inj hcheck)⟩

end Conversion

end Typings
