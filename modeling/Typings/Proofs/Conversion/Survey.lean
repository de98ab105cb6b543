import Typings.Conversion
import Typings.Proofs.Discovery.Roots
import Typings.Proofs.Discovery.Scan
import Typings.Proofs.Model.ImportPath
import Typings.Proofs.Model.Reader

/-!
# Surveys

A survey makes nothing but directories on the way to the roots. If it succeeds, all roots are
directories, and the models are those of all sources, in the order of the scan.
-/

namespace Typings.Conversion

open Discovery FileTree Typings.Path Session Text

variable {settings : Settings} {base : Path} {s s' : Session}

/-- What a survey says about the files that it leaves. -/
structure Surveyed (settings : Settings) (base : Path) (files : FileTree) (found : Survey) :
    Prop where
  roots : rootsOf settings base = found.roots.map .ok
  anchor : sharedAncestor found.roots = .ok found.anchor
  models : ∃ registry : Registry,
    scanAll files settings.extension? found.roots = (registry.entries, none)
    ∧ modelsOf settings found.anchor registry = .ok found.models

/-- Looking for sources changes no file. -/
theorem discover_cases {roots : List Path} {r : Except Failure Registry}
    (h : Session.run (discover settings roots) s = (r, s')) :
    s'.files = s.files ∧ ∀ registry, r = .ok registry →
      scanAll s.files settings.extension? roots = (registry.entries, none) := by
  rw [discover, run_bind_of_ok run_get] at h
  rcases hscan : scanAll s.files settings.extension? roots with ⟨sources, error⟩
  rw [hscan] at h
  have hentries := Registry.entries_ofFiles sources
  rcases hregistry : Registry.ofFiles sources with ⟨registry, warnings⟩
  rw [hregistry] at hentries
  dsimp only at h
  rw [hregistry, run_bind_of_ok (run_warn _)] at h
  cases error with
  | some e =>
    cases h
    exact ⟨rfl, by simp⟩
  | none =>
    cases h
    refine ⟨rfl, fun found hfound => ?_⟩
    cases hfound
    rw [hentries]

/-- A survey makes nothing but directories on the way to the roots. -/
theorem survey_cases {r : Except Failure Survey}
    (h : Session.run (survey settings base) s = (r, s')) :
    GrownBy (LeadsToRoot settings base) s.files s'.files
    ∧ ∀ found, r = .ok found → Surveyed settings base s'.files found := by
  rw [survey] at h
  rcases run_bind_cases h with ⟨roots, s₁, henter, h⟩ | ⟨e, henter, rfl⟩
  · obtain ⟨entered, henter, hok⟩ := run_adaptExcept_cases henter
    obtain ⟨hgrown, hroots⟩ := enterRoots_cases henter
    have hroots := hroots roots (mapError_eq_ok.mp hok.symm)
    -- nothing that follows touches the files
    rcases run_bind_ofExcept_cases h with ⟨anchor, hanchor, h⟩ | ⟨e, -, rfl, rfl⟩
    · rcases run_bind_cases h with ⟨registry, s₂, hdiscover, h⟩ | ⟨e, hdiscover, rfl⟩
      · obtain ⟨hsame, hscan⟩ := discover_cases hdiscover
        rw [← hsame] at hgrown hscan
        rcases run_bind_ofExcept_cases h with ⟨models, hmodels, h⟩ | ⟨e, -, rfl, rfl⟩
        · rw [run_bind_of_ok (run_warn _)] at h
          cases h
          refine ⟨hgrown, fun found hfound => ?_⟩
          cases hfound
          exact ⟨hroots, mapError_eq_ok.mp hanchor, registry, hscan registry rfl, hmodels⟩
        · exact ⟨hgrown, by simp⟩
      · rw [(discover_cases hdiscover).1]
        exact ⟨hgrown, by simp⟩
    · exact ⟨hgrown, by simp⟩
  · obtain ⟨entered, henter, -⟩ := run_adaptExcept_cases henter
    exact ⟨(enterRoots_cases henter).1, by simp⟩

/-! ## Models and their sources -/

/-- Every model is read from the source that stands where it stands. -/
theorem forall₂_of_readModels {context : ReadContext} {sources : List SourceFile}
    {models : List Model} (h : readModels context sources = .ok models) :
    List.Forall₂ (fun source m => Model.read context source = .ok m) sources models := by
  induction sources generalizing models with
  | nil =>
    cases h
    exact List.Forall₂.nil
  | cons source sources ih =>
    rw [readModels] at h
    split at h
    · cases h
    · next m hread =>
      split at h
      · cases h
      · next rest hrest =>
        cases h
        exact List.Forall₂.cons hread (ih hrest)

/-- Sources that can be read one by one can be read together. -/
theorem exists_readModels {context : ReadContext} {sources : List SourceFile}
    (h : ∀ source ∈ sources, ∃ m, Model.read context source = .ok m) :
    ∃ models, readModels context sources = .ok models := by
  induction sources with
  | nil => exact ⟨[], rfl⟩
  | cons source sources ih =>
    obtain ⟨m, hm⟩ := h source List.mem_cons_self
    obtain ⟨models, hmodels⟩ := ih fun other hother => h other (List.mem_cons_of_mem _ hother)
    exact ⟨m :: models, by rw [readModels, hm, hmodels]⟩

/-- What is on the right of a relation of lists is related to something on the left. -/
theorem exists_of_forall₂ {α β : Type} {R : α → β → Prop} {xs : List α} {ys : List β}
    (h : List.Forall₂ R xs ys) {y : β} (hy : y ∈ ys) : ∃ x ∈ xs, R x y := by
  induction h with
  | nil => simp at hy
  | cons hxy _ ih =>
    rcases List.mem_cons.mp hy with rfl | hy
    · exact ⟨_, List.mem_cons_self, hxy⟩
    · obtain ⟨x, hx, hxy⟩ := ih hy
      exact ⟨x, List.mem_cons_of_mem _ hx, hxy⟩

/-- Related lists have related first members of a kind that the relation does not change. -/
theorem find?_of_forall₂ {α β : Type} {R : α → β → Prop} {xs : List α} {ys : List β}
    (h : List.Forall₂ R xs ys) {p : α → Bool} {p' : β → Bool} (hp : ∀ x y, R x y → p x = p' y)
    {x : α} (hx : xs.find? p = some x) : ∃ y, ys.find? p' = some y ∧ R x y := by
  induction h with
  | nil => cases hx
  | @cons x' y' xs ys hxy _ ih =>
    rw [List.find?_cons] at hx ⊢
    rw [← hp _ _ hxy]
    cases hfirst : p x' with
    | true =>
      rw [hfirst] at hx
      cases hx
      exact ⟨y', rfl, hxy⟩
    | false =>
      rw [hfirst] at hx
      exact ih hx

/-- What two related lists are read as is related as what their members are read as. -/
theorem forall₂_of_forall₂ {α α' β β' : Type} {R : α → α' → Prop} {P : α → β → Prop}
    {P' : α' → β' → Prop} {Q : β → β' → Prop}
    (hsquare : ∀ x x' y y', R x x' → P x y → P' x' y' → Q y y') {xs : List α} {xs' : List α'}
    {ys : List β} {ys' : List β'} (h : List.Forall₂ R xs xs') (hp : List.Forall₂ P xs ys)
    (hp' : List.Forall₂ P' xs' ys') : List.Forall₂ Q ys ys' := by
  induction h generalizing ys ys' with
  | nil =>
    cases hp
    cases hp'
    exact List.Forall₂.nil
  | cons hx _ ih =>
    cases hp with
    | cons hy hp =>
      cases hp' with
      | cons hy' hp' => exact List.Forall₂.cons (hsquare _ _ _ _ hx hy hy') (ih hp hp')

/-- What the sources of a registry are read with. -/
def contextOf (settings : Settings) (anchor : Text) (registry : Registry) : ReadContext :=
  { imports := { registry, anchor, style := settings.pathStyle } }

theorem forall₂_of_modelsOf {anchor : Text} {registry : Registry} {models : List Model}
    (h : modelsOf settings anchor registry = .ok models) :
    List.Forall₂ (fun source m => Model.read (contextOf settings anchor registry) source = .ok m)
      registry.entries models :=
  forall₂_of_readModels h

/-- The models of a registry have its names. -/
theorem map_name_of_modelsOf {anchor : Text} {registry : Registry} {models : List Model}
    (h : modelsOf settings anchor registry = .ok models) :
    models.map Model.name = registry.names := by
  refine List.forall₂_eq_eq_eq.le _ _ (List.forall₂_map_left_iff.mpr
    (List.forall₂_map_right_iff.mpr ((forall₂_of_modelsOf h).flip.imp fun m source hm => ?_)))
  exact (Model.name_folder_of_read hm).1

/-- Where two registries answer with the same names and folders, sources with the same lines are
read alike. -/
theorem read_contextOf_eq {anchor : Text} {registry registry' : Registry}
    (hlookup : ∀ name, (registry'.find? name).map (fun file => (file.name, file.folder))
      = (registry.find? name).map fun file => (file.name, file.folder)) {a b : SourceFile}
    (hname : b.name = a.name) (hfolder : b.folder = a.folder) (hlines : b.lines = a.lines) :
    Model.read (contextOf settings anchor registry') b
      = Model.read (contextOf settings anchor registry) a := by
  have himports : ∀ name folder,
      (contextOf settings anchor registry').imports.find? name folder
        = (contextOf settings anchor registry).imports.find? name folder :=
    ImportPaths.find?_congr _ rfl rfl hlookup
  exact Model.read_congr himports rfl hname hfolder hlines

namespace Surveyed

variable {files : FileTree} {found : Survey}

/-- Every place on the way to a root is a directory. -/
theorem directory (h : Surveyed settings base files found) {q : List Text}
    (hq : LeadsToRoot settings base q) : files.find? q = some .directory := by
  obtain ⟨root, hroot, hway⟩ := hq
  obtain ⟨registry, hscan, -⟩ := h.models
  rw [h.roots] at hroot
  obtain ⟨entered, hentered, heq⟩ := List.mem_map.mp hroot
  cases heq
  obtain ⟨hlocate, hdir⟩ := directory_of_scanAll hscan hentered
  exact locate_through_directory hlocate hdir hway

/-- In a tree that has grown from one whose entries are named, every model has the name and the
folder of a source file, and the file is reached by names. -/
theorem exists_sourceOf (h : Surveyed settings base files found) {t : FileTree} (ht : t.WellFormed)
    {allowed : List Text → Prop} (hgrown : GrownBy allowed t files) {m : Model}
    (hm : m ∈ found.models) : ∃ spelled root names lines, (∀ s ∈ names, IsName s)
      ∧ m.name = (sourceOf spelled root names lines).name
      ∧ m.folder = (sourceOf spelled root names lines).folder := by
  obtain ⟨registry, hscan, hmodels⟩ := h.models
  obtain ⟨source, hsource, hread⟩ := exists_of_forall₂ (forall₂_of_readModels hmodels) hm
  have hscanned : source ∈ (scanAll files settings.extension? found.roots).1 := by
    rw [hscan]
    exact hsource
  obtain ⟨root, -, spelled, names, bytes, hhas, hload⟩ :=
    hasSource_of_mem_scanAll (hgrown.distinct ht.distinct) hscanned
  obtain ⟨lines, -, rfl⟩ := loadSource_ok hload
  have hne : root.place ++ names ≠ [] := by simp [hhas.below]
  have hnamed := ht.named _ (mem_of_find? hne (hgrown.file_iff.mp hhas.file))
  exact ⟨spelled, root, names, lines, fun s hs => hnamed s (List.mem_append_right _ hs),
    Model.name_folder_of_read hread⟩

/-- Every model has a folder that is made of names. -/
theorem foldered (h : Surveyed settings base files found) {t : FileTree} (ht : t.WellFormed)
    {allowed : List Text → Prop} (hgrown : GrownBy allowed t files) {m : Model}
    (hm : m ∈ found.models) : Foldered m.folder m.name := by
  obtain ⟨spelled, root, names, lines, hnames, hname, hfolder⟩ := h.exists_sourceOf ht hgrown hm
  rw [hname, hfolder]
  exact foldered_sourceOf spelled root lines hnames

end Surveyed

end Typings.Conversion
