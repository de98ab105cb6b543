import Mathlib.Data.List.Perm.Basic
import Typings.Proofs.Conversion.Success
import Typings.Proofs.Discovery.Ancestor
import Typings.Proofs.Discovery.Visit

/-!
# The order of the working directories

The order in which working directories are listed decides neither about the success of a run nor,
where names and output paths are told apart, about anything that it leaves: references forward and
backward are looked up alike, and all roots have the same ancestor.
-/

namespace Typings.Conversion

open Discovery FileTree Typings.Path Session Text

variable {settings other : Settings} {base : Path}

/-- Whether settings list the same working directories, each as often, and agree in all else. -/
structure Reordered (settings other : Settings) : Prop where
  items : settings.directoryItems.Perm other.directoryItems
  /-- A list that is given but blank is not the default. -/
  given : hasRoots other = hasRoots settings
  others : other = { settings with
    workingDirectory := other.workingDirectory, workingDirectories := other.workingDirectories }

namespace Reordered

variable (h : Reordered settings other)

include h

theorem outputOf_eq : outputOf other base = outputOf settings base := by
  rw [h.others]
  rfl

theorem extension?_eq : other.extension? = settings.extension? := by
  rw [h.others]
  rfl

theorem generator_eq : other.generator = settings.generator := by
  rw [h.others]
  rfl

theorem contextOf_eq (anchor : Text) (registry : Registry) :
    contextOf other anchor registry = contextOf settings anchor registry := by
  rw [h.others]
  rfl

theorem prepared {t t' : FileTree} {output : Path} (hprepared : Prepared other base t t' output) :
    Prepared settings base t t' output := by
  rwa [Prepared, h.outputOf_eq] at hprepared

theorem rootsOf_perm : (rootsOf other base).Perm (rootsOf settings base) := by
  rw [rootsOf, rootsOf, h.given]
  split
  · exact (h.items.map _).symm
  · exact List.Perm.refl _

theorem leadsToRoot_iff {q : List Text} :
    LeadsToRoot other base q ↔ LeadsToRoot settings base q := by
  simp only [LeadsToRoot, h.rootsOf_perm.mem_iff]

theorem symm : Reordered other settings := by
  refine ⟨h.items.symm, h.given.symm, ?_⟩
  rw [h.others]

/-- Items that all stand for roots do so in any order. -/
theorem exists_roots {roots : List Path} (hroots : rootsOf settings base = roots.map .ok) :
    ∃ roots' : List Path, rootsOf other base = roots'.map .ok ∧ roots'.Perm roots := by
  have hitems : List.Forall₂ (fun item root => item = .ok root) (rootsOf settings base) roots := by
    rw [hroots, List.forall₂_map_left_iff]
    exact List.forall₂_same.mpr fun _ _ => rfl
  obtain ⟨roots', hitems', hperm⟩ := List.perm_comp_forall₂ h.rootsOf_perm hitems
  exact ⟨roots', List.forall₂_eq_eq_eq.le _ _ (List.forall₂_map_right_iff.mpr hitems'), hperm⟩

end Reordered

/-! ## Success -/

section Again

variable {s s' t p v : FileTree} {c : Conversion} {roots : List Path}
  (h : Succeeded settings base s s' c t p) (hother : Reordered settings other)
  (hs : s.WellFormed) (hroots : rootsOf other base = roots.map .ok) (hperm : roots.Perm c.roots)

include h hother hroots

section Entered

variable (hgrown : GrownBy (LeadsToRoot other base) s v)
  (hdirs : ∀ root ∈ roots, v.isDirectory root = true)

include hgrown hdirs

/-- Once the roots are entered, the trees are equal. -/
theorem find?_entered_eq (q : List Text) : v.find? q = t.find? q :=
  (h.keptOrMade q).unique (keptOrMade_of_entered hgrown hroots hdirs q) hother.leadsToRoot_iff

include hs hperm

/-- The scan finds the same sources in the order of the roots. -/
theorem scanAll_reordered {sources : List SourceFile}
    (hscan : scanAll t settings.extension? c.roots = (sources, none)) :
    ∃ sources', scanAll v other.extension? roots = (sources', none) ∧ sources'.Perm sources := by
  have hsame := find?_entered_eq h hother hroots hgrown hdirs
  have heach : ∀ root ∈ roots,
      scan v other.extension? root = scan t settings.extension? root := by
    intro root hroot
    rw [hother.extension?_eq]
    refine scan_eq (h.grown.distinct hs.distinct) (hgrown.distinct hs.distinct)
      (h.surveyed.isDirectory (hperm.mem_iff.mp hroot)) (hdirs root hroot)
      (fun spelled names bytes => ?_) fun _ names bytes _ => by rw [hsame]
    exact ⟨fun hhas => ⟨hhas.extension, hhas.below, hhas.named, hsame _ ▸ hhas.file⟩,
      fun hhas => ⟨hhas.extension, hhas.below, hhas.named, (hsame _).symm ▸ hhas.file⟩⟩
  obtain ⟨hnone, rfl⟩ := scanAll_eq_iff.mp hscan
  refine ⟨_, scanAll_eq_iff.mpr ⟨fun root hroot => ?_, rfl⟩, ?_⟩
  · rw [heach root hroot]
    exact hnone root (hperm.mem_iff.mp hroot)
  · exact hperm.flatMap fun root hroot => by rw [heach root hroot]

end Entered

include hperm

/-- The roots can be entered in another order. -/
theorem exists_makes_enterRoots_reordered :
    ∃ v, Makes (enterRoots other base) s roots v
      ∧ ∀ root ∈ roots, v.isDirectory root = true := by
  have hdir : ∀ {root}, root ∈ roots → t.isDirectory root = true :=
    fun hroot => h.surveyed.isDirectory (hperm.mem_iff.mp hroot)
  refine makes_enterRoots hroots (fun _ root hroot => ?_) fun hnone => ?_
  · obtain ⟨hfits, hways⟩ := isDirectory_iff.mp (hdir hroot)
    refine ⟨hfits, fun q hq bytes hfile => ?_⟩
    exact passes_of_directories hways q hq bytes (h.grown.file_iff.mpr hfile)
  · rw [← h.unentered (hother.given ▸ hnone)]
    exact hdir (base_mem_roots hroots hnone)

omit hroots in
/-- The output can be prepared for roots in another order. -/
theorem exists_makes_prepareOutput_reordered (hv : v.Closed)
    (hsame : ∀ q, v.find? q = t.find? q) :
    ∃ w, Makes (prepareOutput other base roots) v c.output w := by
  obtain ⟨houtput, hbase⟩ := h.prepared.output
  rw [← hother.outputOf_eq] at houtput
  by_cases hgiven : settings.convertDirectory.isGiven = true
  · rw [if_pos hgiven] at houtput
    obtain ⟨hheld, hdir⟩ := h.entered hgiven
    refine makes_prepareOutput houtput hv ?_
    rintro _ ⟨⟩
    refine ⟨?_, (isDirectory_iff.mp hdir).1, fun q hq bytes hfile => ?_⟩
    · rw [heldRoot?, List.find?_eq_none] at hheld ⊢
      exact fun root hroot => hheld root (hperm.mem_iff.mp hroot)
    · exact h.passes hgiven q hq bytes (hsame q ▸ hfile)
  · rw [if_neg hgiven] at houtput
    rw [hbase (by simpa using hgiven)]
    exact makes_prepareOutput houtput hv (by simp)

end Again

/-- Whatever the references are looked up as, the sources of models can be read again, and the
models have the same names and folders. -/
theorem exists_modelsOf_of_perm {anchor : Text} {registry : Registry} {models : List Model}
    (h : modelsOf settings anchor registry = .ok models) {sources : List SourceFile}
    (hperm : sources.Perm registry.entries) (other : Settings) (anchor' : Text) :
    ∃ models', modelsOf other anchor' { entries := sources } = .ok models'
      ∧ ∀ m ∈ models', ∃ n ∈ models, m.name = n.name ∧ m.folder = n.folder := by
  have hread : ∀ source ∈ sources, ∃ n ∈ models,
      Model.read (contextOf settings anchor registry) source = .ok n := fun source hsource =>
    exists_of_forall₂ (forall₂_of_modelsOf h).flip (hperm.mem_iff.mp hsource)
  obtain ⟨models', hmodels'⟩ :
      ∃ models', modelsOf other anchor' { entries := sources } = .ok models' := by
    refine exists_readModels fun source hsource => ?_
    obtain ⟨n, -, hn⟩ := hread source hsource
    exact Model.exists_read hn _
  refine ⟨models', hmodels', fun m hm => ?_⟩
  obtain ⟨source, hsource, hm⟩ := exists_of_forall₂ (forall₂_of_modelsOf hmodels') hm
  obtain ⟨n, hn, hread⟩ := hread source hsource
  obtain ⟨hname, hfolder⟩ := Model.name_folder_of_read hm
  obtain ⟨hname', hfolder'⟩ := Model.name_folder_of_read hread
  exact ⟨n, hn, hname.trans hname'.symm, hfolder.trans hfolder'.symm⟩

/-- A run that succeeds also succeeds with its working directories in another order. -/
theorem exists_makes_reordered {s s' t p : FileTree} {c : Conversion}
    (h : Succeeded settings base s s' c t p) (hother : Reordered settings other)
    (hs : s.WellFormed) : ∃ d u', Makes (run other base) s d u' := by
  obtain ⟨roots, hroots, hperm⟩ := hother.exists_roots h.surveyed.roots
  obtain ⟨v, henter, hdirs⟩ := exists_makes_enterRoots_reordered h hother hroots hperm
  have hgrown := grownBy_of_makes henter
  have hclosed := hgrown.closed hs.closed
  have hsame := find?_entered_eq h hother hroots hgrown hdirs
  obtain ⟨registry, hscan, hmodels⟩ := h.surveyed.models
  obtain ⟨sources, hscan', hsources⟩ :=
    scanAll_reordered h hother hs hroots hperm hgrown hdirs hscan
  obtain ⟨models, hmodels', hfound⟩ := exists_modelsOf_of_perm hmodels hsources other c.anchor
  have hsurvey : Makes (survey other base) s ⟨roots, c.anchor, models⟩ v :=
    makes_survey henter (sharedAncestor_perm hperm.symm h.surveyed.anchor) hscan' hmodels'
  obtain ⟨w, hprepare⟩ := exists_makes_prepareOutput_reordered h hother hperm hclosed hsame
  have hprepared := prepared_of_makes hclosed hprepare
  have hagain := fun q => h.prepared.find?_eq (hother.prepared hprepared)
    (h.grown.closed hs.closed) hclosed fun _ => hsame q
  have hread : ∀ m ∈ models, ∃ bytes,
      s'.read (other.generator.outputPath c.output m) = .ok bytes := by
    intro m hm
    obtain ⟨n, hn, hname, hfolder⟩ := hfound m hm
    rw [hother.generator_eq, settings.generator.outputPath_congr hname hfolder]
    exact h.read n hn
  obtain ⟨u', hemit⟩ := makes_mapM_emit (hprepared.closed hclosed) (h.within.congr hagain) hread
  exact ⟨_, u', makes_run hsurvey hprepare hemit⟩

/-! ## What is left -/

/-- The first member of a kind is the same in any order if there is no more than one. -/
theorem find?_eq_of_perm {α : Type} {xs ys : List α} (h : ys.Perm xs) {p : α → Bool}
    (hone : ∀ x ∈ xs, ∀ y ∈ xs, p x = true → p y = true → x = y) : ys.find? p = xs.find? p := by
  cases hx : xs.find? p with
  | none =>
    rw [List.find?_eq_none] at hx ⊢
    exact fun y hy => hx y (h.mem_iff.mp hy)
  | some x =>
    have hmem := List.mem_of_find?_eq_some hx
    cases hy : ys.find? p with
    | none =>
      exact absurd (List.find?_some hx) (List.find?_eq_none.mp hy x (h.mem_iff.mpr hmem))
    | some y =>
      rw [hone x hmem y (h.mem_iff.mp (List.mem_of_find?_eq_some hy)) (List.find?_some hx)
        (List.find?_some hy)]

/-- Look-ups find the same in any order of the sources if no two have one name. -/
theorem find?_registry_of_perm {registry registry' : Registry}
    (h : registry'.entries.Perm registry.entries) (hnames : registry.names.Nodup) (name : Text) :
    registry'.find? name = registry.find? name := by
  refine find?_eq_of_perm ((List.reverse_perm _).trans (h.trans (List.reverse_perm _).symm))
    fun a ha b hb hname hname' => ?_
  exact List.inj_on_of_nodup_map hnames (List.mem_reverse.mp ha) (List.mem_reverse.mp hb)
    ((beq_iff_eq.mp hname).trans (beq_iff_eq.mp hname').symm)

/-- The last model at a place is the same in any order of the models if no two go to one place. -/
theorem lastAt?_of_perm {g : Generator} {output : Path} {models models' : List Model}
    (h : models'.Perm models) (hplaces : ∀ m ∈ models, ∀ n ∈ models,
      (g.outputPath output m).place = (g.outputPath output n).place → m = n) (q : List Text) :
    lastAt? g output q models' = lastAt? g output q models := by
  refine find?_eq_of_perm ((List.reverse_perm _).trans (h.trans (List.reverse_perm _).symm))
    fun m hm n hn hplace hplace' => ?_
  exact hplaces m (List.mem_reverse.mp hm) n (List.mem_reverse.mp hn)
    ((of_decide_eq_true hplace).trans (of_decide_eq_true hplace').symm)

section Compared

variable {s s' t p u' v w : FileTree} {c d : Conversion}
  (h : Succeeded settings base s s' c t p) (h' : Succeeded other base s u' d v w)
  (hother : Reordered settings other) (hs : s.WellFormed)

include h h' hother

theorem roots_perm : d.roots.Perm c.roots := by
  have hperm : (rootsOf other base).Perm (rootsOf settings base) := hother.rootsOf_perm
  rw [h'.surveyed.roots, h.surveyed.roots] at hperm
  exact (List.map_perm_map_iff fun _ _ => Except.ok.inj).mp hperm

theorem output_reordered : d.output = c.output :=
  h.prepared.output_unique (hother.prepared h'.prepared)

theorem anchor_reordered : d.anchor = c.anchor := by
  have hanchor := sharedAncestor_perm (roots_perm h h' hother).symm h.surveyed.anchor
  rw [h'.surveyed.anchor] at hanchor
  exact Except.ok.inj hanchor

include hs

/-- Where no two models have one name, each source is read as the same model. -/
theorem models_perm (hnames : (c.models.map Model.name).Nodup) : d.models.Perm c.models := by
  obtain ⟨registry, hscan, hmodels⟩ := h.surveyed.models
  obtain ⟨registry', hscan', hmodels'⟩ := h'.surveyed.models
  have hread := forall₂_of_modelsOf hmodels
  have hread' := forall₂_of_modelsOf hmodels'
  obtain ⟨sources, hfound, hsources⟩ := scanAll_reordered h hother hs h'.surveyed.roots
    (roots_perm h h' hother) h'.grown (fun _ hroot => h'.surveyed.isDirectory hroot) hscan
  obtain rfl : registry'.entries = sources := by
    rw [hscan'] at hfound
    exact congrArg Prod.fst hfound
  -- no two sources have one name either, so that look-ups find the same
  rw [map_name_of_modelsOf hmodels] at hnames
  have hlookup := find?_registry_of_perm hsources hnames
  have hcontext : ∀ source, Model.read (contextOf other d.anchor registry') source
      = Model.read (contextOf settings c.anchor registry) source := by
    intro source
    rw [hother.contextOf_eq, anchor_reordered h h' hother]
    exact read_contextOf_eq (fun name => by rw [hlookup]) rfl rfl rfl
  obtain ⟨models, hreordered, hperm⟩ := List.perm_comp_forall₂ hsources hread
  have hsame : d.models = models := by
    refine List.right_unique_forall₂' ?_ hread' (hreordered.imp fun source m hm => ?_)
    · exact fun source m n hm hn => Except.ok.inj (hm.symm.trans hn)
    · rw [hcontext]
      exact hm
  rw [hsame]
  exact hperm

/-- Where no two models have one name or one output path, the runs leave the same. -/
theorem find?_left_reordered (hnames : (c.models.map Model.name).Nodup)
    (hpaths : c.written.Nodup) (q : List Text) : u'.find? q = s'.find? q := by
  have hmodels := models_perm h h' hother hs hnames
  have hemitted := h'.emitted
  have hprepared := hother.prepared h'.prepared
  rw [hother.generator_eq, output_reordered h h' hother] at hemitted
  rw [output_reordered h h' hother] at hprepared
  have hsame := find?_entered_eq h hother h'.surveyed.roots h'.grown
    fun _ hroot => h'.surveyed.isDirectory hroot
  refine find?_of_emitted h.emitted hemitted (fun _ => ?_) ?_ ?_
  · exact h.prepared.find?_eq hprepared (h.grown.closed hs.closed) (h'.grown.closed hs.closed)
      fun _ => hsame q
  · -- two models that go to one place have one path
    refine congrArg _ (lastAt?_of_perm hmodels (fun m hm n hn hplace => ?_) q)
    rw [h.written] at hpaths
    exact List.inj_on_of_nodup_map hpaths hm hn (settings.generator.outputPath_inj
      (h.surveyed.foldered hs h.grown hm) (h.surveyed.foldered hs h.grown hn) hplace)
  · simp only [hmodels.mem_iff]

end Compared

/-- With its working directories in another order a run succeeds or fails as before. If both
succeed, no two models have one name and no two are written to one path, then the roots have the
same ancestor, the models have the same imports and the same declarations, they are written to the
same files, and the trees that are left are equal. -/
theorem run_reordered (hother : Reordered settings other) {s : Session}
    (hs : s.files.WellFormed) :
    ((∃ c s₁, Session.run (run settings base) s = (.ok c, s₁))
      ↔ ∃ d s₂, Session.run (run other base) s = (.ok d, s₂))
    ∧ ∀ c s₁ d s₂, Session.run (run settings base) s = (.ok c, s₁) →
      Session.run (run other base) s = (.ok d, s₂) →
      (c.models.map Model.name).Nodup → c.written.Nodup →
      d.anchor = c.anchor ∧ d.models.Perm c.models ∧ d.written.Perm c.written
        ∧ ∀ q, s₂.files.find? q = s₁.files.find? q := by
  have hagain : ∀ {settings other : Settings}, Reordered settings other →
      (∃ c s₁, Session.run (run settings base) s = (.ok c, s₁)) →
      ∃ d s₂, Session.run (run other base) s = (.ok d, s₂) := by
    rintro settings other hother ⟨c, s₁, hrun⟩
    obtain ⟨t, p, h⟩ := run_succeeded hs.closed hrun
    obtain ⟨d, u', hmakes⟩ := exists_makes_reordered h hother hs
    obtain ⟨s₂, hrun₂, -⟩ := hmakes s rfl
    exact ⟨d, s₂, hrun₂⟩
  refine ⟨⟨hagain hother, hagain hother.symm⟩, fun c s₁ d s₂ hrun₁ hrun₂ hnames hpaths => ?_⟩
  obtain ⟨t, p, h⟩ := run_succeeded hs.closed hrun₁
  obtain ⟨v, w, h'⟩ := run_succeeded hs.closed hrun₂
  have hmodels := models_perm h h' hother hs hnames
  refine ⟨anchor_reordered h h' hother, hmodels, ?_,
    find?_left_reordered h h' hother hs hnames hpaths⟩
  rw [h.written, h'.written, hother.generator_eq, output_reordered h h' hother]
  exact hmodels.map _

/-- Two working directories, each with a source that refers to the other. -/
def crossed : FileTree :=
  { entries :=
      [(["b".toList], .directory), (["b".toList, "w".toList], .directory),
       (["b".toList, "w".toList, "A.cs".toList], .file (encode "public class A : B\n".toList)),
       (["b".toList, "x".toList], .directory),
       (["b".toList, "x".toList, "B.cs".toList], .file (encode "public class B : A\n".toList))] }

/-- Settings that list two working directories, and the output directory. -/
def listing (directories : Text) : Settings :=
  { workingDirectories := .text directories, convertDirectory := .text "out".toList }

theorem reordered_listing : Reordered (listing "w;x".toList) (listing "x;w".toList) :=
  ⟨by decide +kernel, by decide +kernel, rfl⟩

/-- The references of `crossed` are forward in one order and backward in the other. -/
theorem run_reordered_crossed : ∃ c d s₁ s₂,
    Session.run (run (listing "w;x".toList) (ofText "/b".toList)) { files := crossed }
      = (.ok c, s₁)
    ∧ Session.run (run (listing "x;w".toList) (ofText "/b".toList)) { files := crossed }
      = (.ok d, s₂)
    ∧ c.models.map (fun m => m.imports.map (·.name)) = [["B".toList], ["A".toList]]
    ∧ d.models.Perm c.models ∧ d.written.Perm c.written
    ∧ ∀ q, s₂.files.find? q = s₁.files.find? q := by
  have hwell : ({ files := crossed } : Session).files.WellFormed :=
    ⟨by decide +kernel, by decide +kernel, by decide +kernel⟩
  have hcheck : (Session.run (run (listing "w;x".toList) (ofText "/b".toList))
      { files := crossed }).1.toOption.map (fun c => decide ((c.models.map Model.name).Nodup
        ∧ c.written.Nodup
        ∧ c.models.map (fun m => m.imports.map (·.name)) = [["B".toList], ["A".toList]]))
      = some true := by decide +kernel
  rcases hrun : Session.run (run (listing "w;x".toList) (ofText "/b".toList))
    { files := crossed } with ⟨e | c, s₁⟩
  · rw [hrun] at hcheck
    cases hcheck
  · rw [hrun] at hcheck
    obtain ⟨hnames, hpaths, himports⟩ := of_decide_eq_true (Option.some.inj hcheck)
    obtain ⟨d, s₂, hrun'⟩ := (run_reordered reordered_listing hwell).1.mp ⟨c, s₁, hrun⟩
    obtain ⟨-, hmodels, hwritten, htree⟩ :=
      (run_reordered reordered_listing hwell).2 c s₁ d s₂ hrun hrun' hnames hpaths
    exact ⟨c, d, s₁, s₂, rfl, hrun', himports, hmodels, hwritten, htree⟩

end Typings.Conversion
