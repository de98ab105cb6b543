import Typings.Proofs.Conversion.Run
import Typings.Proofs.Declaration
import Typings.Proofs.FileTree.Progress

/-!
# When a run succeeds

Each phase of a run succeeds under conditions on the files alone: the paths of the roots and of the
output fit and meet no file, the sources can be read, and there is a tree in which all that is to
be written can be read.
-/

namespace Typings

open Discovery FileTree Session Text

variable {settings : Settings} {base : Path} {t t' : FileTree}

/-! ## Entering the roots -/

namespace Discovery

/-- Entering a directory that is there changes nothing. -/
theorem makes_enterRoot_of_isDirectory {root : Path} (hdir : t.isDirectory root = true) :
    Makes (enterRoot root) t () t := by
  have hlook : t.lookError? root = none := by
    rw [isDirectory] at hdir
    rw [lookError?]
    split at hdir
    · next hstatus => rw [hstatus]
    · cases hdir
  refine makes_get fun s hs => ?_
  rw [hs, hlook]
  refine makes_get fun s hs => ?_
  rw [hs, hdir]
  exact makes_say _ t

theorem makes_enterRoot {root : Path} (hfits : root.Fits) (hpass : t.Passes root) :
    ∃ t', Makes (enterRoot root) t () t' ∧ t'.isDirectory root = true := by
  by_cases hdir : t.isDirectory root = true
  · exact ⟨t, makes_enterRoot_of_isDirectory hdir, hdir⟩
  · obtain ⟨made, hcreate, hmade⟩ := createDirectory_of_passes hfits hpass
    refine ⟨made, makes_get fun s hs => ?_, hmade⟩
    rw [hs, lookError?_of_passes hfits hpass.parent]
    refine makes_get fun s hs => ?_
    rw [hs, if_neg hdir]
    exact (makes_say _ t).bind ((makes_onFiles hcreate id).bind (makes_say _ made))

/-- Entering roots that fit and pass makes directories of all of them. -/
theorem makes_mapM_enterItem {roots : List Path}
    (hroots : ∀ root ∈ roots, root.Fits ∧ t.Passes root) :
    ∃ t', Makes ((roots.map .ok).mapM enterItem) t roots t'
      ∧ ∀ root ∈ roots, t'.isDirectory root = true := by
  induction roots generalizing t with
  | nil => exact ⟨t, makes_pure [] t, by simp⟩
  | cons root roots ih =>
    obtain ⟨hfits, hpass⟩ := hroots root List.mem_cons_self
    obtain ⟨t₁, hfirst, hdir⟩ := makes_enterRoot hfits hpass
    obtain ⟨s₁, hrun, rfl⟩ := hfirst { files := t } rfl
    have hgrown := enterRoot_grown hrun
    obtain ⟨t', hrest, hdirs⟩ := ih fun r hr =>
      ⟨(hroots r (List.mem_cons_of_mem _ hr)).1,
        hgrown.passes (hroots r (List.mem_cons_of_mem _ hr)).2⟩
    refine ⟨t', ?_, fun r hr => ?_⟩
    · rw [List.map_cons, List.mapM_cons]
      exact (hfirst.bind (makes_pure root _)).bind (hrest.bind (makes_pure _ t'))
    · rcases List.mem_cons.mp hr with rfl | hr
      · obtain ⟨s', hrun', rfl⟩ := hrest s₁ rfl
        exact (mapM_enterItem_cases hrun').1.isDirectory hdir
      · exact hdirs r hr

/-- Finding the roots succeeds if they fit and pass. The base directory is not created, so it has to
be there if it is the only root. -/
theorem makes_enterRoots {roots : List Path} (hroots : rootsOf settings base = roots.map .ok)
    (hfits : hasRoots settings = true → ∀ root ∈ roots, root.Fits ∧ t.Passes root)
    (hbase : hasRoots settings = false → t.isDirectory base = true) :
    ∃ t', Makes (enterRoots settings base) t roots t'
      ∧ ∀ root ∈ roots, t'.isDirectory root = true := by
  rw [enterRoots]
  by_cases hgiven : hasRoots settings = true
  · rw [if_pos hgiven, hroots]
    exact makes_mapM_enterItem (hfits hgiven)
  · rw [rootsOf, if_neg hgiven] at hroots
    obtain ⟨root, rfl, heq⟩ := List.map_eq_singleton_iff.mp hroots.symm
    cases heq
    rw [if_neg hgiven]
    refine ⟨t, (makes_say _ t).bind (makes_pure [base] t), fun root hroot => ?_⟩
    rw [List.mem_singleton.mp hroot]
    exact hbase (by simpa using hgiven)

theorem grownBy_of_makes {roots : List Path} (h : Makes (enterRoots settings base) t roots t') :
    GrownBy (LeadsToRoot settings base) t t' := by
  obtain ⟨s', hrun, rfl⟩ := h { files := t } rfl
  exact (enterRoots_cases hrun).1

/-- A tree that has grown on the way to the roots, and in which they are directories, has nothing
new besides. -/
theorem keptOrMade_of_entered (hgrown : GrownBy (LeadsToRoot settings base) t t')
    {roots : List Path} (hroots : rootsOf settings base = roots.map .ok)
    (hdirs : ∀ root ∈ roots, t'.isDirectory root = true) (q : List Text) :
    KeptOrMade (LeadsToRoot settings base q) (t.find? q) (t'.find? q) := by
  refine keptOrMade_of (hgrown.entry q) ?_
  rintro ⟨root, hroot, hway⟩ -
  rw [hroots] at hroot
  obtain ⟨entered, hentered, heq⟩ := List.mem_map.mp hroot
  cases heq
  exact (isDirectory_iff.mp (hdirs root hentered)).2 q hway

end Discovery

/-! ## The phases of a run -/

namespace Conversion

/-- A registry is built of the sources that a scan finds. -/
theorem makes_discover {roots : List Path} {sources : List SourceFile}
    (hscan : scanAll t settings.extension? roots = (sources, none)) :
    Makes (discover settings roots) t { entries := sources } t := by
  refine makes_get fun s hs => ?_
  rw [hs, hscan]
  have hentries := Registry.entries_ofFiles sources
  rcases hregistry : Registry.ofFiles sources with ⟨⟨entries⟩, warnings⟩
  rw [hregistry] at hentries
  obtain rfl : entries = sources := hentries
  dsimp only
  rw [hregistry]
  exact (makes_warn warnings t).bind (makes_pure _ t)

/-- A survey succeeds if the roots can be entered and all sources can be read then. -/
theorem makes_survey {found : Survey} {sources : List SourceFile}
    (henter : Makes (enterRoots settings base) t found.roots t')
    (hanchor : sharedAncestor found.roots = .ok found.anchor)
    (hscan : scanAll t' settings.extension? found.roots = (sources, none))
    (hmodels : modelsOf settings found.anchor { entries := sources } = .ok found.models) :
    Makes (survey settings base) t found t' := by
  rw [survey]
  refine (henter.adaptExcept _).bind ((makes_ofExcept (mapError_eq_ok.mpr hanchor) t').bind ?_)
  refine (makes_discover hscan).bind ((makes_ofExcept hmodels t').bind ?_)
  exact (makes_warn _ t').bind (makes_pure _ t')

/-- Preparing the output succeeds if none is given, or if it holds no root, fits and passes. -/
theorem makes_prepareOutput {roots : List Path} {given : Option Path}
    (hgiven : outputOf settings base = .ok given) (ht : t.Closed)
    (houtput : ∀ output, given = some output →
      heldRoot? output roots = none ∧ output.Fits ∧ t.Passes output) :
    ∃ t', Makes (prepareOutput settings base roots) t (given.getD base) t' := by
  cases given with
  | none =>
    refine ⟨t, (makes_ofExcept hgiven t).bind ?_⟩
    exact (makes_say _ t).bind (makes_pure base t)
  | some output =>
    obtain ⟨hfree, hfits, hpass⟩ := houtput output rfl
    obtain ⟨made, hreplace⟩ :=
      replaceDirectory_of_passes (isPlain_of_outputOf hgiven) ht hfits hpass
    have hlast : Makes (do
        onFiles Failure.files (replaceDirectory output)
        return output) t output made :=
      (makes_onFiles hreplace _).bind (makes_pure output made)
    refine ⟨made, (makes_ofExcept hgiven t).bind ?_⟩
    dsimp only
    rw [hfree]
    refine makes_get fun s hs => ?_
    rw [hs, lookError?_of_passes hfits hpass.parent]
    refine makes_get fun s hs => ?_
    split
    · exact (makes_say _ t).bind hlast
    · exact (makes_say _ t).bind hlast

theorem prepared_of_makes {roots : List Path} {output : Path} (ht : t.Closed)
    (h : Makes (prepareOutput settings base roots) t output t') :
    Prepared settings base t t' output := by
  obtain ⟨s', hrun, rfl⟩ := h { files := t } rfl
  rcases prepareOutput_cases ht hrun with ⟨_, hok, hprepared⟩ | ⟨_, hok, -⟩ | ⟨_, _, hok, -⟩
  · cases hok
    exact hprepared
  · cases hok
  · cases hok

/-- Declarations are written one after the other in a tree that is within one where all of their
paths can be read. -/
theorem makes_mapM_emit {output : Path} {models : List Model} {u : FileTree} (ht : t.Closed)
    (hwithin : t.Within u)
    (hread : ∀ m ∈ models, ∃ bytes, u.read (settings.generator.outputPath output m) = .ok bytes) :
    ∃ t', Makes (models.mapM (emit settings.generator output)) t
      (models.map (settings.generator.outputPath output)) t' := by
  induction models generalizing t with
  | nil => exact ⟨t, makes_pure [] t⟩
  | cons m models ih =>
    obtain ⟨bytes, hm⟩ := hread m List.mem_cons_self
    obtain ⟨written, hopen, hstill⟩ := hwithin.openForWrite ht hm (settings.declaration m)
    have hemit : Makes (emit settings.generator output m) t
        (settings.generator.outputPath output m) written := by
      have hcontent : (settings.generator.generate m).mapError Failure.declaration
          = .ok (settings.declaration m) := mapError_eq_ok.mpr (settings.generate_eq m)
      exact (makes_say _ t).bind ((makes_ofExcept hcontent t).bind
        ((makes_onFiles hopen _).bind (makes_pure _ written)))
    have hclosed : written.Closed := by
      obtain ⟨s', hrun, rfl⟩ := hemit { files := t } rfl
      rcases emit_cases hrun with ⟨-, content, -, hwritten⟩ | ⟨_, herror, -⟩
      · exact hwritten.closed ht
      · cases herror
    obtain ⟨t', hrest⟩ := ih hclosed hstill fun n hn => hread n (List.mem_cons_of_mem _ hn)
    refine ⟨t', ?_⟩
    rw [List.mapM_cons]
    exact hemit.bind (hrest.bind (makes_pure _ t'))

/-- A run succeeds if its phases do. -/
theorem makes_run {found : Survey} {output : Path} {written : List Path} {t₁ t₂ : FileTree}
    (hsurvey : Makes (survey settings base) t found t₁)
    (hprepare : Makes (prepareOutput settings base found.roots) t₁ output t₂)
    (hemit : Makes (found.models.mapM (emit settings.generator output)) t₂ written t') :
    Makes (run settings base) t { found with output, written } t' := by
  rw [run]
  refine (makes_say _ t).bind (hsurvey.bind (hprepare.bind ((makes_say _ t₂).bind ?_)))
  exact hemit.bind ((makes_say _ t').bind (makes_pure _ t'))

end Conversion

end Typings
