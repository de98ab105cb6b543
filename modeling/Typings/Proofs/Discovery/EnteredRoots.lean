import Typings.Proofs.Conversion.Progress
import Typings.Proofs.Discovery.DeepestAncestor
import Typings.Proofs.Path.Normal

/-!
# What entering the roots comes to

If all roots can be entered they are those of the items that are not blank, they are directories
then, and nothing else is new. Entering them again changes nothing. Settings whose items are all
blank name no root, so they do not fall back on the base directory.
-/

namespace Typings

open Discovery FileTree Session Text

/-! ## Items -/

/-- What remains of a text without the blanks at its ends is empty exactly if there are only
blanks. -/
theorem RawText.trim_eq_nil_iff {item : RawText} :
    RawText.trim item = [] ↔ ∀ c ∈ item, c.isBlank = true := by
  rw [trim, List.reverse_eq_nil_iff, List.dropWhile_eq_nil_iff]
  simp only [List.mem_reverse]
  constructor
  · intro h
    have hstart : item.dropWhile CodePoint.isBlank = [] := by
      by_contra hne
      have hhead := List.head_dropWhile_not CodePoint.isBlank hne
      rw [h _ (List.head_mem hne)] at hhead
      cases hhead
    exact List.dropWhile_eq_nil_iff.mp hstart
  · exact fun h c hc => h c ((List.dropWhile_suffix CodePoint.isBlank).subset hc)

/-- The items of both settings, as semicolons cut them. -/
def Settings.listedItems (settings : Settings) : List RawText :=
  splitOn (.char ';') settings.workingDirectory.plainOrEmpty
    ++ splitOn (.char ';') settings.workingDirectories.plainOrEmpty

/-- The items that are not blank. -/
def Settings.namedItems (settings : Settings) : List RawText :=
  settings.listedItems.filter fun item => !item.all CodePoint.isBlank

theorem Settings.directoryItems_eq (settings : Settings) :
    settings.directoryItems = settings.namedItems.map RawText.trim := by
  rw [directoryItems, splitOn_append, namedItems, listedItems, List.filter_map]
  congr 1
  refine List.filter_congr fun item _ => ?_
  rw [Function.comp_apply, Bool.eq_iff_iff]
  simp [RawText.trim_eq_nil_iff]

/-- Settings that are not given list no item that is not blank. -/
theorem Settings.namedItems_of_not_hasRoots {settings : Settings} (h : hasRoots settings = false) :
    settings.namedItems = [] := by
  rw [hasRoots, Bool.or_eq_false_iff] at h
  rw [namedItems, listedItems, Json.plainOrEmpty, Json.plainOrEmpty, h.1, h.2]
  rfl

namespace Discovery

variable {settings : Settings} {base : Path} {s s' : Session} {t : FileTree}

/-! ## Directories -/

theorem isDirectory_of_enterRoot {root : Path} (h : run (enterRoot root) s = (.ok (), s')) :
    s'.files.isDirectory root = true := by
  rw [enterRoot, run_bind_of_ok run_get] at h
  dsimp only at h
  split at h
  · rw [run_bind, run_throw] at h
    cases h
  · rw [run_bind_of_ok run_get] at h
    split at h
    · next hdir =>
      cases h
      exact hdir
    · rw [run_bind_of_ok (run_say _)] at h
      rcases run_bind_cases h with ⟨_, s₁, hmake, h⟩ | ⟨_, -, hfailed⟩
      · cases h
        obtain ⟨done, hmake, hdone⟩ := run_onFiles_cases hmake
        rw [mapError_eq_ok.mp hdone.symm] at hmake
        exact isDirectory_of_createDirectory hmake
      · cases hfailed

theorem isDirectory_of_enterItem {item : Except RawText Path} {root : Path}
    (h : run (enterItem item) s = (.ok root, s')) : s'.files.isDirectory root = true := by
  cases item with
  | error raw => cases h
  | ok found =>
    rcases run_bind_cases h with ⟨_, s₁, henter, h⟩ | ⟨_, -, hfailed⟩
    · cases h
      exact isDirectory_of_enterRoot henter
    · cases hfailed

/-- All roots that are entered are directories then. -/
theorem isDirectory_of_mapM_enterItem {items : List (Except RawText Path)} {roots : List Path}
    (h : run (items.mapM enterItem) s = (.ok roots, s')) :
    ∀ root ∈ roots, s'.files.isDirectory root = true := by
  induction items generalizing s roots with
  | nil =>
    cases h
    simp
  | cons item items ih =>
    rw [List.mapM_cons] at h
    rcases run_bind_cases h with ⟨root, s₁, hitem, h⟩ | ⟨_, -, hfailed⟩
    · rcases run_bind_cases h with ⟨rest, s₂, hrest, h⟩ | ⟨_, -, hfailed⟩
      · cases h
        refine List.forall_mem_cons.mpr ⟨?_, ih hrest⟩
        exact (mapM_enterItem_cases hrest).1.isDirectory (isDirectory_of_enterItem hitem)
      · cases hfailed
    · cases hfailed

theorem isDirectory_of_enterRoots {roots : List Path}
    (h : run (enterRoots settings base) s = (.ok roots, s'))
    (hbase : s.files.isDirectory base = true) :
    ∀ root ∈ roots, s'.files.isDirectory root = true := by
  rw [enterRoots] at h
  split at h
  · exact isDirectory_of_mapM_enterItem h
  · rw [run_bind_of_ok (run_say _)] at h
    cases h
    simpa using hbase

/-! ## Entering again -/

/-- Entering roots that are directories changes nothing. -/
theorem makes_mapM_enterItem_of_isDirectory {roots : List Path}
    (hdirs : ∀ root ∈ roots, t.isDirectory root = true) :
    Makes ((roots.map .ok).mapM enterItem) t roots t := by
  induction roots with
  | nil => exact makes_pure [] t
  | cons root roots ih =>
    rw [List.forall_mem_cons] at hdirs
    rw [List.map_cons, List.mapM_cons]
    exact ((makes_enterRoot_of_isDirectory hdirs.1).bind (makes_pure root t)).bind
      ((ih hdirs.2).bind (makes_pure _ t))

theorem makes_enterRoots_of_isDirectory {roots : List Path}
    (hroots : rootsOf settings base = roots.map .ok)
    (hdirs : ∀ root ∈ roots, t.isDirectory root = true) :
    Makes (enterRoots settings base) t roots t := by
  rw [enterRoots]
  by_cases hgiven : hasRoots settings = true
  · rw [if_pos hgiven, hroots]
    exact makes_mapM_enterItem_of_isDirectory hdirs
  · rw [rootsOf, if_neg hgiven] at hroots
    obtain ⟨root, rfl, heq⟩ := List.map_eq_singleton_iff.mp hroots.symm
    cases heq
    rw [if_neg hgiven]
    exact (makes_say _ t).bind (makes_pure [base] t)

/-! ## What is new -/

/-- A place is new only as a directory at or above a root, and all of them are there. -/
theorem keptOrMade_of_roots {roots : List Path}
    (h : run (enterRoots settings base) s = (.ok roots, s')) (hs : s.files.Closed)
    (hbase : s.files.isDirectory base = true) (q : List Text) :
    KeptOrMade (∃ root ∈ roots, q <+: root.place) (s.files.find? q) (s'.files.find? q) := by
  obtain ⟨hgrown, hroots⟩ := enterRoots_cases h
  refine keptOrMade_of ?_ ?_
  · rcases hgrown.entry q with hsame | ⟨hnone, hmade, root, hroot, hway⟩
    · exact .inl hsame
    · refine .inr ⟨hnone, hmade, root, ?_, ?_⟩
      · rw [hroots roots rfl] at hroot
        simpa using hroot
      · rw [rootsOf] at hroot
        split at hroot
        · obtain ⟨item, -, hitem⟩ := List.mem_map.mp hroot
          exact (isNormal_rootOf hitem).prefix_place hway
        · -- the base directory is there, so nothing on the way to it is new
          cases List.mem_singleton.mp hroot
          rw [(isDirectory_iff.mp hbase).2 q hway] at hnone
          cases hnone
  · rintro ⟨root, hroot, hway⟩ -
    have hholds := (holds_of_isDirectory (isDirectory_of_enterRoots h hbase root hroot)).1
    rcases eq_or_ne q root.place with rfl | hne
    · exact hholds
    · exact (hgrown.closed hs).directory_above (by simp [hholds]) hway hne

/-! ## All of it -/

/-- If the roots can be entered, they are what the items that are not blank stand for, in order,
seen from the base directory and normalised; without such an item they are the base directory or,
where blank texts are given, none at all. They are absolute, and they are directories then; nothing
else is new but directories above them, and entering them again changes nothing. -/
theorem enterRoots_complete {roots : List Path} (habsolute : base.root ≠ .relative)
    (hs : s.files.WellFormed) (hbase : s.files.isDirectory base = true)
    (h : run (enterRoots settings base) s = (.ok roots, s')) :
    (settings.namedItems = [] → roots = if hasRoots settings then [] else [base])
    ∧ (settings.namedItems ≠ [] → roots.map .ok
        = settings.namedItems.map fun item => rootOf base (RawText.trim item))
    ∧ (∀ root ∈ roots, root.root ≠ .relative ∧ s'.files.isDirectory root = true)
    ∧ (∀ q, KeptOrMade (∃ root ∈ roots, q <+: root.place)
        (s.files.find? q) (s'.files.find? q))
    ∧ Makes (enterRoots settings base) s'.files roots s'.files := by
  have hroots := (enterRoots_cases h).2 roots rfl
  have hdirs := isDirectory_of_enterRoots h hbase
  refine ⟨fun hblank => ?_, fun hnamed => ?_, fun root hroot =>
    ⟨root_ne_relative_of_enterRoots habsolute h root hroot, hdirs root hroot⟩,
    keptOrMade_of_roots h hs.closed hbase, makes_enterRoots_of_isDirectory hroots hdirs⟩
  · rw [rootsOf] at hroots
    split at hroots
    · next hgiven =>
      rw [settings.directoryItems_eq, hblank] at hroots
      rw [if_pos hgiven]
      exact List.map_eq_nil_iff.mp hroots.symm
    · next hnone =>
      rw [if_neg hnone]
      obtain ⟨root, rfl, heq⟩ := List.map_eq_singleton_iff.mp hroots.symm
      cases heq
      rfl
  · have hgiven : hasRoots settings = true := by
      by_contra hnone
      exact hnamed (Settings.namedItems_of_not_hasRoots (by simpa using hnone))
    rw [← hroots, rootsOf, if_pos hgiven, settings.directoryItems_eq, List.map_map]
    rfl

/-- A tree with nothing but a base directory. -/
def baseOnly : FileTree := { entries := [(["b".toList], .directory)] }

/-- Settings that name a missing directory twice, and one beside the base directory. -/
def repeated : Settings :=
  { workingDirectory := .text " m/n ".toList, workingDirectories := .text "; ../c;m/./n/".toList }

theorem wellFormed_baseOnly : baseOnly.WellFormed := by
  refine ⟨?_, ?_, ?_⟩ <;> decide

/-- The roots that `repeated` names, seen from `/b`. -/
def repeatedRoots : List Path :=
  [Path.ofText "/b/m/n".toList, Path.ofText "/c".toList, Path.ofText "/b/m/n".toList]

/-- The roots of `repeated` are made, and only what is above them is made with them. -/
theorem enterRoots_complete_repeated : repeated.namedItems ≠ [] ∧ ∃ s',
    run (enterRoots repeated (Path.ofText "/b".toList)) { files := baseOnly }
      = (.ok repeatedRoots, s')
    ∧ (∀ root ∈ repeatedRoots, s'.files.isDirectory root = true)
    ∧ (∀ q, KeptOrMade (∃ root ∈ repeatedRoots, q <+: root.place)
        (baseOnly.find? q) (s'.files.find? q))
    ∧ Makes (enterRoots repeated (Path.ofText "/b".toList)) s'.files repeatedRoots s'.files := by
  obtain ⟨s', henter⟩ : ∃ s', run (enterRoots repeated (Path.ofText "/b".toList))
      { files := baseOnly } = (.ok repeatedRoots, s') :=
    exists_run_of_toOption (by decide +kernel)
  obtain ⟨-, -, hdirs, hnew, hagain⟩ := enterRoots_complete (by decide +kernel)
    (s := { files := baseOnly }) wellFormed_baseOnly (by decide +kernel) henter
  exact ⟨by decide +kernel, s', henter, fun root hroot => (hdirs root hroot).2, hnew, hagain⟩

/-- Settings with a blank for a working directory. -/
def blankDirectory : Settings := { workingDirectory := .text " ".toList }

/-- A blank names no root, and yet it keeps the base directory from being the only one. -/
theorem blank_without_roots : baseOnly.WellFormed
    ∧ baseOnly.isDirectory (Path.ofText "/b".toList) = true
    ∧ (Path.ofText "/b".toList).root ≠ .relative
    ∧ blankDirectory.namedItems = []
    ∧ ∃ s', run (enterRoots blankDirectory (Path.ofText "/b".toList)) { files := baseOnly }
      = (.ok [], s') :=
  ⟨wellFormed_baseOnly, by decide +kernel, by decide +kernel, by decide +kernel,
    exists_run_of_toOption (by decide +kernel)⟩

end Discovery

end Typings
