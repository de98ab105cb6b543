import Typings.Discovery.Scan
import Typings.Proofs.FileTree.Directories
import Typings.Proofs.Naming

/-!
# What a scan finds

A scan without an error finds exactly the files below the roots that have the source extension, and
a scan that stops early finds some of them. Every source found has a folder that is made of names.
-/

namespace Typings.Discovery

open FileTree Typings.Path Text

variable {files : FileTree} {extension : Option RawText} {root : Path} {sources : List SourceFile}

/-! ## Errors -/

theorem mem_untilError {ε α : Type} {l : List (Except ε α)} {a : α} (h : a ∈ (untilError l).1) :
    .ok a ∈ l := by
  induction l with
  | nil => simp [untilError] at h
  | cons x l ih =>
    cases x with
    | error e => simp [untilError] at h
    | ok b =>
      rw [untilError] at h
      rcases List.mem_cons.mp h with rfl | h
      · simp
      · exact List.mem_cons_of_mem _ (ih h)

/-- Without an error nothing is left out. -/
theorem eq_map_of_untilError {ε α : Type} {l : List (Except ε α)}
    (h : (untilError l).2 = none) : l = (untilError l).1.map .ok := by
  induction l with
  | nil => rfl
  | cons x l ih =>
    cases x with
    | error e => simp [untilError] at h
    | ok a =>
      rw [untilError] at h ⊢
      rw [List.map_cons, ← ih h]

/-! ## Files below a place -/

theorem mem_filesBelow {place names : List Text} {bytes : Bytes} :
    (names, bytes) ∈ filesBelow files place ↔ (place ++ names, .file bytes) ∈ files.entries := by
  rw [filesBelow, (sortBy_perm _ _).mem_iff, List.mem_filterMap]
  constructor
  · rintro ⟨⟨q, entry⟩, hmem, h⟩
    cases entry with
    | directory => simp at h
    | file found =>
      simp only [Option.ite_none_right_eq_some, Option.some.injEq, Prod.mk.injEq,
        List.isPrefixOf_iff_prefix] at h
      obtain ⟨⟨below, rfl⟩, hnames, rfl⟩ := h
      rw [List.drop_left] at hnames
      exact hnames ▸ hmem
  · intro hmem
    exact ⟨_, hmem, by simp⟩

/-- In a directory, what is listed below it are the files below it. -/
theorem mem_filesBelow_iff (hfiles : files.Distinct) {place : List Text}
    (hdir : files.find? place = some .directory) {names : List Text} {bytes : Bytes} :
    (names, bytes) ∈ filesBelow files place
      ↔ names ≠ [] ∧ files.find? (place ++ names) = some (.file bytes) := by
  rw [mem_filesBelow, hfiles.mem_iff]
  constructor
  · rintro ⟨-, hfile⟩
    refine ⟨?_, hfile⟩
    rintro rfl
    simp [hdir] at hfile
  · rintro ⟨hne, hfile⟩
    exact ⟨by simp [hne], hfile⟩

/-- A source file below a root: its name has the extension, whose text is `spelled`. -/
structure HasSource (files : FileTree) (extension : Option RawText) (root : Path) (spelled : Text)
    (names : List Text) (bytes : Bytes) : Prop where
  extension : extension.bind RawText.text? = some spelled
  below : names ≠ []
  named : hasExtension spelled (names.getLast?.getD []) = true
  file : files.find? (root.place ++ names) = some (.file bytes)

/-- What a scan of one root comes to: the root cannot be scanned, or its sources are loaded up to
the first error. -/
theorem scan_cases (hfiles : files.Distinct) (extension : Option RawText) (root : Path) :
    (∃ e, scan files extension root = ([], some e))
    ∨ ∃ found : List (Text × List Text × Bytes),
      scan files extension root = untilError (found.map fun f => loadSource f.1 root f.2)
      ∧ ∀ spelled names bytes,
        (spelled, names, bytes) ∈ found ↔ HasSource files extension root spelled names bytes := by
  rw [scan]
  split
  · exact Or.inl ⟨_, rfl⟩
  · next place hlocate =>
    obtain rfl := locate_eq hlocate
    split
    · exact Or.inl ⟨_, rfl⟩
    · exact Or.inl ⟨_, rfl⟩
    · next hdir =>
      have hbelow : ∀ {names bytes}, (names, bytes) ∈ filesBelow files root.place
          ↔ names ≠ [] ∧ files.find? (root.place ++ names) = some (.file bytes) :=
        mem_filesBelow_iff hfiles hdir
      split
      · -- there are no files at all, so the extension is not even looked at
        next hnone =>
        refine Or.inr ⟨[], rfl, fun spelled names bytes => ?_⟩
        simp only [List.not_mem_nil, false_iff]
        intro h
        have := hbelow.mpr ⟨h.below, h.file⟩
        simp [hnone] at this
      · exact Or.inl ⟨_, rfl⟩
      · next raw _ =>
        split
        · -- no file has an extension that is no text
          next hspelled =>
          refine Or.inr ⟨[], rfl, fun spelled names bytes => ?_⟩
          simp only [List.not_mem_nil, false_iff]
          intro h
          simpa [hspelled] using h.extension
        · next spelled hspelled =>
          refine Or.inr ⟨((filesBelow files root.place).filter fun file =>
            hasExtension spelled (file.1.getLast?.getD [])).map (spelled, ·), ?_, ?_⟩
          · rw [List.map_map]
            rfl
          · intro other names bytes
            constructor
            · intro hmem
              obtain ⟨file, hfile, heq⟩ := List.mem_map.mp hmem
              cases heq
              obtain ⟨hin, hnamed⟩ := List.mem_filter.mp hfile
              exact ⟨hspelled, (hbelow.mp hin).1, hnamed, (hbelow.mp hin).2⟩
            · intro h
              obtain rfl : spelled = other := by simpa [hspelled] using h.extension
              exact List.mem_map.mpr ⟨_, List.mem_filter.mpr
                ⟨hbelow.mpr ⟨h.below, h.file⟩, h.named⟩, rfl⟩

/-! ## Sources of all roots -/

/-- Every source that a scan of one root finds is a file below it. -/
theorem hasSource_of_mem_scan (hfiles : files.Distinct) {source : SourceFile}
    (h : source ∈ (scan files extension root).1) :
    ∃ spelled names bytes, HasSource files extension root spelled names bytes
      ∧ loadSource spelled root (names, bytes) = .ok source := by
  rcases scan_cases hfiles extension root with
    ⟨e, hscan⟩ | ⟨found, hscan, hfound⟩
  · simp [hscan] at h
  · rw [hscan] at h
    obtain ⟨⟨spelled, names, bytes⟩, hmem, hload⟩ := List.mem_map.mp (mem_untilError h)
    exact ⟨spelled, names, bytes, (hfound _ _ _).mp hmem, hload⟩

/-- Every source that a scan of roots finds is a file below one of them. -/
theorem hasSource_of_mem_scanAll (hfiles : files.Distinct) {roots : List Path} {source : SourceFile}
    (h : source ∈ (scanAll files extension roots).1) :
    ∃ root ∈ roots, ∃ spelled names bytes, HasSource files extension root spelled names bytes
      ∧ loadSource spelled root (names, bytes) = .ok source := by
  induction roots with
  | nil => simp [scanAll] at h
  | cons root roots ih =>
    have hfirst : source ∈ (scan files extension root).1 ∨
        source ∈ (scanAll files extension roots).1 := by
      rw [scanAll] at h
      split at h
      · next hscan =>
        rw [hscan]
        exact Or.inl h
      · next hscan =>
        rw [hscan]
        exact List.mem_append.mp h
    rcases hfirst with h | h
    · exact ⟨root, by simp, hasSource_of_mem_scan hfiles h⟩
    · obtain ⟨r, hr, hsource⟩ := ih h
      exact ⟨r, by simp [hr], hsource⟩

/-- Every root of a scan without an error is a directory. -/
theorem directory_of_scanAll {roots : List Path}
    (h : scanAll files extension roots = (sources, none)) (hroot : root ∈ roots) :
    files.locate root = .ok root.place ∧ files.find? root.place = some .directory := by
  induction roots generalizing sources with
  | nil => simp at hroot
  | cons first roots ih =>
    rw [scanAll] at h
    split at h
    · cases h
    · next found hscan =>
      obtain ⟨-, hmore⟩ := Prod.mk.inj h
      rcases List.mem_cons.mp hroot with rfl | hroot
      · rw [scan] at hscan
        split at hscan
        · cases hscan
        · next place hlocate =>
          obtain rfl := locate_eq hlocate
          split at hscan
          · cases hscan
          · cases hscan
          · next hdir => exact ⟨hlocate, hdir⟩
      · exact ih (Prod.ext rfl hmore) hroot

/-- A scan without an error finds every file below its roots that has the extension. -/
theorem mem_scanAll_of_hasSource (hfiles : files.Distinct) {roots : List Path}
    (h : scanAll files extension roots = (sources, none)) (hroot : root ∈ roots)
    {spelled : Text} {names : List Text} {bytes : Bytes}
    (hsource : HasSource files extension root spelled names bytes) :
    ∃ source ∈ sources, loadSource spelled root (names, bytes) = .ok source := by
  induction roots generalizing sources with
  | nil => simp at hroot
  | cons first roots ih =>
    rw [scanAll] at h
    split at h
    · cases h
    · next found hscan =>
      obtain ⟨rfl, hmore⟩ := Prod.mk.inj h
      rcases List.mem_cons.mp hroot with rfl | hroot
      · rcases scan_cases hfiles extension root with
          ⟨e, herror⟩ | ⟨all, hall, hmem⟩
        · simp [herror] at hscan
        · rw [hall] at hscan
          -- without an error every file that was found was loaded
          have hloaded := eq_map_of_untilError (congrArg Prod.snd hscan)
          rw [congrArg Prod.fst hscan] at hloaded
          have hin := List.mem_map_of_mem (f := fun f => loadSource f.1 root f.2)
            ((hmem _ _ _).mpr hsource)
          rw [hloaded] at hin
          obtain ⟨source, hin, heq⟩ := List.mem_map.mp hin
          exact ⟨source, List.mem_append_left _ hin, heq.symm⟩
      · obtain ⟨source, hin, heq⟩ := ih (Prod.ext rfl hmore) hroot
        exact ⟨source, List.mem_append_right _ hin, heq⟩

/-- A source that was loaded is the one at its place, with the lines that its bytes hold. -/
theorem loadSource_ok {spelled : Text} {names : List Text} {bytes : Bytes} {source : SourceFile}
    (h : loadSource spelled root (names, bytes) = .ok source) :
    ∃ lines, linesOf source.path bytes = .ok lines
      ∧ source = sourceOf spelled root names lines := by
  rw [loadSource] at h
  split at h
  · next lines hlines =>
    cases h
    exact ⟨lines, hlines, rfl⟩
  · cases h

theorem slash_notMem_stem {extension name : Text} (h : '/' ∉ name) : '/' ∉ stem extension name := by
  rw [stem]
  split <;> exact fun hmem => h (List.mem_of_mem_take hmem)

theorem foldered_sourceOf (spelled : Text) (root : Path) {names : List Text} (lines : List Text)
    (h : ∀ s ∈ names, IsName s) :
    Foldered (sourceOf spelled root names lines).folder
      (sourceOf spelled root names lines).name := by
  refine ⟨⟨names.dropLast, fun s hs => h s (List.mem_of_mem_dropLast hs), rfl⟩, ?_⟩
  refine slash_notMem_pascalCase (slash_notMem_stem ?_)
  rcases List.eq_nil_or_concat names with rfl | ⟨init, last, rfl⟩
  · simp
  · have := h last (by simp)
    simpa using this.2.2.2

end Typings.Discovery
