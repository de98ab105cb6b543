import Typings.Proofs.FileTree.Fitting
import Typings.Proofs.FileTree.Resilient

/-!
# When operations succeed

Along a path that fits and that a tree lets pass, directories are made and emptied without an error,
and files are written unless a directory stands in their place.
-/

namespace Typings.FileTree

open Typings.Path Text

variable {t t' : FileTree} {p : Path}

/-! ## Making directories -/

/-- A directory that was made is a directory. -/
theorem isDirectory_of_makeDirectory (h : t.makeDirectory p = .ok t') :
    t'.isDirectory p = true := by
  obtain ⟨hgrown, hplace, -⟩ := makeDirectory_ok h
  rw [makeDirectory] at h
  cases hlocate : t.locate p with
  | error code => simp [hlocate] at h
  | ok place =>
    obtain rfl := locate_eq hlocate
    obtain ⟨hfits, hways⟩ := locate_iff.mp hlocate
    refine isDirectory_iff.mpr ⟨hfits, fun q hq => ?_⟩
    rcases goesThrough_iff_parent.mp hq with hq | rfl
    · rcases hgrown.entry q with heq | ⟨-, hdir, -⟩
      · rw [heq, hways q hq]
      · exact hdir
    · exact hplace

/-- Where a path leads to its place, a directory can be made or is there, unless a file is. -/
theorem makeDirectory_of_locate (hlocate : t.locate p = .ok p.place)
    (hfile : ∀ bytes, t.find? p.place ≠ some (.file bytes)) :
    (∃ made, t.makeDirectory p = .ok made)
    ∨ (t.makeDirectory p = .error .alreadyThere ∧ t.isDirectory p = true) := by
  rw [makeDirectory, isDirectory, status, hlocate]
  dsimp only
  cases hfind : t.find? p.place with
  | none => exact Or.inl ⟨_, rfl⟩
  | some entry =>
    cases entry with
    | directory => exact Or.inr ⟨rfl, rfl⟩
    | file bytes => exact absurd hfind (hfile bytes)

/-- Making sure of a directory succeeds along a path that fits and passes. -/
theorem ensure_of_passes {root : Root} {segments : List Text}
    (hfits : (⟨root, segments.reverse⟩ : Path).Fits)
    (hpass : t.Passes ⟨root, segments.reverse⟩) :
    ∃ made, t.ensure root segments = (none, made)
      ∧ made.isDirectory ⟨root, segments.reverse⟩ = true := by
  induction segments with
  | nil => exact ⟨t, rfl, by cases root <;> rfl⟩
  | cons s above ih =>
    have hparent := parent_reverse_cons root s above
    have hplace := hpass _ (Path.goesThrough_place _)
    rw [ensure]
    rcases locate_of_passes hfits hpass.parent with hlocate | hlocate
    · rcases makeDirectory_of_locate hlocate hplace with ⟨made, hmade⟩ | ⟨hthere, hdir⟩
      · rw [hmade]
        exact ⟨made, rfl, isDirectory_of_makeDirectory hmade⟩
      · rw [hthere]
        dsimp only
        rw [hdir, if_pos rfl]
        exact ⟨t, rfl, hdir⟩
    · -- once what should hold the directory is there, the path leads to its place
      have hmissing : t.makeDirectory ⟨root, (s :: above).reverse⟩ = .error .missing := by
        rw [makeDirectory, hlocate]
      obtain ⟨changed, hensure, hdir⟩ :=
        ih (hparent ▸ hfits.parent) (hparent ▸ hpass.parent)
      have hgrown := (ensure_cases t root above).1
      rw [hensure] at hgrown
      have hlocate' := locate_iff.mpr ⟨hfits, hparent ▸ (isDirectory_iff.mp hdir).2⟩
      rw [hmissing, hensure]
      dsimp only
      have hpass' := hgrown.passes hpass _ (Path.goesThrough_place _)
      rcases makeDirectory_of_locate hlocate' hpass' with
        ⟨made, hmade⟩ | ⟨hthere, hdir'⟩
      · rw [hmade]
        exact ⟨made, rfl, isDirectory_of_makeDirectory hmade⟩
      · rw [hthere]
        dsimp only
        rw [if_pos ⟨by simp, hdir'⟩]
        exact ⟨changed, rfl, hdir'⟩

theorem makeDirectories_of_passes (hfits : p.Fits) (hpass : t.Passes p) :
    ∃ made, t.makeDirectories p = (.ok (), made) ∧ made.isDirectory p = true := by
  have hrev : (⟨p.root, p.segments.reverse.reverse⟩ : Path) = p := by rw [List.reverse_reverse]
  obtain ⟨made, hensure, hdir⟩ : ∃ made, t.ensure p.root p.segments.reverse = (none, made)
      ∧ made.isDirectory ⟨p.root, p.segments.reverse.reverse⟩ = true :=
    ensure_of_passes (by rwa [hrev]) (by rwa [hrev])
  rw [hrev] at hdir
  refine ⟨made, ?_, hdir⟩
  rw [makeDirectories, hensure]

/-- A directory that was made with all that should hold it is a directory. -/
theorem isDirectory_of_ensure {root : Root} {segments : List Text} {made : FileTree}
    (h : t.ensure root segments = (none, made)) :
    made.isDirectory ⟨root, segments.reverse⟩ = true := by
  cases segments with
  | nil => cases root <;> rfl
  | cons s above =>
    rw [ensure] at h
    split at h
    · next first hmade =>
      cases h
      exact isDirectory_of_makeDirectory hmade
    · split at h
      · cases h
      · split at h
        · next last hmade =>
          cases h
          exact isDirectory_of_makeDirectory hmade
        · split at h
          · next hdir =>
            cases h
            exact hdir.2
          · cases h
    · split at h
      · next hdir =>
        cases h
        exact hdir
      · cases h

theorem isDirectory_of_makeDirectories (h : t.makeDirectories p = (.ok (), t')) :
    t'.isDirectory p = true := by
  rw [makeDirectories] at h
  split at h
  · next made hensure =>
    cases h
    simpa using isDirectory_of_ensure hensure
  · cases h

/-! ## Resilient operations -/

/-- An operation that succeeds at once is not called again. -/
theorem resilient_of_ok {attempts : Int} (hattempts : 1 ≤ attempts) {description : Text}
    {operation : FileTree → Except FileError Unit × FileTree} (h : operation t = (.ok (), t')) :
    resilient attempts description operation t = (.ok (), t') := by
  have hsome : ¬attempts < 1 := by omega
  rw [resilient, Retry.run]
  dsimp only
  rw [if_neg hsome]
  cases hspare : attempts.toNat - 1 with
  | zero =>
    rw [Retry.attempt, h]
    rfl
  | succ spare =>
    rw [Retry.attempt, h]
    rfl

theorem createDirectory_of_passes (hfits : p.Fits) (hpass : t.Passes p) :
    ∃ made, createDirectory p t = (.ok (), made) ∧ made.isDirectory p = true := by
  obtain ⟨made, hmake, hdir⟩ := makeDirectories_of_passes hfits hpass
  exact ⟨made, resilient_of_ok (by decide) hmake, hdir⟩

theorem isDirectory_of_createDirectory {attempts : Int}
    (h : createDirectory p t attempts = (.ok (), t')) :
    t'.isDirectory p = true := by
  rcases resilient_cases (R := fun _ _ => True) (fun _ => trivial) (fun _ _ => trivial)
    (fun _ => trivial) h with ⟨-, before, -, hlast⟩ | ⟨hne, -⟩
  · exact isDirectory_of_makeDirectories hlast
  · exact absurd rfl hne

/-- Removing a directory succeeds along a path without double dots that fits and passes. -/
theorem deleteDirectory_of_passes (hplain : p.IsPlain) (hfits : p.Fits) (hpass : t.Passes p) :
    ∃ emptied, deleteDirectory p t = (.ok (), emptied) := by
  suffices ∃ emptied, t.removeDirectory p = (.ok (), emptied) by
    obtain ⟨emptied, hremove⟩ := this
    exact ⟨emptied, resilient_of_ok (by decide) hremove⟩
  have hplace := hpass _ p.goesThrough_place
  rw [removeDirectory]
  rcases locate_of_passes hfits hpass.parent with hlocate | hlocate
  · rw [hlocate]
    dsimp only
    cases hfind : t.find? p.place with
    | none => exact ⟨t, rfl⟩
    | some entry =>
      cases entry with
      | file bytes => exact absurd hfind (hplace bytes)
      | directory =>
        dsimp only
        rw [place_of_isPlain hplain, locate_clear hplain, hlocate]
        exact ⟨_, rfl⟩
  · rw [hlocate]
    exact ⟨t, rfl⟩

/-- Replacing a directory succeeds along a path without double dots that fits and passes. -/
theorem replaceDirectory_of_passes (hplain : p.IsPlain) (ht : t.Closed) (hfits : p.Fits)
    (hpass : t.Passes p) :
    ∃ made, replaceDirectory p t = (.ok (), made) := by
  obtain ⟨emptied, hdelete⟩ := deleteDirectory_of_passes hplain hfits hpass
  have hpass' : emptied.Passes p := by
    rcases deleteDirectory_cases hplain ht hdelete with ⟨hne, -⟩ | ⟨-, hempty | ⟨rfl, -⟩⟩
    · exact absurd rfl hne
    · intro q hq bytes hfile
      rw [hempty.entry] at hfile
      split at hfile
      · cases hfile
      · exact hpass q hq bytes hfile
    · exact hpass
  obtain ⟨made, hcreate, -⟩ := createDirectory_of_passes hfits hpass'
  refine ⟨made, ?_⟩
  rw [replaceDirectory, hdelete]
  exact hcreate

/-- Removing a directory keeps paths apart. -/
theorem deleteDirectory_distinct (h : deleteDirectory p t = (.ok (), t')) (ht : t.Distinct) :
    t'.Distinct := by
  have hfilter : ∀ {u : FileTree}, u.Distinct → ∀ keep : List Text × Entry → Bool,
      FileTree.Distinct { entries := u.entries.filter keep } := by
    intro u hu keep
    have hkept : ((u.entries.filter keep).map (·.1)).Sublist (u.entries.map (·.1)) :=
      List.filter_sublist.map _
    exact ⟨hu.1.sublist hkept, fun hmem => hu.2 (hkept.subset hmem)⟩
  have hremove : ∀ {t₁ r t₂}, removeDirectory t₁ p = (r, t₂) → t₁.Distinct → t₂.Distinct := by
    intro t₁ r t₂ hremove ht₁
    rw [removeDirectory] at hremove
    split at hremove
    · cases hremove
      exact ht₁
    · cases hremove
      exact ht₁
    · split at hremove
      · cases hremove
        exact ht₁
      · cases hremove
        exact ht₁
      · dsimp only at hremove
        split at hremove
        · cases hremove
          exact hfilter ht₁ _
        · cases hremove
          exact hfilter (hfilter ht₁ _) _
  rcases resilient_cases (R := fun t₁ t₂ => t₁.Distinct → t₂.Distinct) (fun _ h => h)
    (fun h₁ h₂ h => h₂ (h₁ h)) hremove h with ⟨-, before, hbefore, hlast⟩ | ⟨hne, -⟩
  · exact hremove hlast (hbefore ht)
  · exact absurd rfl hne

theorem replaceDirectory_distinct (h : replaceDirectory p t = (.ok (), t')) (ht : t.Distinct) :
    t'.Distinct := by
  rw [replaceDirectory] at h
  split at h
  · cases h
  · next t₁ hdelete =>
    exact (createDirectory_cases h).1.distinct (deleteDirectory_distinct hdelete ht)

theorem isDirectory_of_replaceDirectory (h : replaceDirectory p t = (.ok (), t')) :
    t'.isDirectory p = true := by
  rw [replaceDirectory] at h
  split at h
  · cases h
  · exact isDirectory_of_createDirectory h

/-- A directory that was replaced and can be entered had no file on the way to it. -/
theorem ReplacedFor.passes (h : ReplacedFor p t t') (hplain : p.IsPlain)
    (hdir : t'.isDirectory p = true) : t.Passes p := by
  intro q hq bytes hfile
  by_cases hin : p.segments <+: q
  · have habove := (goesThrough_iff_of_isPlain hplain).mp hq
    rw [habove.eq_of_length_le hin.length_le] at hfile
    obtain ⟨emptied, hempty, -⟩ := h
    exact hempty.noFile bytes hfile
  · -- a file on the way would still be there
    rw [← h.file_iff hfile, (isDirectory_iff.mp hdir).2 q hq] at hin
    cases hin

/-! ## Writing files -/

/-- A file is written along a path that fits, if the tree lets the parent pass, and if neither a
directory nor what is on the way to the file stands in its place. -/
theorem writeText_of_passes (ht : t.Closed) (hfits : p.Fits) (hpass : t.Passes p.parent)
    (hplace : t.find? p.place ≠ some .directory) (hway : ¬p.parent.GoesThrough p.place)
    (content : Text) : ∃ written, t.writeText p content = (.ok (), written) := by
  obtain ⟨made, hmake, hdir⟩ := makeDirectories_of_passes hfits.parent hpass
  have hgrown := (makeDirectories_cases hmake).1
  have hlocate := locate_iff.mpr ⟨hfits, (isDirectory_iff.mp hdir).2⟩
  have hheld := (hgrown.closed ht).locate_held hlocate
  have hsame : made.find? p.place = t.find? p.place := by
    rcases hgrown.entry p.place with heq | ⟨-, -, hin⟩
    · exact heq
    · exact absurd hin hway
  rw [writeText, hmake]
  dsimp only
  rw [write, hlocate]
  dsimp only
  rw [hsame, hheld]
  cases hfind : t.find? p.place with
  | none => exact ⟨_, rfl⟩
  | some entry =>
    cases entry with
    | directory => exact absurd hfind hplace
    | file bytes => exact ⟨_, rfl⟩

theorem openForWrite_of_passes (ht : t.Closed) (hfits : p.Fits) (hpass : t.Passes p.parent)
    (hplace : t.find? p.place ≠ some .directory) (hway : ¬p.parent.GoesThrough p.place)
    (content : Text) : ∃ written, openForWrite p content t = (.ok (), written) := by
  obtain ⟨written, hwrite⟩ := writeText_of_passes ht hfits hpass hplace hway content
  exact ⟨written, resilient_of_ok (by decide) hwrite⟩

theorem WrittenAt.closed {bytes : Bytes} (h : WrittenAt p bytes t t') (ht : t.Closed) :
    t'.Closed := by
  obtain ⟨made, hgrown, hready, rfl⟩ := h
  exact (hgrown.closed ht).insert hready.place hready.held (Or.inr hready.notDirectory)

theorem WrittenAt.distinct {bytes : Bytes} (h : WrittenAt p bytes t t') (ht : t.Distinct) :
    t'.Distinct := by
  obtain ⟨made, hgrown, hready, rfl⟩ := h
  exact (hgrown.distinct ht).insert hready.place _

/-- A file that was written can be read. -/
theorem WrittenAt.read {bytes : Bytes} (hfits : p.Fits) (h : WrittenAt p bytes t t') :
    t'.read p = .ok bytes := by
  obtain ⟨made, -, hready, rfl⟩ := h
  refine read_iff.mpr ⟨hfits, fun q hq => ?_, by rw [find?_insert _ hready.place, if_pos rfl]⟩
  have hdir := hready.ways q hq
  rw [find?_insert _ hready.place, if_neg]
  · exact hdir
  · rintro rfl
    exact hready.notDirectory hdir

theorem fits_of_write {bytes : Bytes} (h : t.write p bytes = .ok t') : p.Fits := by
  rw [write] at h
  split at h
  · cases h
  · next place hlocate => exact fits_of_locate hlocate

theorem read_of_write {bytes : Bytes} (h : t.write p bytes = .ok t') : t'.read p = .ok bytes :=
  WrittenAt.read (fits_of_write h) ⟨t, .refl _ t, write_ok h⟩

/-- Whether a file can be set does not depend on its bytes. -/
theorem exists_write {bytes : Bytes} (h : t.write p bytes = .ok t') (others : Bytes) :
    ∃ written, t.write p others = .ok written := by
  rw [write] at h ⊢
  split at h
  · cases h
  · split at h
    · cases h
    · exact ⟨_, rfl⟩
    · cases h
    · cases h

/-- A path along which a file was written fits. -/
theorem fits_of_openForWrite {content : Text} {attempts : Int}
    (h : openForWrite p content t attempts = (.ok (), t')) : p.Fits := by
  rcases resilient_cases (R := fun _ _ => True) (fun _ => trivial) (fun _ _ => trivial)
    (fun _ => trivial) h with ⟨-, before, -, hlast⟩ | ⟨hne, -⟩
  · rw [writeText] at hlast
    split at hlast
    · cases hlast
    · next made hmake =>
      split at hlast
      · cases hlast
      · next written hwrite => exact fits_of_write hwrite
  · exact absurd rfl hne

/-! ## Trees within other trees -/

/-- Whether one tree has a directory or a file wherever the other has one. The bytes of the files
may differ. -/
structure Within (t t' : FileTree) : Prop where
  directory : ∀ q, t.find? q = some .directory → t'.find? q = some .directory
  file : ∀ q bytes, t.find? q = some (.file bytes) → ∃ found, t'.find? q = some (.file found)

namespace Within

theorem refl (t : FileTree) : t.Within t := ⟨fun _ h => h, fun _ bytes h => ⟨bytes, h⟩⟩

theorem trans {t₁ t₂ : FileTree} (h₁ : t.Within t₁) (h₂ : t₁.Within t₂) : t.Within t₂ := by
  refine ⟨fun q hq => h₂.directory q (h₁.directory q hq), fun q bytes hq => ?_⟩
  obtain ⟨found, hfound⟩ := h₁.file q bytes hq
  exact h₂.file q found hfound

/-- Only what is found in a tree matters for what it is within. -/
theorem congr {u : FileTree} (h : t.Within t') (hsame : ∀ q, u.find? q = t.find? q) :
    u.Within t' :=
  ⟨fun q hq => h.directory q (hsame q ▸ hq), fun q bytes hq => h.file q bytes (hsame q ▸ hq)⟩

/-- What can be read in a tree can be read in every tree that it is within. -/
theorem read (h : t.Within t') {bytes : Bytes} (hread : t.read p = .ok bytes) :
    ∃ found, t'.read p = .ok found := by
  obtain ⟨hfits, hways, hfile⟩ := read_iff.mp hread
  obtain ⟨found, hfound⟩ := h.file _ _ hfile
  exact ⟨found, read_iff.mpr ⟨hfits, fun q hq => h.directory q (hways q hq), hfound⟩⟩

/-- Where a tree has a directory, one within it has no file. -/
theorem not_file (h : t.Within t') {q : List Text} (hq : t'.find? q = some .directory)
    (bytes : Bytes) : t.find? q ≠ some (.file bytes) := by
  intro hfile
  obtain ⟨found, hfound⟩ := h.file q bytes hfile
  rw [hq] at hfound
  cases hfound

/-- Where a tree has a file, one within it has no directory. -/
theorem not_directory (h : t.Within t') {q : List Text} {bytes : Bytes}
    (hq : t'.find? q = some (.file bytes)) : t.find? q ≠ some .directory := by
  intro hdir
  rw [h.directory q hdir] at hq
  cases hq

end Within

/-- Writing a file takes nothing away. -/
theorem WrittenAt.within {bytes : Bytes} (h : WrittenAt p bytes t t') : t.Within t' := by
  obtain ⟨made, hgrown, hready, rfl⟩ := h
  have hkept : ∀ {q entry}, t.find? q = some entry → made.find? q = some entry := by
    intro q entry hfound
    rcases hgrown.entry q with heq | ⟨hnone, -⟩
    · rw [heq, hfound]
    · rw [hfound] at hnone
      cases hnone
  refine ⟨fun q hq => ?_, fun q found hq => ?_⟩
  · rw [find?_insert _ hready.place, if_neg]
    · exact hkept hq
    · rintro rfl
      exact hready.notDirectory (hkept hq)
  · rw [find?_insert _ hready.place]
    split
    · exact ⟨bytes, rfl⟩
    · exact ⟨found, hkept hq⟩

/-- A file can be written in a tree that is within one where it can be read, and the tree stays
within that one. -/
theorem Within.openForWrite {u : FileTree} (h : t.Within u) (ht : t.Closed) {found : Bytes}
    (hread : u.read p = .ok found) (content : Text) :
    ∃ written, openForWrite p content t = (.ok (), written) ∧ written.Within u := by
  obtain ⟨hfits, hways, hfile⟩ := read_iff.mp hread
  have hplace : ¬p.parent.GoesThrough p.place := by
    intro hin
    rw [hways _ hin] at hfile
    cases hfile
  obtain ⟨written, hopen⟩ := openForWrite_of_passes ht hfits
    (fun q hq bytes => h.not_file (hways q hq) bytes) (h.not_directory hfile) hplace content
  refine ⟨written, hopen, ?_⟩
  rcases openForWrite_cases hopen with ⟨-, made, hgrown, hready, rfl⟩ | ⟨hne, -⟩
  · have hmade : made.Within u := by
      refine ⟨fun q hq => ?_, fun q bytes hq => h.file q bytes (hgrown.file_iff.mp hq)⟩
      rcases hgrown.entry q with heq | ⟨-, -, hin⟩
      · exact h.directory q (heq ▸ hq)
      · exact hways q hin
    refine ⟨fun q hq => ?_, fun q bytes hq => ?_⟩
    all_goals rw [find?_insert _ hready.place] at hq
    · split at hq
      · cases hq
      · exact hmade.directory q hq
    · split at hq
      · next heq =>
        rw [heq]
        exact ⟨found, hfile⟩
      · exact hmade.file q bytes hq
  · exact absurd rfl hne

end Typings.FileTree
