import Typings.Proofs.FileTree.Directories

/-!
# Paths that fit

A path fits if nothing about its text or its names is refused, and a tree lets it pass if no file
stands on its way. Where a path leads in a tree is decided by that alone, and by what is missing on
the way.
-/

namespace Typings

open Typings.Path Text

/-! ## Paths that fit -/

namespace Path

/-- Whether a path is refused in no tree, neither as a whole nor for one of its names. -/
def Fits (p : Path) : Prop :=
  p.refusal? = none ∧ ∀ s ∈ p.segments, s = dotDot ∨ size s ≤ maxNameSize

theorem refusal?_eq_none_iff {p : Path} :
    p.refusal? = none ↔ Char.ofNat 0 ∉ p.text ∧ size p.text ≤ maxSize := by
  rw [refusal?, textRefusal?]
  by_cases hzero : Char.ofNat 0 ∈ p.text
  · simp [hzero]
  · simp [hzero]

/-- A path by itself is never refused for what a tree lacks. -/
theorem refusal?_ne_missing (p : Path) : p.refusal? ≠ some .missing := by
  grind [refusal?, textRefusal?]

/-- What starts a text takes no more bytes than the text. -/
theorem size_le_of_start {s t : Text} (h : s <+: t) : size s ≤ size t := by
  obtain ⟨rest, rfl⟩ := h
  simp [size, encode]

/-- The text of the parent starts the text of a path, unless it is a single dot. -/
theorem text_parent (p : Path) : p.parent.text = dot ∨ p.parent.text <+: p.text := by
  obtain ⟨root, segments⟩ := p
  rcases List.eq_nil_or_concat segments with rfl | ⟨init, last, rfl⟩
  · exact Or.inr List.prefix_rfl
  · rw [parent, List.concat_eq_append, List.dropLast_concat, text, text]
    by_cases hdot : root = .relative ∧ init = []
    · exact Or.inl (if_pos hdot)
    · right
      rw [if_neg hdot, if_neg (by simp)]
      rcases eq_or_ne init [] with rfl | hne
      · exact (List.prefix_append_right_inj _).mpr List.nil_prefix
      · rw [joinWith_concat _ hne, List.append_assoc]
        exact (List.prefix_append_right_inj _).mpr (List.prefix_append _ _)

/-- What holds a path that fits fits as well. -/
theorem Fits.parent {p : Path} (h : p.Fits) : p.parent.Fits := by
  refine ⟨?_, fun s hs => h.2 s (List.mem_of_mem_dropLast hs)⟩
  obtain ⟨hzero, hsize⟩ := refusal?_eq_none_iff.mp h.1
  rw [refusal?_eq_none_iff]
  rcases p.text_parent with hdot | hstart
  · rw [hdot]
    decide
  · exact ⟨fun hmem => hzero (hstart.subset hmem), (size_le_of_start hstart).trans hsize⟩

/-- A path goes through its own place and through what its parent goes through. -/
theorem goesThrough_iff_parent {p : Path} {q : List Text} :
    p.GoesThrough q ↔ p.parent.GoesThrough q ∨ q = p.place := by
  constructor
  · rintro ⟨before, hbefore, rfl⟩
    by_cases heq : before = p.segments
    · exact Or.inr (by rw [heq]; rfl)
    · refine Or.inl ⟨before, ?_, rfl⟩
      rcases List.eq_nil_or_concat p.segments with hnil | ⟨init, last, hlast⟩
      · rw [hnil] at hbefore heq
        exact absurd (List.prefix_nil.mp hbefore) heq
      · rw [hlast, List.concat_eq_append] at hbefore heq
        rw [Path.parent, hlast, List.concat_eq_append, List.dropLast_concat]
        rcases List.prefix_concat_iff.mp hbefore with h | h
        · exact absurd h heq
        · exact h
  · rintro (h | rfl)
    · exact h.of_parent
    · exact p.goesThrough_place

end Path

namespace FileTree

variable {t t' : FileTree} {p : Path}

/-! ## Following paths that fit -/

/-- Whether no file stands on the way of a path. -/
def Passes (t : FileTree) (p : Path) : Prop :=
  ∀ q, p.GoesThrough q → ∀ bytes, t.find? q ≠ some (.file bytes)

theorem Passes.parent (h : t.Passes p) : t.Passes p.parent := fun q hq => h q hq.of_parent

/-- Growth puts no file on any way. -/
theorem GrownBy.passes {allowed : List Text → Prop} (h : GrownBy allowed t t')
    (hpass : t.Passes p) : t'.Passes p :=
  fun q hq bytes hfile => hpass q hq bytes (h.file_iff.mp hfile)

/-- A way of nothing but directories is passed. -/
theorem passes_of_directories (h : ∀ q, p.GoesThrough q → t.find? q = some .directory) :
    t.Passes p := by
  intro q hq bytes hfile
  rw [h q hq] at hfile
  cases hfile

/-- Segments whose names are short enough and that meet no file before the last one lead to their
place, unless something on the way is missing. -/
theorem follow_of_free {here segments : List Text} (hhere : dotDot ∉ here)
    (hshort : ∀ s ∈ segments, s = dotDot ∨ size s ≤ maxNameSize)
    (hfree : ∀ before, before <+: segments → before ≠ segments →
      ∀ bytes, t.find? (resolveFrom dotDot false here.reverse before) ≠ some (.file bytes)) :
    t.follow here segments = .ok (resolveFrom dotDot false here.reverse segments)
    ∨ t.follow here segments = .error .missing := by
  induction segments generalizing here with
  | nil => exact Or.inl (by rw [follow, resolveFrom_nil, List.reverse_reverse])
  | cons s rest ih =>
    -- the walk from the next place on meets what this walk meets after its first step
    have hmore : ∀ {next : List Text}, dotDot ∉ next →
        (∀ before, resolveFrom dotDot false next.reverse before
          = resolveFrom dotDot false here.reverse (s :: before)) →
        t.follow next rest = .ok (resolveFrom dotDot false here.reverse (s :: rest))
        ∨ t.follow next rest = .error .missing := by
      intro next hnext hstep
      rw [← hstep]
      refine ih hnext (fun r hr => hshort r (List.mem_cons_of_mem _ hr)) ?_
      intro before hbefore hne
      rw [hstep]
      exact hfree _ (by simpa using hbefore) (by simpa using hne)
    have hhere' := hfree [] List.nil_prefix (by simp)
    rw [resolveFrom_nil, List.reverse_reverse] at hhere'
    rw [follow]
    split
    · exact Or.inr rfl
    · next bytes hfile => exact absurd hfile (hhere' bytes)
    · split
      · next hs =>
        subst hs
        exact hmore (fun hmem => hhere (List.mem_of_mem_dropLast hmem))
          fun before => resolveFrom_dropLast hhere before
      · next hs =>
        have hsize : ¬maxNameSize < size s :=
          Nat.not_lt.mpr ((hshort s List.mem_cons_self).resolve_left hs)
        rw [if_neg hsize]
        exact hmore (by simp [hhere, Ne.symm hs]) fun before =>
          resolveFrom_concat false hs here before

/-- What segments lead to before the last of them, the parent goes through. -/
theorem goesThrough_parent_of_start {before : List Text} (hbefore : before <+: p.segments)
    (hne : before ≠ p.segments) : p.parent.GoesThrough (resolveFrom dotDot false [] before) := by
  refine ⟨before, ?_, rfl⟩
  rw [parent, List.dropLast_eq_take]
  refine List.prefix_take_iff.mpr ⟨hbefore, ?_⟩
  have hlength := hbefore.length_le
  have : before.length ≠ p.segments.length := fun h => hne (hbefore.eq_of_length h)
  omega

/-- A path that leads nowhere because something is missing goes through it. -/
theorem locate_missing (h : t.locate p = .error .missing) :
    ∃ q, p.parent.GoesThrough q ∧ t.find? q = none := by
  rw [locate] at h
  split at h
  · next code hrefusal =>
    cases h
    exact absurd hrefusal p.refusal?_ne_missing
  · obtain ⟨before, hbefore, hne, hnone⟩ := follow_missing List.not_mem_nil h
    exact ⟨_, goesThrough_parent_of_start hbefore hne, hnone⟩

/-- A path that fits, and whose parent the tree lets pass, leads to its place, unless something on
the way is missing. -/
theorem locate_of_passes (hfits : p.Fits) (hpass : t.Passes p.parent) :
    t.locate p = .ok p.place ∨ t.locate p = .error .missing := by
  rw [locate, hfits.1]
  exact follow_of_free List.not_mem_nil hfits.2
    fun before hbefore hne => hpass _ (goesThrough_parent_of_start hbefore hne)

/-- The names of segments that lead somewhere are short enough. -/
theorem short_of_follow {here segments q : List Text} (h : t.follow here segments = .ok q) :
    ∀ s ∈ segments, s = dotDot ∨ size s ≤ maxNameSize := by
  induction segments generalizing here with
  | nil => simp
  | cons s rest ih =>
    rw [follow] at h
    split at h
    · cases h
    · cases h
    · split at h
      · next hs => simpa [hs] using ih h
      · split at h
        · cases h
        · next hsize => simpa [Nat.not_lt.mp hsize] using ih h

/-- A path that leads anywhere fits. -/
theorem fits_of_locate {q : List Text} (h : t.locate p = .ok q) : p.Fits := by
  refine ⟨refusal?_of_locate h, ?_⟩
  rw [locate, refusal?_of_locate h] at h
  exact short_of_follow h

/-- Names that are short enough are never refused as too long. -/
theorem follow_ne_nameTooLong {here segments : List Text}
    (hshort : ∀ s ∈ segments, s = dotDot ∨ size s ≤ maxNameSize) :
    t.follow here segments ≠ .error .nameTooLong := by
  induction segments generalizing here with
  | nil => simp [follow]
  | cons s rest ih =>
    have hrest : ∀ r ∈ rest, r = dotDot ∨ size r ≤ maxNameSize :=
      fun r hr => hshort r (List.mem_cons_of_mem _ hr)
    rw [follow]
    split
    · simp
    · simp
    · split
      · exact ih hrest
      · next hs =>
        rw [if_neg (Nat.not_lt.mpr ((hshort s List.mem_cons_self).resolve_left hs))]
        exact ih hrest

theorem locate_ne_nameTooLong (h : p.Fits) : t.locate p ≠ .error .nameTooLong := by
  rw [locate, h.1]
  exact follow_ne_nameTooLong h.2

/-- A path leads to its place exactly if it fits and goes through nothing but directories before. -/
theorem locate_iff : t.locate p = .ok p.place
    ↔ p.Fits ∧ ∀ q, p.parent.GoesThrough q → t.find? q = some .directory := by
  constructor
  · intro h
    refine ⟨fits_of_locate h, fun q hq => ?_⟩
    by_cases hne : p.segments = []
    · obtain ⟨before, hbefore, rfl⟩ := hq
      rw [parent, hne] at hbefore
      rw [List.prefix_nil.mp hbefore]
      simp
    · exact locate_through h hne hq
  · rintro ⟨hfits, hways⟩
    rcases locate_of_passes hfits (passes_of_directories hways) with hok | hmissing
    · exact hok
    · obtain ⟨q, hq, hnone⟩ := locate_missing hmissing
      rw [hways q hq] at hnone
      cases hnone

theorem isDirectory_iff : t.isDirectory p = true
    ↔ p.Fits ∧ ∀ q, p.GoesThrough q → t.find? q = some .directory := by
  constructor
  · intro h
    have hplace := (holds_of_isDirectory h).1
    rw [isDirectory, status] at h
    cases hlocate : t.locate p with
    | error code => simp [hlocate] at h
    | ok place =>
      obtain rfl := locate_eq hlocate
      exact ⟨fits_of_locate hlocate, fun q => locate_through_directory hlocate hplace⟩
  · rintro ⟨hfits, hways⟩
    have hlocate := locate_iff.mpr ⟨hfits, fun q hq => hways q hq.of_parent⟩
    rw [isDirectory, status, hlocate]
    dsimp only
    rw [hways _ p.goesThrough_place]

/-- Growth keeps directories. -/
theorem GrownBy.isDirectory {allowed : List Text → Prop} (h : GrownBy allowed t t')
    (hdir : t.isDirectory p = true) : t'.isDirectory p = true := by
  obtain ⟨hfits, hways⟩ := isDirectory_iff.mp hdir
  refine isDirectory_iff.mpr ⟨hfits, fun q hq => ?_⟩
  rcases h.entry q with heq | ⟨-, hmade, -⟩
  · rw [heq, hways q hq]
  · exact hmade

/-- A path reads a file exactly if it fits, goes through directories and leads to a file. -/
theorem read_iff {bytes : Bytes} : t.read p = .ok bytes
    ↔ p.Fits ∧ (∀ q, p.parent.GoesThrough q → t.find? q = some .directory)
      ∧ t.find? p.place = some (.file bytes) := by
  rw [read, status]
  constructor
  · intro h
    cases hlocate : t.locate p with
    | error code => simp [hlocate] at h
    | ok place =>
      obtain rfl := locate_eq hlocate
      rw [hlocate] at h
      dsimp only at h
      cases hfind : t.find? p.place with
      | none => simp [hfind] at h
      | some entry =>
        cases entry with
        | directory => simp [hfind] at h
        | file found =>
          rw [hfind] at h
          cases h
          obtain ⟨hfits, hways⟩ := locate_iff.mp hlocate
          exact ⟨hfits, hways, rfl⟩
  · rintro ⟨hfits, hways, hfile⟩
    rw [locate_iff.mpr ⟨hfits, hways⟩]
    dsimp only
    rw [hfile]

/-- No name is too long on a way that the tree lets pass. -/
theorem lookError?_of_passes (hfits : p.Fits) (hpass : t.Passes p.parent) :
    t.lookError? p = none := by
  rw [lookError?, status]
  rcases locate_of_passes hfits hpass with hlocate | hlocate
  · rw [hlocate]
    dsimp only
    cases t.find? p.place <;> rfl
  · rw [hlocate]

end FileTree

end Typings
