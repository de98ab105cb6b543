import Mathlib.Tactic.Common
import Typings.Proofs.FileTree.Growth

/-!
# Making directories

Following a path leads to its place, whatever the tree holds on the way. Making a directory with all
that should hold it, whether it succeeds or not, grows the tree on the way to that place and
nowhere else.
-/

namespace Typings.FileTree

open Typings.Path Text

variable {t t' : FileTree} {p : Path}

/-! ## Following paths -/

/-- The place that segments lead to is told by the segments alone. -/
theorem follow_eq {here segments q : List Text} (hhere : dotDot ∉ here)
    (h : t.follow here segments = .ok q) :
    q = resolveFrom dotDot false here.reverse segments := by
  -- along the segments; the place that was reached so far has no double dots
  induction segments generalizing here with
  | nil =>
    rw [follow] at h
    cases h
    simp
  | cons s rest ih =>
    rw [follow] at h
    split at h
    · cases h
    · cases h
    · split at h
      · next hs =>
        subst hs
        have hdrop : dotDot ∉ here.dropLast := fun hmem => hhere (List.mem_of_mem_dropLast hmem)
        rw [ih hdrop h, resolveFrom_dropLast hhere]
      · next hs =>
        split at h
        · cases h
        · have hnew : dotDot ∉ here ++ [s] := by simp [hhere, Ne.symm hs]
          rw [ih hnew h, resolveFrom_concat false hs]

/-- A path leads to its place, if it leads anywhere. -/
theorem locate_eq {q : List Text} (h : t.locate p = .ok q) : q = p.place := by
  rw [locate] at h
  split at h
  · cases h
  · exact follow_eq List.not_mem_nil h

/-- A path that leads anywhere is not refused. -/
theorem refusal?_of_locate {q : List Text} (h : t.locate p = .ok q) : p.refusal? = none := by
  rw [locate] at h
  split at h
  · cases h
  · assumption

/-- In a closed tree the place that segments lead to is held by a directory. -/
theorem Closed.follow_held (ht : t.Closed) {here segments q : List Text}
    (hhere : t.find? here.dropLast = some .directory) (h : t.follow here segments = .ok q) :
    t.find? q.dropLast = some .directory := by
  induction segments generalizing here with
  | nil =>
    rw [follow] at h
    cases h
    exact hhere
  | cons s rest ih =>
    rw [follow] at h
    split at h
    · cases h
    · cases h
    · next hdir =>
      split at h
      · refine ih ?_ h
        rcases eq_or_ne here.dropLast [] with hnil | hne
        · simp [hnil]
        · exact ht _ hne (by simp [hhere])
      · split at h
        · cases h
        · exact ih (by rwa [List.dropLast_concat]) h

theorem Closed.locate_held (ht : t.Closed) {q : List Text} (h : t.locate p = .ok q) :
    t.find? q.dropLast = some .directory := by
  rw [locate] at h
  split at h
  · cases h
  · exact ht.follow_held (by simp) h

/-- Every place that segments go through before the last of them is a directory. -/
theorem follow_through {here segments q : List Text} (hhere : dotDot ∉ here)
    (h : t.follow here segments = .ok q) {before : List Text} (hbefore : before <+: segments)
    (hne : before ≠ segments) :
    t.find? (resolveFrom dotDot false here.reverse before) = some .directory := by
  induction segments generalizing here before with
  | nil => exact absurd (List.prefix_nil.mp hbefore) hne
  | cons s rest ih =>
    rw [follow] at h
    split at h
    · cases h
    · cases h
    · next hdir =>
      cases before with
      | nil => simpa using hdir
      | cons s' before =>
        obtain ⟨rfl, hstart⟩ := List.cons_prefix_cons.mp hbefore
        have hrest : before ≠ rest := fun heq => hne (by rw [heq])
        split at h
        · next hs =>
          subst hs
          have hdrop : dotDot ∉ here.dropLast := fun hmem => hhere (List.mem_of_mem_dropLast hmem)
          have hnext := ih hdrop h hstart hrest
          rwa [resolveFrom_dropLast hhere] at hnext
        · next hs =>
          split at h
          · cases h
          · have hnew : dotDot ∉ here ++ [s'] := by simp [hhere, Ne.symm hs]
            have hnext := ih hnew h hstart hrest
            rwa [resolveFrom_concat false hs] at hnext

/-- What holds the place of a path, and all that the path goes through on the way, are
directories. -/
theorem locate_through {q : List Text} (h : t.locate p = .ok q) (hne : p.segments ≠ [])
    {way : List Text} (hway : p.parent.GoesThrough way) : t.find? way = some .directory := by
  obtain ⟨before, hbefore, rfl⟩ := hway
  rw [locate] at h
  split at h
  · cases h
  · refine follow_through List.not_mem_nil h (hbefore.trans (List.dropLast_prefix _)) ?_
    rintro rfl
    have hlength := hbefore.length_le
    have hpos := List.length_pos_iff.mpr hne
    rw [parent, List.length_dropLast] at hlength
    omega

/-- A path that leads to a directory goes through nothing but directories. -/
theorem locate_through_directory (h : t.locate p = .ok p.place)
    (hdir : t.find? p.place = some .directory) {way : List Text} (hway : p.GoesThrough way) :
    t.find? way = some .directory := by
  obtain ⟨before, hbefore, rfl⟩ := hway
  by_cases heq : before = p.segments
  · rw [heq]
    exact hdir
  · rw [locate] at h
    split at h
    · cases h
    · exact follow_through List.not_mem_nil h hbefore heq

/-- Segments that lead nowhere because something is missing go through it. -/
theorem follow_missing {here segments : List Text} (hhere : dotDot ∉ here)
    (h : t.follow here segments = .error .missing) :
    ∃ before, before <+: segments ∧ before ≠ segments
      ∧ t.find? (resolveFrom dotDot false here.reverse before) = none := by
  induction segments generalizing here with
  | nil =>
    rw [follow] at h
    cases h
  | cons s rest ih =>
    -- what the walk from the next place on misses, this walk misses after its first step
    have hmore : ∀ {next : List Text}, dotDot ∉ next → t.follow next rest = .error .missing →
        (∀ before, resolveFrom dotDot false next.reverse before
          = resolveFrom dotDot false here.reverse (s :: before)) →
        ∃ before, before <+: s :: rest ∧ before ≠ s :: rest
          ∧ t.find? (resolveFrom dotDot false here.reverse before) = none := by
      intro next hnext hrest hstep
      obtain ⟨before, hbefore, hne, hnone⟩ := ih hnext hrest
      exact ⟨s :: before, by simpa using hbefore, by simpa using hne, by rw [← hstep, hnone]⟩
    rw [follow] at h
    split at h
    · next hnone => exact ⟨[], List.nil_prefix, by simp, by simpa using hnone⟩
    · cases h
    · split at h
      · next hs =>
        subst hs
        exact hmore (fun hmem => hhere (List.mem_of_mem_dropLast hmem)) h
          fun before => resolveFrom_dropLast hhere before
      · next hs =>
        split at h
        · cases h
        · exact hmore (by simp [hhere, Ne.symm hs]) h fun before =>
            resolveFrom_concat false hs here before

/-- Where names lead nowhere although none is too long, nothing is found at their place or below. -/
theorem Closed.follow_error (ht : t.Closed) {here segments : List Text} (hplain : dotDot ∉ segments)
    {code : ErrorCode} (h : t.follow here segments = .error code) :
    code = .nameTooLong ∨ ∀ q, here ++ segments <+: q → t.find? q = none := by
  induction segments generalizing here with
  | nil =>
    rw [follow] at h
    cases h
  | cons s rest ih =>
    have hs : s ≠ dotDot := fun hs => hplain (by simp [hs])
    have habove : ∀ {q}, here ++ s :: rest <+: q → here <+: q ∧ here ≠ q := by
      intro q hq
      refine ⟨(List.prefix_append _ _).trans hq, ?_⟩
      rintro rfl
      have hlength := hq.length_le
      rw [List.length_append, List.length_cons] at hlength
      omega
    rw [follow] at h
    -- nothing or a file is found on the way, or the last name is too long
    split at h
    · next hnone =>
      exact Or.inr fun q hq => ht.none_below (by simp [hnone]) (habove hq).1 (habove hq).2
    · next hfile =>
      exact Or.inr fun q hq => ht.none_below (by simp [hfile]) (habove hq).1 (habove hq).2
    · rw [if_neg hs] at h
      split at h
      · cases h
        exact Or.inl rfl
      · have := ih (fun hmem => hplain (List.mem_cons_of_mem _ hmem)) h
        rwa [List.append_assoc] at this

/-- Following names looks at nothing but what is above the place they lead to. -/
theorem follow_congr {here segments : List Text} (hplain : dotDot ∉ segments)
    (h : ∀ q, q <+: here ++ segments → q ≠ here ++ segments → t'.find? q = t.find? q) :
    t'.follow here segments = t.follow here segments := by
  induction segments generalizing here with
  | nil => rw [follow, follow]
  | cons s rest ih =>
    have hs : s ≠ dotDot := fun hs => hplain (by simp [hs])
    have hhere : t'.find? here = t.find? here := h here (List.prefix_append _ _) (by simp)
    have hrest : t'.follow (here ++ [s]) rest = t.follow (here ++ [s]) rest := by
      refine ih (fun hmem => hplain (List.mem_cons_of_mem _ hmem)) fun q hq hne => ?_
      rw [List.append_assoc] at hq hne
      exact h q hq hne
    rw [follow, follow, hhere, if_neg hs, if_neg hs, hrest]

/-! ## Making directories -/

/-- Whether a path leads to a directory and is not refused. -/
def Holds (t : FileTree) (p : Path) : Prop :=
  t.find? p.place = some .directory ∧ p.refusal? = none

/-- What has grown on the way to the parent of a path has grown on the way to the path. -/
theorem GrownBy.of_parent (h : GrownBy p.parent.GoesThrough t t') :
    GrownBy p.GoesThrough t t' :=
  h.mono fun _ => GoesThrough.of_parent

theorem holds_of_isDirectory (h : t.isDirectory p = true) : t.Holds p := by
  rw [isDirectory, status] at h
  split at h
  · next hstatus =>
    split at hstatus
    · cases hstatus
    · next place hlocate =>
      split at hstatus
      · cases hstatus
      · next entry hfind =>
        cases hstatus
        rw [locate_eq hlocate] at hfind
        exact ⟨hfind, refusal?_of_locate hlocate⟩
  · cases h

/-- A directory that was made is new. -/
theorem makeDirectory_ok (h : t.makeDirectory p = .ok t') :
    GrownBy p.GoesThrough t t' ∧ t'.Holds p := by
  rw [makeDirectory] at h
  split at h
  · cases h
  · next place hlocate =>
    split at h
    · cases h
    · next hnone =>
      cases h
      obtain rfl := locate_eq hlocate
      have hne : p.place ≠ [] := fun hnil => by simp [hnil] at hnone
      refine ⟨GrownBy.insert hnone p.goesThrough_place fun ht => ht.locate_held hlocate, ?_, ?_⟩
      · rw [find?_insert _ hne, if_pos rfl]
      · exact refusal?_of_locate hlocate

theorem holds_root (t : FileTree) (root : Root) : t.Holds ⟨root, []⟩ :=
  ⟨by simp [place, resolve], by cases root <;> decide⟩

/-- Making sure of a directory grows the tree on the way to it, and without an error it is there. -/
theorem ensure_cases (t : FileTree) (root : Root) (segments : List Text) :
    GrownBy (GoesThrough ⟨root, segments.reverse⟩) t (t.ensure root segments).2
    ∧ ((t.ensure root segments).1 = none →
      (t.ensure root segments).2.Holds ⟨root, segments.reverse⟩) := by
  induction segments with
  | nil => exact ⟨GrownBy.refl _ t, fun _ => holds_root t root⟩
  | cons s above ih =>
    rw [ensure]
    split
    · -- the directory is made at once
      next made hmade => exact ⟨(makeDirectory_ok hmade).1, fun _ => (makeDirectory_ok hmade).2⟩
    · -- what should hold the directory is made first
      obtain ⟨hmade, -⟩ := ih
      rw [← parent_reverse_cons root s above] at hmade
      have hfirst := hmade.of_parent
      split
      · next e changed hensure =>
        rw [hensure] at hfirst
        exact ⟨hfirst, by simp⟩
      · next changed hensure =>
        rw [hensure] at hfirst
        split
        · next made hlast =>
          exact ⟨hfirst.trans (makeDirectory_ok hlast).1, fun _ => (makeDirectory_ok hlast).2⟩
        · split
          · next hdir => exact ⟨hfirst, fun _ => holds_of_isDirectory hdir.2⟩
          · exact ⟨hfirst, by simp⟩
    · -- it cannot be made, be it that it is there already
      split
      · next hdir => exact ⟨GrownBy.refl _ t, fun _ => holds_of_isDirectory hdir⟩
      · exact ⟨GrownBy.refl _ t, by simp⟩

/-- Making a directory and all that should hold it grows the tree on the way to it, and if it
succeeds, the directory is there. -/
theorem makeDirectories_cases {r : Except FileError Unit} (h : t.makeDirectories p = (r, t')) :
    GrownBy p.GoesThrough t t' ∧ (r = .ok () → t'.Holds p) := by
  obtain ⟨hmade, hholds⟩ := ensure_cases t p.root p.segments.reverse
  rw [List.reverse_reverse] at hmade hholds
  rw [makeDirectories] at h
  split at h
  · next made hensure =>
    rw [hensure] at hmade hholds
    cases h
    exact ⟨hmade, fun _ => hholds rfl⟩
  · next e changed hensure =>
    rw [hensure] at hmade
    cases h
    exact ⟨hmade, by simp⟩

/-- A directory that could not be made is not made; what should hold it may be. -/
theorem ensure_failed {root : Root} {segments : List Text} {e : FileError}
    (h : t.ensure root segments = (some e, t')) :
    GrownBy (⟨root, segments.reverse⟩ : Path).parent.GoesThrough t t' := by
  cases segments with
  | nil => cases h
  | cons s above =>
    rw [parent_reverse_cons]
    have hfirst := (ensure_cases t root above).1
    rw [ensure] at h
    split at h
    · cases h
    · split at h
      · next e' changed hensure =>
        cases h
        rwa [hensure] at hfirst
      · next changed hensure =>
        rw [hensure] at hfirst
        split at h
        · cases h
        · split at h
          · cases h
          · cases h
            exact hfirst
    · split at h
      · cases h
      · cases h
        exact GrownBy.refl _ t

theorem makeDirectories_failed {e : FileError} (h : t.makeDirectories p = (.error e, t')) :
    GrownBy p.parent.GoesThrough t t' := by
  rw [makeDirectories] at h
  split at h
  · cases h
  · next hensure =>
    cases h
    simpa using ensure_failed hensure

/-! ## Writing files -/

/-- Whether a file can be set at a path: all on the way is there, and the path leads to no
directory. -/
structure ReadyFor (t : FileTree) (p : Path) : Prop where
  place : p.place ≠ []
  notDirectory : t.find? p.place ≠ some .directory
  held : t.find? p.place.dropLast = some .directory
  ways : ∀ q, p.parent.GoesThrough q → t.find? q = some .directory

/-- What is left of a tree after a file was written: the tree has grown on the way to what holds
the file, and the file was set. -/
def WrittenAt (p : Path) (bytes : Bytes) (t t' : FileTree) : Prop :=
  ∃ made, GrownBy p.parent.GoesThrough t made ∧ made.ReadyFor p
    ∧ t' = made.insert p.place (.file bytes)

/-- A file is set only where the tree is ready for it. -/
theorem write_ok {bytes : Bytes} (h : t.write p bytes = .ok t') :
    t.ReadyFor p ∧ t' = t.insert p.place (.file bytes) := by
  rw [write] at h
  split at h
  · cases h
  · next place hlocate =>
    obtain rfl := locate_eq hlocate
    split at h
    · cases h
    · next hheld hnot =>
      cases h
      have hne : p.place ≠ [] := by
        intro hnil
        exact hnot (by simp [hnil])
      have hsegments : p.segments ≠ [] := by
        intro hnil
        exact hne (by simp [place, resolve, hnil])
      exact ⟨⟨hne, hnot, hheld, fun _ hway => locate_through hlocate hsegments hway⟩, rfl⟩
    · cases h
    · cases h

/-- Writing a file makes what should hold it and sets the file; a failure only makes
directories. -/
theorem writeText_cases {content : Text} {r : Except FileError Unit}
    (h : t.writeText p content = (r, t')) :
    (r = .ok () ∧ WrittenAt p (encode content) t t')
    ∨ (r ≠ .ok () ∧ GrownBy p.parent.GoesThrough t t') := by
  rw [writeText] at h
  split at h
  · next e changed hmake =>
    cases h
    exact Or.inr ⟨by simp, (makeDirectories_cases hmake).1⟩
  · next made hmake =>
    obtain ⟨hmade, -⟩ := makeDirectories_cases hmake
    split at h
    · cases h
      exact Or.inr ⟨by simp, hmade⟩
    · next written hwrite =>
      cases h
      exact Or.inl ⟨rfl, made, hmade, write_ok hwrite⟩

end Typings.FileTree
