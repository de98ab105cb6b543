import Typings.FileTree.Resilient
import Typings.Proofs.FileTree.Directories
import Typings.Proofs.Retry

/-!
# What resilient operations leave behind

A call that fails makes directories at most, or does nothing at all. However many calls there are,
the tree after the last one is therefore one of few: grown, emptied below one place and then grown,
or grown and with one file set.
-/

namespace Typings.FileTree

open Typings.Path Text

variable {t t' : FileTree} {p : Path}

/-! ## Attempts -/

/-- Attempts that succeed end with a call that does, after calls that failed; otherwise all calls
failed. -/
theorem resilient_cases {R : FileTree → FileTree → Prop} (hrefl : ∀ t, R t t)
    (htrans : ∀ {t₁ t₂ t₃}, R t₁ t₂ → R t₂ t₃ → R t₁ t₃) {attempts : Int} {description : Text}
    {operation : FileTree → Except FileError Unit × FileTree}
    (hfail : ∀ {t e t'}, operation t = (.error e, t') → R t t') {r : Except FileFailure Unit}
    (h : resilient attempts description operation t = (r, t')) :
    (r = .ok () ∧ ∃ before, R t before ∧ operation before = (.ok (), t'))
    ∨ (r ≠ .ok () ∧ R t t') := by
  rw [resilient, Retry.run] at h
  dsimp only at h
  split at h
  · cases h
    exact Or.inr ⟨by simp [Retry.result, Except.mapError], hrefl t⟩
  · cases h
    rcases Retry.attempt_cases hrefl htrans hfail _ _ _ rfl with
      ⟨value, before, hdone, hbefore, hlast⟩ | ⟨hnone, hafter⟩
    · exact Or.inl ⟨by simp [Retry.result, hdone, Except.mapError], before, hbefore, hlast⟩
    · refine Or.inr ⟨?_, hafter⟩
      rw [Retry.result]
      split
      · next hdone => exact absurd hdone (hnone _)
      all_goals simp [Except.mapError]

/-! ## Emptying and replacing a directory -/

/-- What a tree has become when nothing is left at and below a place, which was that of no file. -/
structure EmptiedAt (place : List Text) (t t' : FileTree) : Prop where
  entry : ∀ q, t'.find? q = if place <+: q ∧ q ≠ [] then none else t.find? q
  noFile : ∀ bytes, t.find? place ≠ some (.file bytes)

theorem EmptiedAt.closed {place : List Text} (h : EmptiedAt place t t') (ht : t.Closed) :
    t'.Closed := by
  intro q hq hfound
  rw [h.entry] at hfound ⊢
  have hout : ¬(place <+: q ∧ q ≠ []) := fun hin => hfound (if_pos hin)
  rw [if_neg hout] at hfound
  rw [if_neg fun hin => hout ⟨hin.1.trans (List.dropLast_prefix q), hq⟩]
  exact ht q hq hfound

/-- Where nothing is found at and below a place, it is empty as it is. -/
theorem EmptiedAt.of_none {place : List Text} (h : ∀ q, place <+: q → t.find? q = none) :
    EmptiedAt place t t := by
  refine ⟨fun q => ?_, fun bytes hfile => ?_⟩
  · split
    · next hin => exact h q hin.1
    · rfl
  · rw [h place List.prefix_rfl] at hfile
    cases hfile

/-- In a closed tree a place where nothing is found is empty as it is. -/
theorem Closed.emptiedAt_of_none (ht : t.Closed) {place : List Text} (h : t.find? place = none) :
    EmptiedAt place t t := by
  refine EmptiedAt.of_none fun q hq => ?_
  rcases eq_or_ne place q with rfl | hne
  · exact h
  · exact ht.none_below (by simp [h]) hq hne

/-- Clearing and erasing the place of a directory empties it. -/
theorem emptiedAt_erase_clear {place : List Text} (h : t.find? place = some .directory) :
    EmptiedAt place t ((t.clear place).erase place) := by
  refine ⟨fun q => ?_, by simp [h]⟩
  rcases eq_or_ne q [] with rfl | hq
  · simp
  · rw [find?_erase _ _ hq, find?_clear]
    by_cases hin : place <+: q
    · simp [hin, hq]
    · simp [hin]

/-- Clearing a place leaves a path without double dots that leads to it. -/
theorem locate_clear (hplain : p.IsPlain) : (t.clear p.segments).locate p = t.locate p := by
  rw [locate, locate]
  split
  · rfl
  · refine follow_congr hplain fun q hq hne => ?_
    rw [List.nil_append] at hq hne
    rw [find?_clear, if_neg]
    rintro ⟨hpq, -⟩
    exact hne (hq.eq_of_length_le hpq.length_le)

/-- Removing a directory fails and does nothing, or empties its place. It may also do nothing
because the path is refused. -/
theorem removeDirectory_cases (hplain : p.IsPlain) (ht : t.Closed) {r : Except FileError Unit}
    (h : t.removeDirectory p = (r, t')) :
    (r ≠ .ok () ∧ t' = t)
    ∨ (r = .ok () ∧ (EmptiedAt p.segments t t' ∨ (t' = t ∧ p.refusal? ≠ none))) := by
  rw [removeDirectory] at h
  split at h
  · cases h
    exact Or.inl ⟨by simp, rfl⟩
  · next code hcode hlocate =>
    cases h
    refine Or.inr ⟨rfl, ?_⟩
    rw [locate] at hlocate
    split at hlocate
    · next hrefusal => exact Or.inr ⟨rfl, by simp [hrefusal]⟩
    · left
      rcases ht.follow_error hplain hlocate with htoo | hnone
      · exact absurd htoo hcode
      · exact EmptiedAt.of_none hnone
  · next place hlocate =>
    obtain rfl := locate_eq hlocate
    have hplace := place_of_isPlain hplain
    split at h
    · next hnone =>
      cases h
      rw [hplace] at hnone
      exact Or.inr ⟨rfl, Or.inl (ht.emptiedAt_of_none hnone)⟩
    · cases h
      exact Or.inl ⟨by simp, rfl⟩
    · next hdir =>
      dsimp only at h
      rw [hplace, locate_clear hplain, hlocate] at h
      cases h
      rw [hplace] at hdir ⊢
      exact Or.inr ⟨rfl, Or.inl (emptiedAt_erase_clear hdir)⟩

/-- What replacing a directory comes to: its place was emptied, and then the tree has grown on the
way to it. -/
def ReplacedFor (p : Path) (t t' : FileTree) : Prop :=
  ∃ emptied, EmptiedAt p.segments t emptied ∧ GrownBy p.GoesThrough emptied t'

namespace ReplacedFor

theorem closed (h : ReplacedFor p t t') (ht : t.Closed) : t'.Closed := by
  obtain ⟨emptied, hempty, hgrown⟩ := h
  exact hgrown.closed (hempty.closed ht)

/-- A file outlives the replacement of a directory if and only if it is neither at its place nor
below it. -/
theorem file_iff (h : ReplacedFor p t t') {q : List Text} {bytes : Bytes}
    (hfile : t.find? q = some (.file bytes)) :
    t'.find? q = some (.file bytes) ↔ ¬p.segments <+: q := by
  obtain ⟨emptied, hempty, hgrown⟩ := h
  rw [hgrown.file_iff, hempty.entry]
  have hnil : q ≠ [] := by
    rintro rfl
    simp at hfile
  by_cases hin : p.segments <+: q
  · simp [hin, hnil]
  · simp [hin, hfile]

/-- Away from a directory that was replaced nothing has changed but for new directories on the way
to it. -/
theorem find?_away (h : ReplacedFor p t t') {q : List Text} (hq : ¬p.segments <+: q) :
    t'.find? q = t.find? q
    ∨ (t.find? q = none ∧ t'.find? q = some .directory ∧ p.GoesThrough q) := by
  obtain ⟨emptied, hempty, hgrown⟩ := h
  have hsame : emptied.find? q = t.find? q := by rw [hempty.entry, if_neg fun hin => hq hin.1]
  rw [← hsame]
  exact hgrown.entry q

variable (hplain : p.IsPlain)

include hplain

/-- Nothing is found strictly below a directory that was replaced. -/
theorem find?_below (h : ReplacedFor p t t') {q : List Text} (hq : p.segments <+: q)
    (hne : q ≠ p.segments) : t'.find? q = none := by
  obtain ⟨emptied, hempty, hgrown⟩ := h
  have hnil : q ≠ [] := by
    rintro rfl
    exact hne (List.prefix_nil.mp hq).symm
  have hnone : emptied.find? q = none := by rw [hempty.entry, if_pos ⟨hq, hnil⟩]
  rcases hgrown.entry q with heq | ⟨-, -, hway⟩
  · rw [heq, hnone]
  · have hstart := (goesThrough_iff_of_isPlain hplain).mp hway
    exact absurd (hstart.eq_of_length_le hq.length_le) hne

/-- Everything on the way to a directory that was replaced, and the directory itself, is there. -/
theorem directory_above (h : ReplacedFor p t t') (hholds : t'.Holds p) (ht : t.Closed)
    {way : List Text} (hway : way <+: p.segments) : t'.find? way = some .directory := by
  have hdir := hholds.1
  rw [place_of_isPlain hplain] at hdir
  by_cases heq : way = p.segments
  · rw [heq]
    exact hdir
  · exact (h.closed ht).directory_above (by simp [hdir]) hway heq

/-- The place of a directory that was replaced held a directory before, or nothing. -/
theorem find?_self (h : ReplacedFor p t t') (hholds : t'.Holds p) :
    t'.find? p.segments = t.find? p.segments
    ∨ (t.find? p.segments = none ∧ t'.find? p.segments = some .directory
      ∧ p.GoesThrough p.segments) := by
  obtain ⟨emptied, hempty, -⟩ := h
  have hdir := hholds.1
  rw [place_of_isPlain hplain] at hdir
  rw [hdir]
  cases hbefore : t.find? p.segments with
  | none => exact Or.inr ⟨rfl, rfl, (goesThrough_iff_of_isPlain hplain).mpr List.prefix_rfl⟩
  | some entry =>
    cases entry with
    | directory => exact Or.inl rfl
    | file bytes => exact absurd hbefore (hempty.noFile bytes)

/-- Outside of a directory that was replaced nothing has changed but for new directories on the way
to it. -/
theorem find?_outside (h : ReplacedFor p t t') (hholds : t'.Holds p) {q : List Text}
    (hq : ¬(p.segments <+: q ∧ q ≠ p.segments)) :
    t'.find? q = t.find? q
    ∨ (t.find? q = none ∧ t'.find? q = some .directory ∧ p.GoesThrough q) := by
  by_cases hself : q = p.segments
  · rw [hself]
    exact h.find?_self hplain hholds
  · exact h.find?_away fun hin => hq ⟨hin, hself⟩

end ReplacedFor

theorem deleteDirectory_cases (hplain : p.IsPlain) (ht : t.Closed) {attempts : Int}
    {r : Except FileFailure Unit} (h : deleteDirectory p t attempts = (r, t')) :
    (r ≠ .ok () ∧ t' = t)
    ∨ (r = .ok () ∧ (EmptiedAt p.segments t t' ∨ (t' = t ∧ p.refusal? ≠ none))) := by
  have hfail : ∀ {t₁ e t₂}, removeDirectory t₁ p = (.error e, t₂) → t₁.Closed → t₂ = t₁ := by
    intro t₁ e t₂ hremove ht₁
    rcases removeDirectory_cases hplain ht₁ hremove with ⟨-, heq⟩ | ⟨hok, -⟩
    · exact heq
    · cases hok
  rcases resilient_cases (R := fun t₁ t₂ => t₁.Closed → t₂ = t₁) (fun _ _ => rfl)
    (fun h₁ h₂ h => by rw [h₂ (h₁ h ▸ h), h₁ h]) hfail h with
    ⟨hok, before, hbefore, hlast⟩ | ⟨hne, hsame⟩
  · obtain rfl := hbefore ht
    rcases removeDirectory_cases hplain ht hlast with ⟨hne, -⟩ | ⟨-, hcases⟩
    · exact absurd rfl hne
    · exact Or.inr ⟨hok, hcases⟩
  · exact Or.inl ⟨hne, hsame ht⟩

theorem createDirectory_cases {attempts : Int} {r : Except FileFailure Unit}
    (h : createDirectory p t attempts = (r, t')) :
    GrownBy p.GoesThrough t t' ∧ (r = .ok () → t'.Holds p) := by
  have hfail : ∀ {t₁ e t₂}, makeDirectories t₁ p = (.error e, t₂) → GrownBy p.GoesThrough t₁ t₂ :=
    fun hmake => (makeDirectories_cases hmake).1
  rcases resilient_cases (GrownBy.refl p.GoesThrough) GrownBy.trans hfail h with
    ⟨hok, before, hbefore, hlast⟩ | ⟨hne, hmade⟩
  · obtain ⟨hmade, hholds⟩ := makeDirectories_cases hlast
    exact ⟨hbefore.trans hmade, fun _ => hholds rfl⟩
  · exact ⟨hmade, fun hok => absurd hok hne⟩

/-- Replacing a directory leaves it there and empty. If it fails, its place may be as it was. -/
theorem replaceDirectory_cases (hplain : p.IsPlain) (ht : t.Closed) {attempts : Int}
    {r : Except FileFailure Unit} (h : replaceDirectory p t attempts = (r, t')) :
    (r = .ok () ∧ ReplacedFor p t t' ∧ t'.Holds p)
    ∨ (r ≠ .ok () ∧ (ReplacedFor p t t' ∨ GrownBy p.GoesThrough t t')) := by
  rw [replaceDirectory] at h
  split at h
  · next e t₁ hdelete =>
    cases h
    rcases deleteDirectory_cases hplain ht hdelete with ⟨-, rfl⟩ | ⟨hok, -⟩
    · exact Or.inr ⟨by simp, Or.inr (GrownBy.refl p.GoesThrough _)⟩
    · cases hok
  · next t₁ hdelete =>
    obtain ⟨hmade, hholds⟩ := createDirectory_cases h
    rcases deleteDirectory_cases hplain ht hdelete with ⟨hne, -⟩ | ⟨-, hempty | ⟨rfl, hrefusal⟩⟩
    · exact absurd rfl hne
    · by_cases hr : r = .ok ()
      · exact Or.inl ⟨hr, ⟨t₁, hempty, hmade⟩, hholds hr⟩
      · exact Or.inr ⟨hr, Or.inl ⟨t₁, hempty, hmade⟩⟩
    · -- a path that is refused cannot be made either
      exact Or.inr ⟨fun hr => hrefusal (hholds hr).2, Or.inr hmade⟩

/-! ## Opening files -/

theorem WrittenAt.of_grownBy {bytes : Bytes} {t₁ : FileTree}
    (h₁ : GrownBy p.parent.GoesThrough t t₁) (h₂ : WrittenAt p bytes t₁ t') :
    WrittenAt p bytes t t' := by
  obtain ⟨made, hmade, hrest⟩ := h₂
  exact ⟨made, h₁.trans hmade, hrest⟩

/-- Opening a file for its text sets the file or makes nothing but directories. -/
theorem openForWrite_cases {content : Text} {attempts : Int} {r : Except FileFailure Unit}
    (h : openForWrite p content t attempts = (r, t')) :
    (r = .ok () ∧ WrittenAt p (encode content) t t')
    ∨ (r ≠ .ok () ∧ GrownBy p.parent.GoesThrough t t') := by
  have hfail : ∀ {t₁ e t₂}, writeText t₁ p content = (.error e, t₂) →
      GrownBy p.parent.GoesThrough t₁ t₂ := by
    intro t₁ e t₂ hwrite
    rcases writeText_cases hwrite with ⟨hok, -⟩ | ⟨-, hmade⟩
    · cases hok
    · exact hmade
  rcases resilient_cases (GrownBy.refl p.parent.GoesThrough) GrownBy.trans hfail h with
    ⟨hok, before, hbefore, hlast⟩ | ⟨hne, hmade⟩
  · rcases writeText_cases hlast with ⟨-, hwritten⟩ | ⟨hne, -⟩
    · exact Or.inl ⟨hok, hwritten.of_grownBy hbefore⟩
    · exact absurd rfl hne
  · exact Or.inr ⟨hne, hmade⟩

end Typings.FileTree
