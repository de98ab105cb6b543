import Typings.Proofs.FileTree.Progress
import Typings.Proofs.Path.Normal

/-!
# All or nothing

Along a normal path that fits, an operation on a directory or a file is refused before it has
changed anything: whether it can succeed is decided by what stands at the place of the path and
above it. Only a path that does not fit may fail halfway, once directories above it were made.
-/

namespace Typings.FileTree

open Typings.Path Text

variable {t t' : FileTree} {p : Path}

/-! ## Outcomes -/

/-- A failure that leaves the tree as it was. -/
def Refused {ε : Type} (t : FileTree) (outcome : Except ε Unit × FileTree) : Prop :=
  outcome.1 ≠ .ok () ∧ outcome.2 = t

/-- What an operation that is all or nothing comes to: it has its effect if it is possible, and
otherwise it fails and leaves the tree as it was. -/
def AllOrNothing {ε : Type} (possible : Prop) (effect : FileTree → Prop) (t : FileTree)
    (outcome : Except ε Unit × FileTree) : Prop :=
  (possible ∧ outcome.1 = .ok () ∧ effect outcome.2) ∨ (¬possible ∧ Refused t outcome)

/-- A failure that has made directories above a place at most. -/
def OnlyMadeAbove {ε : Type} (place : List Text) (t : FileTree)
    (outcome : Except ε Unit × FileTree) : Prop :=
  outcome.1 ≠ .ok () ∧ ∀ q, outcome.2.find? q = t.find? q ∨
    (t.find? q = none ∧ outcome.2.find? q = some .directory ∧ q <+: place ∧ q ≠ place)

namespace AllOrNothing

variable {ε : Type} {possible : Prop} {effect effect' : FileTree → Prop}
  {outcome : Except ε Unit × FileTree}

theorem mono (h : AllOrNothing possible effect t outcome)
    (heffect : ∀ t', effect t' → effect' t') : AllOrNothing possible effect' t outcome :=
  h.imp_left fun ⟨hpossible, hok, hdone⟩ => ⟨hpossible, hok, heffect _ hdone⟩

/-- What fails leaves the tree as it was. -/
theorem refused (h : AllOrNothing possible effect t outcome) (hne : outcome.1 ≠ .ok ()) :
    Refused t outcome := by
  rcases h with ⟨-, hok, -⟩ | ⟨-, hrefused⟩
  · exact absurd hok hne
  · exact hrefused

end AllOrNothing

/-! ## Attempts -/

section Attempts

variable {attempts : Int} {description : Text}
  {operation : FileTree → Except FileError Unit × FileTree}

/-- Without attempts nothing happens. -/
theorem resilient_of_noAttempts (h : ¬1 ≤ attempts) :
    resilient attempts description operation t = (.error .noAttempts, t) := by
  have hnone : attempts < 1 := by omega
  rw [resilient, Retry.run, if_pos hnone]
  rfl

/-- What leaves a tree as it is does so however often it is called, and if the attempts succeed, the
first call did. -/
theorem resilient_same (h : (operation t).2 = t) :
    (resilient attempts description operation t).2 = t
      ∧ ((resilient attempts description operation t).1 = .ok () → (operation t).1 = .ok ()) := by
  have hfail : ∀ {t₁ e t₂}, operation t₁ = (.error e, t₂) → t₁ = t → t₂ = t := by
    rintro _ e t₂ hcall rfl
    rwa [hcall] at h
  rcases hrun : resilient attempts description operation t with ⟨r, t'⟩
  rcases resilient_cases (R := fun t₁ t₂ => t₁ = t → t₂ = t) (fun _ heq => heq)
    (fun h₁ h₂ heq => h₂ (h₁ heq)) hfail hrun with ⟨-, before, hbefore, hlast⟩ | ⟨hne, hsame⟩
  · obtain rfl := hbefore rfl
    rw [hlast] at h ⊢
    exact ⟨h, fun _ => rfl⟩
  · exact ⟨hsame rfl, fun hok => absurd hok hne⟩

theorem Refused.resilient (h : Refused t (operation t)) :
    Refused t (FileTree.resilient attempts description operation t) := by
  obtain ⟨hsame, hfirst⟩ := resilient_same h.2
  exact ⟨fun hok => h.1 (hfirst hok), hsame⟩

/-- Attempts at what is all or nothing are so too. -/
theorem AllOrNothing.resilient {possible : Prop} {effect : FileTree → Prop}
    (h : AllOrNothing possible effect t (operation t)) :
    AllOrNothing (1 ≤ attempts ∧ possible) effect t
      (FileTree.resilient attempts description operation t) := by
  by_cases hattempts : 1 ≤ attempts
  · rcases h with ⟨hpossible, hok, heffect⟩ | ⟨hpossible, hrefused⟩
    · have hrun : FileTree.resilient attempts description operation t = (.ok (), (operation t).2) :=
        resilient_of_ok hattempts (Prod.ext hok rfl)
      rw [hrun]
      exact Or.inl ⟨⟨hattempts, hpossible⟩, rfl, heffect⟩
    · exact Or.inr ⟨fun hboth => hpossible hboth.2, hrefused.resilient⟩
  · rw [resilient_of_noAttempts hattempts]
    exact Or.inr ⟨fun hboth => hattempts hboth.1, by simp, rfl⟩

end Attempts

/-! ## What is in the way -/

/-- Whether a file stands at a place or above it. -/
def Obstructed (t : FileTree) (place : List Text) : Prop :=
  ∃ q bytes, q <+: place ∧ t.find? q = some (.file bytes)

theorem passes_iff (hp : p.IsNormal) : t.Passes p ↔ ¬t.Obstructed p.place := by
  constructor
  · rintro hpass ⟨q, bytes, hq, hfile⟩
    exact hpass q (hp.goesThrough_iff.mpr hq) bytes hfile
  · intro hfree q hq bytes hfile
    exact hfree ⟨q, bytes, hp.goesThrough_iff.mp hq, hfile⟩

namespace Closed

variable (ht : t.Closed)

include ht

/-- No file stands above an entry. -/
theorem find?_of_obstructed {place : List Text} (h : t.Obstructed place) :
    (∃ bytes, t.find? place = some (.file bytes)) ∨ t.find? place = none := by
  obtain ⟨q, bytes, hq, hfile⟩ := h
  by_cases heq : q = place
  · exact Or.inl ⟨bytes, heq ▸ hfile⟩
  · exact Or.inr (ht.none_below (by simp [hfile]) hq heq)

/-- A normal path that fits leads to its place if there is anything. -/
theorem locate_of_found (hp : p.IsNormal) (hfits : p.Fits) (hfound : t.find? p.place ≠ none) :
    t.locate p = .ok p.place := by
  refine locate_iff.mpr ⟨hfits, fun q hq => ?_⟩
  rcases eq_or_ne p.place [] with hnil | hne
  · have hroot := hp.prefix_place hq.of_parent
    rw [hnil, List.prefix_nil] at hroot
    simp [hroot]
  · obtain ⟨habove, hdiff⟩ := (hp.parent_goesThrough_iff hne).mp hq
    exact ht.directory_above hfound habove hdiff

end Closed

/-- A path leads nowhere if nothing is at its place. -/
theorem leadsSomewhere_of_none (h : t.find? p.place = none) : t.leadsSomewhere p = false := by
  rw [leadsSomewhere, status]
  cases hlocate : t.locate p with
  | error code => rfl
  | ok place =>
    dsimp only
    rw [locate_eq hlocate, h]

/-! ## Removing a directory -/

/-- What removing a directory comes to where there is no directory. -/
theorem removeDirectory_same (h : t.locate p = .ok p.place → t.find? p.place ≠ some .directory) :
    (t.removeDirectory p).2 = t := by
  rw [removeDirectory]
  split
  · rfl
  · rfl
  · next place hlocate =>
    obtain rfl := locate_eq hlocate
    split
    · rfl
    · rfl
    · next hdir => exact absurd hdir (h hlocate)

/-- Clearing its place leaves a normal path that leads to it. -/
theorem locate_clear_place (hp : p.IsNormal) (h : t.locate p = .ok p.place) :
    (t.clear p.place).locate p = .ok p.place := by
  obtain ⟨hfits, hways⟩ := locate_iff.mp h
  refine locate_iff.mpr ⟨hfits, fun q hq => ?_⟩
  have hin : q <+: p.place := hp.prefix_place hq.of_parent
  rw [find?_clear, if_neg fun hbelow => hbelow.2 (hin.eq_of_length_le hbelow.1.length_le)]
  exact hways q hq

/-- Removing a directory along a normal path that fits fails at a file, and empties its place
otherwise. Nothing changes where there is nothing. -/
theorem removeDirectory_allOrNothing (hp : p.IsNormal) (ht : t.Closed) (hfits : p.Fits) :
    AllOrNothing (∀ bytes, t.find? p.place ≠ some (.file bytes))
      (fun t' => EmptiedAt p.place t t' ∧ (t.find? p.place = none → t' = t)) t
      (t.removeDirectory p) := by
  cases hfind : t.find? p.place with
  | none =>
    have hok : t.removeDirectory p = (.ok (), t) := by
      rw [removeDirectory]
      split
      · next htoo => exact absurd htoo (locate_ne_nameTooLong hfits)
      · rfl
      · next place hlocate =>
        rw [locate_eq hlocate, hfind]
    rw [hok]
    exact Or.inl ⟨by simp, rfl, ht.emptiedAt_of_none hfind, fun _ => rfl⟩
  | some entry =>
    have hlocate := ht.locate_of_found hp hfits (by simp [hfind])
    rw [removeDirectory, hlocate]
    dsimp only
    cases entry with
    | file bytes =>
      rw [hfind]
      exact Or.inr ⟨by simp, by simp, rfl⟩
    | directory =>
      rw [hfind]
      dsimp only
      rw [locate_clear_place hp hlocate]
      exact Or.inl ⟨by simp, rfl, emptiedAt_erase_clear hfind, by simp⟩

/-! ## Making a directory -/

/-- What making a directory comes to: it is there with all that should hold it, and what was there
before is as it was. -/
structure DirectoryMade (p : Path) (t t' : FileTree) : Prop where
  directory : t'.isDirectory p = true
  entry : ∀ q, KeptOrMade (q <+: p.place) (t.find? q) (t'.find? q)

theorem GrownBy.directoryMade (hp : p.IsNormal) (h : GrownBy p.GoesThrough t t')
    (hdir : t'.isDirectory p = true) : DirectoryMade p t t' := by
  refine ⟨hdir, fun q => keptOrMade_of ?_ fun hq _ => ?_⟩
  · exact (h.entry q).imp_right fun ⟨hnone, hmade, hway⟩ => ⟨hnone, hmade, hp.prefix_place hway⟩
  · exact (isDirectory_iff.mp hdir).2 q (hp.goesThrough_iff.mpr hq)

/-- At or below a file there is no directory. -/
theorem isDirectory_of_obstructed (hp : p.IsNormal) (h : t.Obstructed p.place) :
    t.isDirectory p = false := by
  obtain ⟨q, bytes, hq, hfile⟩ := h
  by_contra hdir
  have hways := (isDirectory_iff.mp (Bool.not_eq_false _ ▸ hdir)).2
  rw [hways q (hp.goesThrough_iff.mpr hq)] at hfile
  cases hfile

/-- What a normal path misses in a closed tree is not above an entry, so a file on its way stands
above its place. -/
theorem Closed.obstructed_parent (ht : t.Closed) (hp : p.IsNormal) (h : t.Obstructed p.place)
    (hmissing : t.locate p = .error .missing) : t.Obstructed p.parent.place := by
  obtain ⟨q, bytes, hq, hfile⟩ := h
  obtain ⟨way, hway, hnone⟩ := locate_missing hmissing
  have hdiff : q ≠ p.place := by
    rintro rfl
    have hself : way ≠ p.place := by
      rintro rfl
      rw [hfile] at hnone
      cases hnone
    rw [ht.directory_above (by simp [hfile]) (hp.prefix_place hway.of_parent) hself] at hnone
    cases hnone
  have hne : p.place ≠ [] := by
    intro hnil
    rw [hnil] at hq hdiff
    exact hdiff (List.prefix_nil.mp hq)
  have habove := (hp.parent_goesThrough_iff hne).mpr ⟨hq, hdiff⟩
  exact ⟨q, bytes, hp.parent.1.goesThrough_iff.mp habove, hfile⟩

theorem makeDirectory_missing (h : t.makeDirectory p = .error .missing) :
    t.locate p = .error .missing := by
  rw [makeDirectory] at h
  split at h
  · next hlocate =>
    cases h
    exact hlocate
  · split at h <;> cases h

/-- Making sure of a directory at or below a file fails before anything is made. -/
theorem Closed.ensure_of_obstructed (ht : t.Closed) {root : Root} {segments : List Text}
    (hp : (⟨root, segments.reverse⟩ : Path).IsNormal)
    (h : t.Obstructed (⟨root, segments.reverse⟩ : Path).place) :
    ∃ e, t.ensure root segments = (some e, t) := by
  induction segments with
  | nil =>
    obtain ⟨q, bytes, hq, hfile⟩ := h
    rw [show q = [] from List.prefix_nil.mp hq, find?_nil] at hfile
    cases hfile
  | cons s above ih =>
    have hparent := parent_reverse_cons root s above
    rw [ensure]
    split
    · -- the file would still be in the way of a directory that was made
      next made hmade =>
      obtain ⟨q, bytes, hq, hfile⟩ := h
      have hstill := (makeDirectory_ok hmade).1.file_iff.mpr hfile
      have hdir := isDirectory_of_makeDirectory hmade
      rw [isDirectory_of_obstructed hp ⟨q, bytes, hq, hstill⟩] at hdir
      cases hdir
    · next hmake =>
      have habove := ht.obstructed_parent hp h (makeDirectory_missing hmake)
      obtain ⟨e, he⟩ := ih (hparent ▸ hp.parent.1) (hparent ▸ habove)
      rw [he]
      exact ⟨e, rfl⟩
    · rw [isDirectory_of_obstructed hp h]
      exact ⟨_, rfl⟩

theorem Closed.makeDirectories_of_obstructed (ht : t.Closed) (hp : p.IsNormal)
    (h : t.Obstructed p.place) : ∃ e, t.makeDirectories p = (.error e, t) := by
  have hrev : (⟨p.root, p.segments.reverse.reverse⟩ : Path) = p := by rw [List.reverse_reverse]
  obtain ⟨e, he⟩ : ∃ e, t.ensure p.root p.segments.reverse = (some e, t) :=
    ht.ensure_of_obstructed (by rwa [hrev]) (by rwa [hrev])
  exact ⟨e, by rw [makeDirectories, he]⟩

theorem makeDirectories_allOrNothing (hp : p.IsNormal) (ht : t.Closed) (hfits : p.Fits) :
    AllOrNothing (¬t.Obstructed p.place) (DirectoryMade p t) t (t.makeDirectories p) := by
  by_cases hobstructed : t.Obstructed p.place
  · obtain ⟨e, he⟩ := ht.makeDirectories_of_obstructed hp hobstructed
    rw [he]
    exact Or.inr ⟨not_not_intro hobstructed, by simp, rfl⟩
  · obtain ⟨made, hmake, hdir⟩ := makeDirectories_of_passes hfits ((passes_iff hp).mpr hobstructed)
    rw [hmake]
    exact Or.inl ⟨hobstructed, rfl, (makeDirectories_cases hmake).1.directoryMade hp hdir⟩

/-- A directory that is there is left as it is. -/
theorem makeDirectories_of_isDirectory (h : t.isDirectory p = true) :
    t.makeDirectories p = (.ok (), t) := by
  obtain ⟨hfits, hways⟩ := isDirectory_iff.mp h
  have hlocate := locate_iff.mpr ⟨hfits, fun q hq => hways q hq.of_parent⟩
  have hthere : t.makeDirectory p = .error .alreadyThere := by
    rw [makeDirectory, hlocate]
    dsimp only
    rw [hways _ p.goesThrough_place]
  rw [makeDirectories]
  cases hsegments : p.segments.reverse with
  | nil => rfl
  | cons s above =>
    have hpath : (⟨p.root, (s :: above).reverse⟩ : Path) = p := by
      rw [← hsegments, List.reverse_reverse]
    rw [ensure, hpath, hthere]
    dsimp only
    rw [h, if_pos rfl]

/-! ## Writing a file -/

/-- What writing a file comes to: it is there with its bytes and with all that should hold it, and
everything else is as it was. -/
structure FileSet (p : Path) (bytes : Bytes) (t t' : FileTree) : Prop where
  file : t'.read p = .ok bytes
  entry : ∀ q, q ≠ p.place → KeptOrMade (q <+: p.place) (t.find? q) (t'.find? q)

theorem WrittenAt.fileSet {bytes : Bytes} (h : WrittenAt p bytes t t') (hp : p.IsNormal)
    (hfits : p.Fits) : FileSet p bytes t t' := by
  have hread := h.read hfits
  obtain ⟨-, hways, -⟩ := read_iff.mp hread
  obtain ⟨made, hgrown, hready, rfl⟩ := h
  refine ⟨hread, fun q hq => keptOrMade_of ?_ fun hin _ => ?_⟩
  · rw [find?_insert _ hready.place, if_neg hq]
    exact (hgrown.entry q).imp_right fun ⟨hnone, hmade, hway⟩ =>
      ⟨hnone, hmade, hp.prefix_place hway.of_parent⟩
  · exact hways q ((hp.parent_goesThrough_iff hready.place).mpr ⟨hin, hq⟩)

/-- Writing a file below a file fails before anything is made. -/
theorem Closed.writeText_of_obstructed (ht : t.Closed) (hp : p.IsNormal)
    (h : t.Obstructed p.place.dropLast) (content : Text) :
    Refused t (t.writeText p content) := by
  obtain ⟨e, he⟩ := ht.makeDirectories_of_obstructed hp.parent.1 (hp.parent.2 ▸ h)
  rw [writeText, he]
  exact ⟨by simp, rfl⟩

/-- Writing a file fails at a directory and below a file. -/
theorem writeText_allOrNothing (hp : p.IsNormal) (ht : t.Closed) (hfits : p.Fits) (content : Text) :
    AllOrNothing (t.find? p.place ≠ some .directory ∧ ¬t.Obstructed p.place.dropLast)
      (FileSet p (encode content) t) t (t.writeText p content) := by
  by_cases hobstructed : t.Obstructed p.place.dropLast
  · exact Or.inr ⟨fun hpossible => hpossible.2 hobstructed,
      ht.writeText_of_obstructed hp hobstructed content⟩
  by_cases hdir : t.find? p.place = some .directory
  · have hlocate := ht.locate_of_found hp hfits (by simp [hdir])
    have hparent : t.isDirectory p.parent = true :=
      isDirectory_iff.mpr ⟨hfits.parent, (locate_iff.mp hlocate).2⟩
    rw [writeText, makeDirectories_of_isDirectory hparent]
    dsimp only
    rw [write, hlocate]
    dsimp only
    rw [hdir]
    exact Or.inr ⟨fun hpossible => hpossible.1 rfl, by simp, rfl⟩
  · have hne : p.place ≠ [] := fun hnil => hdir (by simp [hnil])
    have hpass : t.Passes p.parent := (passes_iff hp.parent.1).mpr (hp.parent.2 ▸ hobstructed)
    obtain ⟨written, hwrite⟩ := writeText_of_passes ht hfits hpass hdir
      (fun hway => ((hp.parent_goesThrough_iff hne).mp hway).2 rfl) content
    rcases writeText_cases hwrite with ⟨-, hwritten⟩ | ⟨hfail, -⟩
    · rw [hwrite]
      exact Or.inl ⟨⟨hdir, hobstructed⟩, rfl, hwritten.fileSet hp hfits⟩
    · exact absurd rfl hfail

/-! ## Replacing a directory -/

/-- What replacing a directory comes to: it is there, with all that should hold it and with nothing
below it, and everything else is as it was. -/
structure DirectoryEmpty (p : Path) (t t' : FileTree) : Prop where
  directory : t'.isDirectory p = true
  below : ∀ q, p.place <+: q → q ≠ p.place → t'.find? q = none
  entry : ∀ q, ¬(p.place <+: q ∧ q ≠ p.place) →
    KeptOrMade (q <+: p.place) (t.find? q) (t'.find? q)

theorem deleteDirectory_allOrNothing (hp : p.IsNormal) (ht : t.Closed) (hfits : p.Fits)
    (attempts : Int) :
    AllOrNothing (1 ≤ attempts ∧ ∀ bytes, t.find? p.place ≠ some (.file bytes))
      (fun t' => EmptiedAt p.place t t' ∧ (t.find? p.place = none → t' = t)) t
      (deleteDirectory p t attempts) := by
  rw [deleteDirectory]
  exact AllOrNothing.resilient (removeDirectory_allOrNothing hp ht hfits)

theorem createDirectory_allOrNothing (hp : p.IsNormal) (ht : t.Closed) (hfits : p.Fits)
    (attempts : Int) :
    AllOrNothing (1 ≤ attempts ∧ ¬t.Obstructed p.place) (DirectoryMade p t) t
      (createDirectory p t attempts) := by
  rw [createDirectory]
  exact AllOrNothing.resilient (makeDirectories_allOrNothing hp ht hfits)

theorem openForWrite_allOrNothing (hp : p.IsNormal) (ht : t.Closed) (hfits : p.Fits)
    (content : Text) (attempts : Int) :
    AllOrNothing
      (1 ≤ attempts ∧ t.find? p.place ≠ some .directory ∧ ¬t.Obstructed p.place.dropLast)
      (FileSet p (encode content) t) t (openForWrite p content t attempts) := by
  rw [openForWrite]
  exact AllOrNothing.resilient (writeText_allOrNothing hp ht hfits content)

/-- What is left after a place was emptied is obstructed only by what was above the place. -/
theorem EmptiedAt.obstructed_iff {place : List Text} (h : EmptiedAt place t t') :
    t'.Obstructed place ↔ t.Obstructed place := by
  have hsame : ∀ {q bytes}, q <+: place →
      (t'.find? q = some (.file bytes) ↔ t.find? q = some (.file bytes)) := by
    intro q bytes hq
    rw [h.entry]
    split
    · next hin =>
      obtain rfl := hq.eq_of_length_le hin.1.length_le
      simpa using h.noFile bytes
    · rfl
  constructor
  · rintro ⟨q, bytes, hq, hfile⟩
    exact ⟨q, bytes, hq, (hsame hq).mp hfile⟩
  · rintro ⟨q, bytes, hq, hfile⟩
    exact ⟨q, bytes, hq, (hsame hq).mpr hfile⟩

/-- A directory that is made where everything was removed is empty. -/
theorem EmptiedAt.directoryEmpty {emptied : FileTree} (h : EmptiedAt p.place t emptied)
    (hmade : DirectoryMade p emptied t') : DirectoryEmpty p t t' := by
  refine ⟨hmade.directory, fun q hq hne => ?_, fun q hq => ?_⟩
  · have hkept := hmade.entry q
    have hnil : q ≠ [] := by
      rintro rfl
      exact hne (List.prefix_nil.mp hq).symm
    rw [h.entry, if_pos ⟨hq, hnil⟩] at hkept
    rcases hkept with ⟨hway, -⟩ | ⟨-, hnone⟩
    · exact absurd (hway.eq_of_length_le hq.length_le) hne
    · exact hnone
  · by_cases hself : q = p.place
    · -- the directory itself may have been removed and made again
      rw [hself, (holds_of_isDirectory hmade.directory).1]
      cases hbefore : t.find? p.place with
      | none => exact Or.inl ⟨List.prefix_rfl, rfl⟩
      | some entry =>
        cases entry with
        | directory => rfl
        | file bytes => exact absurd hbefore (h.noFile bytes)
    · have hkept := hmade.entry q
      rwa [h.entry, if_neg fun hin => hq ⟨hin.1, hself⟩] at hkept

theorem replaceDirectory_allOrNothing (hp : p.IsNormal) (ht : t.Closed) (hfits : p.Fits)
    (attempts : Int) :
    AllOrNothing (1 ≤ attempts ∧ ¬t.Obstructed p.place) (DirectoryEmpty p t) t
      (replaceDirectory p t attempts) := by
  rw [replaceDirectory]
  rcases hdelete : deleteDirectory p t attempts with ⟨r, emptied⟩
  have hdeleted := deleteDirectory_allOrNothing hp ht hfits attempts
  rw [hdelete] at hdeleted
  rcases hdeleted with ⟨⟨hattempts, hfile⟩, rfl, hempty, hsame⟩ | ⟨hnot, hne, hleft⟩
  · dsimp only
    rcases createDirectory_allOrNothing hp (hempty.closed ht) hfits attempts with
      ⟨⟨-, hfree⟩, hok, hmade⟩ | ⟨hnot, hne, hleft⟩
    · exact Or.inl ⟨⟨hattempts, hempty.obstructed_iff.not.mp hfree⟩, hok,
        hempty.directoryEmpty hmade⟩
    · -- a file above the place means that there was nothing to delete
      have hobstructed : t.Obstructed p.place := by
        rw [← hempty.obstructed_iff]
        by_contra hfree
        exact hnot ⟨hattempts, hfree⟩
      refine Or.inr ⟨fun hpossible => hpossible.2 hobstructed, hne, ?_⟩
      rw [hleft]
      rcases ht.find?_of_obstructed hobstructed with ⟨bytes, hfound⟩ | hnone
      · exact absurd hfound (hfile bytes)
      · exact hsame hnone
  · have hnot' : ¬(1 ≤ attempts ∧ ¬t.Obstructed p.place) := by
      rintro ⟨hattempts, hfree⟩
      exact hnot ⟨hattempts, fun bytes hfile => hfree ⟨_, bytes, List.prefix_rfl, hfile⟩⟩
    cases r with
    | error e => exact Or.inr ⟨hnot', by simp, hleft⟩
    | ok value => exact absurd rfl hne

/-! ## Paths that do not fit -/

theorem GrownBy.onlyMadeAbove {ε : Type} {r : Except ε Unit} (hp : p.IsNormal)
    (h : GrownBy p.parent.GoesThrough t t') (hne : r ≠ .ok ()) :
    OnlyMadeAbove p.place t (r, t') := by
  refine ⟨hne, fun q => (h.entry q).imp_right fun ⟨hnone, hmade, hway⟩ => ⟨hnone, hmade, ?_⟩⟩
  rcases eq_or_ne p.place [] with hnil | hplace
  · -- only the root of all would be on the way, and that is always there
    have hroot := hp.prefix_place hway.of_parent
    rw [hnil, List.prefix_nil] at hroot
    simp [hroot] at hnone
  · exact (hp.parent_goesThrough_iff hplace).mp hway

/-- A failure that has only made directories keeps everything. -/
theorem OnlyMadeAbove.kept {ε : Type} {place : List Text} {outcome : Except ε Unit × FileTree}
    (h : OnlyMadeAbove place t outcome) {q : List Text} {entry : Entry}
    (hfound : t.find? q = some entry) : outcome.2.find? q = some entry := by
  rcases h.2 q with heq | ⟨hnone, -⟩
  · rw [heq, hfound]
  · rw [hfound] at hnone
    cases hnone

theorem Refused.onlyMadeAbove {ε : Type} {place : List Text} {outcome : Except ε Unit × FileTree}
    (h : Refused t outcome) : OnlyMadeAbove place t outcome :=
  ⟨h.1, fun q => Or.inl (by rw [h.2])⟩

theorem locate_of_not_fits (hfits : ¬p.Fits) {place : List Text} : t.locate p ≠ .ok place :=
  fun hlocate => hfits (fits_of_locate hlocate)

/-- A path that does not fit leads nowhere. -/
theorem leadsSomewhere_of_not_fits (hfits : ¬p.Fits) : t.leadsSomewhere p = false := by
  rw [leadsSomewhere, status]
  cases hlocate : t.locate p with
  | error code => rfl
  | ok place => exact absurd hlocate (locate_of_not_fits hfits)

theorem createDirectory_onlyMadeAbove (hp : p.IsNormal) (hfits : ¬p.Fits) (attempts : Int) :
    OnlyMadeAbove p.place t (createDirectory p t attempts) := by
  rcases hcreate : createDirectory p t attempts with ⟨r, t'⟩
  rcases resilient_cases (GrownBy.refl p.parent.GoesThrough) GrownBy.trans
    makeDirectories_failed hcreate with ⟨rfl, -⟩ | ⟨hne, hgrown⟩
  · exact absurd (isDirectory_iff.mp (isDirectory_of_createDirectory hcreate)).1 hfits
  · exact hgrown.onlyMadeAbove hp hne

theorem openForWrite_onlyMadeAbove (hp : p.IsNormal) (hfits : ¬p.Fits) (content : Text)
    (attempts : Int) : OnlyMadeAbove p.place t (openForWrite p content t attempts) := by
  rcases hopen : openForWrite p content t attempts with ⟨r, t'⟩
  rcases openForWrite_cases hopen with ⟨rfl, -⟩ | ⟨hne, hgrown⟩
  · exact absurd (fits_of_openForWrite hopen) hfits
  · exact hgrown.onlyMadeAbove hp hne

/-- Where there is no directory to delete, replacing it fails at once or is no more than making
it. -/
theorem replaceDirectory_of_same (attempts : Int)
    (h : t.locate p = .ok p.place → t.find? p.place ≠ some .directory) :
    Refused t (replaceDirectory p t attempts)
      ∨ replaceDirectory p t attempts = createDirectory p t attempts := by
  have hsame : (deleteDirectory p t attempts).2 = t := by
    rw [deleteDirectory]
    exact (resilient_same (removeDirectory_same h)).1
  rw [replaceDirectory]
  rcases hdelete : deleteDirectory p t attempts with ⟨r, left⟩
  rw [hdelete] at hsame
  obtain rfl : left = t := hsame
  cases r with
  | error e => exact Or.inl ⟨by simp, rfl⟩
  | ok value => exact Or.inr rfl

theorem replaceDirectory_onlyMadeAbove (hp : p.IsNormal) (hfits : ¬p.Fits) (attempts : Int) :
    OnlyMadeAbove p.place t (replaceDirectory p t attempts) := by
  rcases replaceDirectory_of_same attempts
    (fun hlocate => absurd hlocate (locate_of_not_fits (t := t) hfits)) with hrefused | heq
  · exact hrefused.onlyMadeAbove
  · rw [heq]
    exact createDirectory_onlyMadeAbove hp hfits attempts

/-! ## Files in the way -/

section Obstructed

variable (ht : t.Closed) (hp : p.IsNormal) (attempts : Int)

include ht hp

theorem createDirectory_of_obstructed (h : t.Obstructed p.place) :
    Refused t (createDirectory p t attempts) := by
  obtain ⟨e, he⟩ := ht.makeDirectories_of_obstructed hp h
  have hrefused : Refused t (t.makeDirectories p) := by
    rw [he]
    exact ⟨by simp, rfl⟩
  rw [createDirectory]
  exact hrefused.resilient

theorem replaceDirectory_of_obstructed (h : t.Obstructed p.place) :
    Refused t (replaceDirectory p t attempts) := by
  have hdir : t.find? p.place ≠ some .directory := by
    rcases ht.find?_of_obstructed h with ⟨bytes, hfile⟩ | hnone
    · simp [hfile]
    · simp [hnone]
  rcases replaceDirectory_of_same attempts (fun _ => hdir) with hrefused | heq
  · exact hrefused
  · rw [heq]
    exact createDirectory_of_obstructed ht hp attempts h

theorem openForWrite_of_obstructed (h : t.Obstructed p.place.dropLast) (content : Text) :
    Refused t (openForWrite p content t attempts) := by
  rw [openForWrite]
  exact (ht.writeText_of_obstructed hp h content).resilient

end Obstructed

/-! ## Operations -/

/-- Operations on a normal path are all or nothing if the path fits; only the root of all, which
always stays, is not deleted or replaced. If the path does not fit, nothing is deleted or written,
and operations that make directories fail once they have made some of what should hold the path. A
file in the way is met before any change. -/
theorem operations_allOrNothing (ht : t.WellFormed) (hp : p.IsNormal) (content : Text)
    (attempts : Int) :
    (p.Fits →
      (p.place ≠ [] →
        AllOrNothing (1 ≤ attempts ∧ ∀ bytes, t.find? p.place ≠ some (.file bytes))
          (fun t' => t'.leadsSomewhere p = false ∧ EmptiedAt p.place t t') t
          (deleteDirectory p t attempts) ∧
        AllOrNothing (1 ≤ attempts ∧ ¬t.Obstructed p.place) (DirectoryEmpty p t) t
          (replaceDirectory p t attempts)) ∧
      AllOrNothing (1 ≤ attempts ∧ ¬t.Obstructed p.place) (DirectoryMade p t) t
        (createDirectory p t attempts) ∧
      AllOrNothing
        (1 ≤ attempts ∧ t.find? p.place ≠ some .directory ∧ ¬t.Obstructed p.place.dropLast)
        (FileSet p (encode content) t) t (openForWrite p content t attempts)) ∧
    (¬p.Fits →
      t.leadsSomewhere p = false ∧ (deleteDirectory p t attempts).2 = t ∧
      OnlyMadeAbove p.place t (replaceDirectory p t attempts) ∧
      OnlyMadeAbove p.place t (createDirectory p t attempts) ∧
      OnlyMadeAbove p.place t (openForWrite p content t attempts)) ∧
    (t.Obstructed p.place →
      Refused t (replaceDirectory p t attempts) ∧ Refused t (createDirectory p t attempts)) ∧
    (t.Obstructed p.place.dropLast → Refused t (openForWrite p content t attempts)) ∧
    (p.place ≠ [] → (replaceDirectory p t attempts).1 ≠ .ok () → ∀ q entry,
      t.find? q = some entry → (replaceDirectory p t attempts).2.find? q = some entry) := by
  have hclosed := ht.closed
  refine ⟨fun hfits => ⟨fun hplace => ⟨?_, ?_⟩, ?_, ?_⟩, fun hfits => ⟨?_, ?_, ?_, ?_, ?_⟩,
    fun hfile => ⟨?_, ?_⟩, fun hfile => ?_, fun hplace hne q entry hfound => ?_⟩
  · refine (deleteDirectory_allOrNothing hp hclosed hfits attempts).mono ?_
    rintro t' ⟨hempty, -⟩
    refine ⟨leadsSomewhere_of_none ?_, hempty⟩
    rw [hempty.entry, if_pos ⟨List.prefix_rfl, hplace⟩]
  · exact replaceDirectory_allOrNothing hp hclosed hfits attempts
  · exact createDirectory_allOrNothing hp hclosed hfits attempts
  · exact openForWrite_allOrNothing hp hclosed hfits content attempts
  · exact leadsSomewhere_of_not_fits hfits
  · rw [deleteDirectory]
    exact (resilient_same (removeDirectory_same fun hlocate =>
      absurd hlocate (locate_of_not_fits hfits))).1
  · exact replaceDirectory_onlyMadeAbove hp hfits attempts
  · exact createDirectory_onlyMadeAbove hp hfits attempts
  · exact openForWrite_onlyMadeAbove hp hfits content attempts
  · exact replaceDirectory_of_obstructed hclosed hp attempts hfile
  · exact createDirectory_of_obstructed hclosed hp attempts hfile
  · exact openForWrite_of_obstructed hclosed hp attempts hfile content
  · by_cases hfits : p.Fits
    · rw [((replaceDirectory_allOrNothing hp hclosed hfits attempts).refused hne).2]
      exact hfound
    · exact (replaceDirectory_onlyMadeAbove hp hfits attempts).kept hfound

/-- A directory with one file in it. -/
def furnished : FileTree :=
  { entries := [(["n".toList], .directory), (["n".toList, "f".toList], .file [])] }

theorem wellFormed_furnished : furnished.WellFormed :=
  ⟨by decide, by decide, by decide⟩

/-- The directory of `furnished` can be replaced by an empty one, and a directory below its file
cannot. -/
theorem operations_allOrNothing_furnished : furnished.WellFormed
    ∧ (ofText "/n".toList).IsNormal ∧ (ofText "/n/f/d".toList).IsNormal
    ∧ DirectoryEmpty (ofText "/n".toList) furnished
      (replaceDirectory (ofText "/n".toList) furnished).2
    ∧ Refused furnished (replaceDirectory (ofText "/n/f/d".toList) furnished) := by
  have hfolder : (ofText "/n".toList).IsNormal := ⟨0, ["n".toList], rfl, by decide⟩
  have hbelow : (ofText "/n/f/d".toList).IsNormal :=
    ⟨0, ["n".toList, "f".toList, "d".toList], rfl, by decide⟩
  refine ⟨wellFormed_furnished, hfolder, hbelow, ?_, ?_⟩
  · have hfree : ¬furnished.Obstructed (ofText "/n".toList).place := by
      rintro ⟨q, bytes, hq, hfile⟩
      have hdirs : ∀ q ∈ (ofText "/n".toList).place.inits,
          furnished.find? q = some .directory := by decide
      rw [hdirs q ((List.mem_inits _ _).mpr hq)] at hfile
      cases hfile
    obtain ⟨hfits, -⟩ :=
      operations_allOrNothing wellFormed_furnished hfolder [] Retry.defaultAttempts
    rcases ((hfits ⟨by decide, by decide⟩).1 (by decide)).2 with
      ⟨-, -, hempty⟩ | ⟨hnot, -⟩
    · exact hempty
    · exact absurd ⟨by decide, hfree⟩ hnot
  · obtain ⟨-, -, hfile, -⟩ :=
      operations_allOrNothing wellFormed_furnished hbelow [] Retry.defaultAttempts
    exact (hfile ⟨["n".toList, "f".toList], [], by decide, by decide⟩).1

/-- A directory whose name is too long, below one that may be made. -/
def overlong : Path := ⟨.absolute, ["n".toList, List.replicate 256 'x']⟩

/-- Making a directory whose name is too long fails and leaves the directory above it. -/
theorem overlong_leaves_parent : ({} : FileTree).WellFormed ∧ overlong.normalise = overlong
    ∧ (createDirectory overlong {}).1 ≠ .ok ()
    ∧ ({} : FileTree).find? ["n".toList] = none
    ∧ (createDirectory overlong {}).2.find? ["n".toList] = some .directory :=
  ⟨⟨by decide, by decide, by decide⟩, by decide +kernel, by decide +kernel, by decide +kernel,
    by decide +kernel⟩

end Typings.FileTree
