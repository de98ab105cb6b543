import Mathlib.Data.List.Forall2
import Typings.Proofs.Discovery.Scan
import Typings.Proofs.FileTree.Fitting
import Typings.Proofs.Text.Order

/-!
# The order of a scan

The order in which files are visited is linear, so what a scan finds depends on nothing but the
files below its roots, in whatever order a tree may list its entries.
-/

namespace Typings.Discovery

open FileTree Typings.Path Text

/-! ## The visit -/

section VisitLe

variable {a a' b b' : Text} {x y z : List Text}

@[simp] theorem visitLe_nil (y : List Text) : visitLe [] y = true := by rw [visitLe]

@[simp] theorem visitLe_cons_nil : visitLe (a :: x) [] = false := by rw [visitLe]; simp

@[simp] theorem visitLe_one : visitLe [a] [b] = le a b := by rw [visitLe]

@[simp] theorem visitLe_one_more : visitLe [a] (b :: b' :: y) = false := by rw [visitLe]

@[simp] theorem visitLe_more_one : visitLe (a :: a' :: x) [b] = true := by rw [visitLe]

@[simp] theorem visitLe_more : visitLe (a :: a' :: x) (b :: b' :: y)
    = if a = b then visitLe (a' :: x) (b' :: y) else le a b := by
  rw [visitLe] <;> simp

/-- Of two files one is visited no later than the other. -/
theorem total_visitLe (x y : List Text) : visitLe x y = true ∨ visitLe y x = true := by
  induction x generalizing y with
  | nil => simp
  | cons a x ih =>
    rcases x with _ | ⟨a', x⟩ <;> rcases y with _ | ⟨b, _ | ⟨b', y⟩⟩
    all_goals try simp
    · exact total_le a b
    · by_cases hab : a = b
      · simpa [hab] using ih (b' :: y)
      · simpa [hab, Ne.symm hab] using total_le a b

/-- Two files that are visited no later than each other are one. -/
theorem antisymm_visitLe (h : visitLe x y = true) (h' : visitLe y x = true) : x = y := by
  induction x generalizing y with
  | nil =>
    cases y with
    | nil => rfl
    | cons b y => simp at h'
  | cons a x ih =>
    rcases x with _ | ⟨a', x⟩ <;> rcases y with _ | ⟨b, _ | ⟨b', y⟩⟩
    all_goals try simp at h h'
    · rw [antisymm_le h h']
    · by_cases hab : a = b
      · simp only [hab, if_true] at h h'
        rw [hab, ih h h']
      · rw [if_neg hab] at h
        rw [if_neg (Ne.symm hab)] at h'
        exact absurd (antisymm_le h h') hab

theorem trans_visitLe (h : visitLe x y = true) (h' : visitLe y z = true) :
    visitLe x z = true := by
  induction x generalizing y z with
  | nil => simp
  | cons a x ih =>
    rcases x with _ | ⟨a', x⟩ <;> rcases y with _ | ⟨b, _ | ⟨b', y⟩⟩ <;>
      rcases z with _ | ⟨c, _ | ⟨c', z⟩⟩
    all_goals try simp at h h' ⊢
    · exact trans_le h h'
    · -- all three lie in directories, and the first names that differ decide
      by_cases hab : a = b <;> by_cases hbc : b = c
      · simp only [hab, hbc, if_true] at h h' ⊢
        exact ih h h'
      · simpa [hab, hbc] using h'
      · simp only [hbc, if_true] at h h'
        simpa [← hbc, hab] using h
      · rw [if_neg hab] at h
        rw [if_neg hbc] at h'
        have hac : a ≠ c := by
          rintro rfl
          exact hab (antisymm_le h h')
        rw [if_neg hac]
        exact trans_le h h'

end VisitLe

/-! ## Files below a place -/

variable {t u : FileTree}

theorem pairwise_filesBelow (t : FileTree) (place : List Text) :
    (filesBelow t place).Pairwise fun f g => visitLe f.1 g.1 = true :=
  pairwise_sortBy (fun (f g : List Text × Bytes) => total_visitLe f.1 g.1) trans_visitLe _

/-- No file is visited twice. -/
theorem nodup_filesBelow (ht : t.Distinct) (place : List Text) :
    ((filesBelow t place).map (·.1)).Nodup := by
  rw [filesBelow, ((sortBy_perm _ _).map _).nodup_iff, List.Nodup, List.pairwise_map]
  refine (List.pairwise_map.mp ht.1).filterMap _ fun e e' hne f hf f' hf' heq => hne ?_
  obtain ⟨q, entry⟩ := e
  obtain ⟨q', entry'⟩ := e'
  cases entry with
  | directory => simp at hf
  | file bytes =>
    cases entry' with
    | directory => simp at hf'
    | file bytes' =>
      simp only [Option.ite_none_right_eq_some, Option.some.injEq,
        List.isPrefixOf_iff_prefix] at hf hf'
      obtain ⟨⟨below, rfl⟩, rfl⟩ := hf
      obtain ⟨⟨below', rfl⟩, rfl⟩ := hf'
      simpa using heq

/-- Two trees that have files at the same places below a directory list them in the same order. Only
files of some kind need to be at the same places if the others are left out. -/
theorem forall₂_filesBelow (ht : t.Distinct) (hu : u.Distinct) {place : List Text}
    (hdir : t.find? place = some .directory) (hdir' : u.find? place = some .directory)
    (keep : List Text → Bool)
    (hsame : ∀ names, names ≠ [] → keep names = true →
      ((∃ bytes, t.find? (place ++ names) = some (.file bytes))
        ↔ ∃ bytes, u.find? (place ++ names) = some (.file bytes))) :
    List.Forall₂ (fun f g => g.1 = f.1 ∧ f.1 ≠ [] ∧ keep f.1 = true
        ∧ t.find? (place ++ f.1) = some (.file f.2) ∧ u.find? (place ++ g.1) = some (.file g.2))
      ((filesBelow t place).filter fun f => keep f.1)
      ((filesBelow u place).filter fun f => keep f.1) := by
  have hmem : ∀ {v : FileTree}, v.Distinct → v.find? place = some .directory →
      ∀ {f}, f ∈ (filesBelow v place).filter (fun f => keep f.1)
        ↔ keep f.1 = true ∧ f.1 ≠ [] ∧ v.find? (place ++ f.1) = some (.file f.2) := by
    intro v hv hvdir f
    rw [List.mem_filter, mem_filesBelow_iff hv hvdir, and_comm]
  have hnames : ∀ {v : FileTree}, v.Distinct → v.find? place = some .directory →
      ∀ {names}, names ∈ ((filesBelow v place).filter fun f => keep f.1).map (·.1)
        ↔ keep names = true ∧ names ≠ []
          ∧ ∃ bytes, v.find? (place ++ names) = some (.file bytes) := by
    intro v hv hvdir names
    rw [List.mem_map]
    constructor
    · rintro ⟨⟨_, bytes⟩, hf, rfl⟩
      obtain ⟨hkeep, hne, hfile⟩ := (hmem hv hvdir).mp hf
      exact ⟨hkeep, hne, bytes, hfile⟩
    · rintro ⟨hkeep, hne, bytes, hfile⟩
      exact ⟨(names, bytes), (hmem hv hvdir).mpr ⟨hkeep, hne, hfile⟩, rfl⟩
  have hnodup : ∀ {v : FileTree}, v.Distinct →
      (((filesBelow v place).filter fun f => keep f.1).map (·.1)).Nodup :=
    fun hv => (nodup_filesBelow hv place).sublist (List.filter_sublist.map _)
  have hsorted : ∀ v : FileTree, (((filesBelow v place).filter fun f => keep f.1).map
      (·.1)).Pairwise fun x y => visitLe x y = true :=
    fun v => List.pairwise_map.mpr ((pairwise_filesBelow v place).filter _)
  -- the names are the same, and both lists have them in the order of the visit
  have hperm := (List.perm_ext_iff_of_nodup (hnodup hu) (hnodup ht)).mpr fun names => by
    rw [hnames hu hdir', hnames ht hdir]
    exact and_congr_right fun hkeep => and_congr_right fun hne => (hsame names hne hkeep).symm
  have heq := hperm.eq_of_pairwise (fun _ _ _ _ => antisymm_visitLe) (hsorted u) (hsorted t)
  have hfirst : List.Forall₂ (fun f g : List Text × Bytes => g.1 = f.1)
      ((filesBelow t place).filter fun f => keep f.1)
      ((filesBelow u place).filter fun f => keep f.1) := by
    have heach : List.Forall₂ (fun x y => y = x)
        (((filesBelow t place).filter fun f => keep f.1).map (·.1))
        (((filesBelow u place).filter fun f => keep f.1).map (·.1)) := by
      rw [heq]
      exact List.forall₂_same.mpr fun _ _ => rfl
    exact List.forall₂_map_right_iff.mp (List.forall₂_map_left_iff.mp heach)
  refine List.forall₂_iff_zip.mpr ⟨by simpa using congrArg List.length heq.symm, fun hfg => ?_⟩
  obtain ⟨hf, hg⟩ := List.of_mem_zip hfg
  obtain ⟨hkeep, hne, hfile⟩ := (hmem ht hdir).mp hf
  exact ⟨List.forall₂_zip hfirst hfg, hne, hkeep, hfile, ((hmem hu hdir').mp hg).2.2⟩

/-! ## Scans -/

section Scan

variable {extension : Option RawText} {root : Path}

theorem locate_of_isDirectory (h : t.isDirectory root = true) :
    t.locate root = .ok root.place ∧ t.find? root.place = some .directory := by
  obtain ⟨hfits, hways⟩ := isDirectory_iff.mp h
  exact ⟨locate_iff.mpr ⟨hfits, fun q hq => hways q hq.of_parent⟩, hways _ root.goesThrough_place⟩

/-- A scan for an extension that is text loads the files that have it. -/
theorem scan_eq_untilError (h : t.isDirectory root = true) {spelled : Text}
    (hspelled : extension.bind RawText.text? = some spelled) :
    scan t extension root = untilError (((filesBelow t root.place).filter fun file =>
      hasExtension spelled (file.1.getLast?.getD [])).map (loadSource spelled root)) := by
  obtain ⟨hlocate, hdir⟩ := locate_of_isDirectory h
  obtain ⟨raw, rfl, hraw⟩ := Option.bind_eq_some_iff.mp hspelled
  rw [scan, hlocate]
  dsimp only
  rw [hdir]
  dsimp only
  cases hfiles : filesBelow t root.place with
  | nil => rfl
  | cons file files =>
    dsimp only
    rw [hraw]

/-- A scan for an extension that is not text finds nothing. It fails if the extension is no string
and there are files. -/
theorem scan_of_unspelled (h : t.isDirectory root = true)
    (hspelled : extension.bind RawText.text? = none) :
    scan t extension root = ([], if extension = none ∧ filesBelow t root.place ≠ [] then
      some .noExtension else none) := by
  obtain ⟨hlocate, hdir⟩ := locate_of_isDirectory h
  rw [scan, hlocate]
  dsimp only
  rw [hdir]
  dsimp only
  cases hfiles : filesBelow t root.place with
  | nil => simp
  | cons file files =>
    cases extension with
    | none => simp
    | some raw =>
      have hraw : RawText.text? raw = none := hspelled
      simp [hraw]

/-- Two trees with the same sources below a root are scanned alike. If the extension is no string,
they have to have the same files there. -/
theorem scan_eq (ht : t.Distinct) (hu : u.Distinct) (hdir : t.isDirectory root = true)
    (hdir' : u.isDirectory root = true)
    (hsame : ∀ spelled names bytes, HasSource u extension root spelled names bytes
      ↔ HasSource t extension root spelled names bytes)
    (hnone : extension = none → ∀ names bytes, names ≠ [] →
      (u.find? (root.place ++ names) = some (.file bytes)
        ↔ t.find? (root.place ++ names) = some (.file bytes))) :
    scan u extension root = scan t extension root := by
  have hplace := (locate_of_isDirectory hdir).2
  have hplace' := (locate_of_isDirectory hdir').2
  cases hspelled : extension.bind RawText.text? with
  | some spelled =>
    rw [scan_eq_untilError hdir hspelled, scan_eq_untilError hdir' hspelled]
    congr 2
    have hlists := forall₂_filesBelow ht hu hplace hplace'
      (fun names => hasExtension spelled (names.getLast?.getD []))
      fun names hne hkeep => exists_congr fun bytes =>
        ⟨fun hfile => ((hsame spelled names bytes).mpr ⟨hspelled, hne, hkeep, hfile⟩).file,
          fun hfile => ((hsame spelled names bytes).mp ⟨hspelled, hne, hkeep, hfile⟩).file⟩
    refine (List.forall₂_eq_eq_eq.le _ _ (hlists.imp ?_)).symm
    rintro ⟨names, bytes⟩ ⟨names', bytes'⟩ ⟨heq, hne, hkeep, hfile, hfile'⟩
    obtain rfl : names' = names := heq
    have := ((hsame spelled names' bytes').mp ⟨hspelled, hne, hkeep, hfile'⟩).file
    rw [hfile] at this
    cases this
    rfl
  | none =>
    rw [scan_of_unspelled hdir hspelled, scan_of_unspelled hdir' hspelled]
    cases extension with
    | some raw => rfl
    | none =>
      have hempty : ∀ {v : FileTree}, v.Distinct → v.find? root.place = some .directory →
          (filesBelow v root.place ≠ []
            ↔ ∃ names bytes, names ≠ [] ∧ v.find? (root.place ++ names) = some (.file bytes)) := by
        intro v hv hvdir
        constructor
        · intro hne
          obtain ⟨⟨names, bytes⟩, hmem⟩ := List.exists_mem_of_ne_nil _ hne
          exact ⟨names, bytes, (mem_filesBelow_iff hv hvdir).mp hmem⟩
        · rintro ⟨names, bytes, hmem⟩
          exact List.ne_nil_of_mem ((mem_filesBelow_iff hv hvdir).mpr hmem)
      have hiff : filesBelow u root.place ≠ [] ↔ filesBelow t root.place ≠ [] := by
        rw [hempty hu hplace', hempty ht hplace]
        exact exists_congr fun names => exists_congr fun bytes => and_congr_right
          fun hne => hnone rfl names bytes hne
      simp only [hiff]

/-- Related values that are all read without an error are read as related values. -/
theorem forall₂_untilError {ε α β : Type} {R : α → α → Prop} {S : β → β → Prop}
    {load : α → Except ε β} {xs ys : List α} (h : List.Forall₂ R xs ys)
    (hload : ∀ x y a b, R x y → load x = .ok a → load y = .ok b → S a b)
    (hx : (untilError (xs.map load)).2 = none) (hy : (untilError (ys.map load)).2 = none) :
    List.Forall₂ S (untilError (xs.map load)).1 (untilError (ys.map load)).1 := by
  induction h with
  | nil => exact List.Forall₂.nil
  | @cons x y xs ys hxy _ ih =>
    rw [List.map_cons] at hx hy
    rw [List.map_cons, List.map_cons]
    cases ha : load x with
    | error e => simp [ha, untilError] at hx
    | ok a =>
      cases hb : load y with
      | error e => simp [hb, untilError] at hy
      | ok b =>
        rw [ha, untilError] at hx
        rw [hb, untilError] at hy
        exact List.Forall₂.cons (hload x y a b hxy ha hb) (ih hx hy)

/-- Two trees that have files at the same places below a root have the same sources there, each
with its own bytes. -/
theorem forall₂_scan (ht : t.Distinct) (hu : u.Distinct) (hdir : t.isDirectory root = true)
    (hdir' : u.isDirectory root = true)
    (hsame : ∀ names, names ≠ [] →
      ((∃ bytes, t.find? (root.place ++ names) = some (.file bytes))
        ↔ ∃ bytes, u.find? (root.place ++ names) = some (.file bytes)))
    (hnone : (scan t extension root).2 = none) (hnone' : (scan u extension root).2 = none) :
    List.Forall₂ (fun a b => ∃ spelled names bytes bytes',
        HasSource t extension root spelled names bytes
        ∧ u.find? (root.place ++ names) = some (.file bytes')
        ∧ loadSource spelled root (names, bytes) = .ok a
        ∧ loadSource spelled root (names, bytes') = .ok b)
      (scan t extension root).1 (scan u extension root).1 := by
  cases hspelled : extension.bind RawText.text? with
  | none =>
    rw [scan_of_unspelled hdir hspelled, scan_of_unspelled hdir' hspelled]
    exact List.Forall₂.nil
  | some spelled =>
    rw [scan_eq_untilError hdir hspelled] at hnone ⊢
    rw [scan_eq_untilError hdir' hspelled] at hnone' ⊢
    have hlists := forall₂_filesBelow ht hu (locate_of_isDirectory hdir).2
      (locate_of_isDirectory hdir').2
      (fun names => hasExtension spelled (names.getLast?.getD []))
      fun names hne _ => hsame names hne
    refine forall₂_untilError hlists ?_ hnone hnone'
    rintro ⟨names, bytes⟩ ⟨names', bytes'⟩ a b ⟨heq, hne, hkeep, hfile, hfile'⟩ ha hb
    obtain rfl : names' = names := heq
    exact ⟨spelled, names', bytes, bytes', ⟨hspelled, hne, hkeep, hfile⟩, hfile', ha, hb⟩

/-- A scan of roots has no error exactly if that of each root has none, and then it finds what
these find, one after the other. -/
theorem scanAll_eq_iff {roots : List Path} {sources : List SourceFile} :
    scanAll t extension roots = (sources, none)
      ↔ (∀ root ∈ roots, (scan t extension root).2 = none)
        ∧ sources = roots.flatMap fun root => (scan t extension root).1 := by
  induction roots generalizing sources with
  | nil => simp [scanAll, eq_comm]
  | cons root roots ih =>
    rw [scanAll]
    rcases hscan : scan t extension root with ⟨found, e⟩
    cases e with
    | some e => simp [hscan]
    | none =>
      rcases hrest : scanAll t extension roots with ⟨more, e⟩
      rw [hrest] at ih
      dsimp only
      rw [List.forall_mem_cons, hscan, List.flatMap_cons, hscan]
      constructor
      · intro h
        cases h
        obtain ⟨hnone, hmore⟩ := ih.mp rfl
        exact ⟨⟨rfl, hnone⟩, by rw [← hmore]⟩
      · rintro ⟨⟨-, hnone⟩, rfl⟩
        have := ih.mpr ⟨hnone, rfl⟩
        rw [Prod.mk.injEq] at this ⊢
        exact ⟨by rw [this.1], this.2⟩

end Scan

end Typings.Discovery
