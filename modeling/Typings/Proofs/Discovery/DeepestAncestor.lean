import Typings.Proofs.Discovery.Ancestor
import Typings.Proofs.Discovery.Roots

/-!
# The deepest ancestor

The common ancestor of roots is found on their texts, but it is the deepest folder that is or holds
every root, name by name. With a slash behind every name, the text of one folder starts that of
another exactly if its names do, so nothing is lost by comparing characters.
-/

namespace Typings

open Typings.Path Text

namespace Discovery

/-! ## Names with slashes behind them -/

/-- Names, each with a slash behind it. -/
def slashed (names : List Text) : Text := names.flatMap fun s => s ++ ['/']

theorem slashed_cons (s : Text) (names : List Text) :
    slashed (s :: names) = s ++ '/' :: slashed names := by
  rw [slashed, List.flatMap_cons, List.append_assoc]
  rfl

theorem slashed_concat (names : List Text) (s : Text) :
    slashed (names ++ [s]) = slashed names ++ (s ++ ['/']) := by
  rw [slashed, List.flatMap_append, List.flatMap_singleton]
  rfl

/-- Cutting at slashes gives back the names, and then what follows them. -/
theorem splitOn_slashed_append {names : List Text} (h : ∀ s ∈ names, '/' ∉ s) (rest : Text) :
    splitOn '/' (slashed names ++ rest) = names ++ splitOn '/' rest := by
  induction names with
  | nil => rfl
  | cons s names ih =>
    rw [slashed_cons, List.append_assoc, List.cons_append,
      splitOn_append_cons (h s List.mem_cons_self), ih fun r hr => h r (List.mem_cons_of_mem _ hr)]
    rfl

/-- Slashed names start others exactly if the names themselves do. -/
theorem slashed_prefix_iff {names names' : List Text} (h : ∀ s ∈ names, '/' ∉ s)
    (h' : ∀ s ∈ names', '/' ∉ s) : slashed names <+: slashed names' ↔ names <+: names' := by
  constructor
  · rintro ⟨rest, hrest⟩
    have hpieces : names ++ splitOn '/' rest = names' ++ [[]] := by
      rw [← splitOn_slashed_append h, hrest, slashed, splitOn_flatMap h', List.map_id']
    obtain ⟨p, ps, hps⟩ : ∃ p ps, splitOn '/' rest = ps ++ [p] := by
      rcases List.eq_nil_or_concat (splitOn '/' rest) with hnil | ⟨ps, p, hps⟩
      · rw [splitOn_eq_splitOn] at hnil
        exact absurd hnil (List.splitOn_ne_nil _ _)
      · exact ⟨p, ps, by rw [hps, List.concat_eq_append]⟩
    -- one piece stands behind the last slash on either side
    rw [hps, ← List.append_assoc] at hpieces
    exact ⟨ps, (List.append_inj' hpieces rfl).1⟩
  · rintro ⟨more, rfl⟩
    rw [slashed, slashed, List.flatMap_append]
    exact List.prefix_append _ _

/-- A first member that all lists have stays in front of what they all begin with. -/
theorem foldl_commonStart_map_cons {α : Type} [DecidableEq α] (a : α) (x : List α)
    (xs : List (List α)) :
    (xs.map (a :: ·)).foldl commonStart (a :: x) = a :: xs.foldl commonStart x := by
  induction xs generalizing x with
  | nil => rfl
  | cons y xs ih =>
    rw [List.map_cons, List.foldl_cons, List.foldl_cons, commonStart, if_pos rfl]
    exact ih _

/-! ## Slashes at the end -/

theorem withoutSlashes_concat (t : Text) : withoutSlashes (t ++ ['/']) = withoutSlashes t := by
  simp [withoutSlashes]

theorem withoutSlashes_concat_of_ne {c : Char} (h : c ≠ '/') (t : Text) :
    withoutSlashes (t ++ [c]) = t ++ [c] := by
  simp [withoutSlashes, h]

/-- Slashes are only taken off the end. -/
theorem withoutSlashes_prefix (t : Text) : withoutSlashes t <+: t := by
  have := (List.dropWhile_suffix (· == '/') (l := t.reverse)).reverse
  rwa [List.reverse_reverse] at this

/-- A text is cut back to a slash behind which there is no other. -/
theorem toLastSlash_append_cons (t : Text) {rest : Text} (h : '/' ∉ rest) :
    toLastSlash (t ++ '/' :: rest) = t ++ ['/'] := by
  have hreverse : (t ++ '/' :: rest).reverse = rest.reverse ++ '/' :: t.reverse := by simp
  have hrest : ∀ c ∈ rest.reverse, (c != '/') = true := bne_of_notMem (by simpa using h)
  rw [toLastSlash, hreverse, List.dropWhile_append_of_pos hrest,
    List.dropWhile_cons_of_neg (by simp)]
  simp

/-- Something is left of a text that has a slash. -/
theorem toLastSlash_ne_nil {t : Text} (h : '/' ∈ t) : toLastSlash t ≠ [] := by
  intro hnil
  have hall := List.dropWhile_eq_nil_iff.mp (List.reverse_eq_nil_iff.mp hnil)
  simpa using hall '/' (List.mem_reverse.mpr h)

/-- What slashed names all begin with, cut back to its last slash, are the names that they all begin
with. -/
theorem toLastSlash_foldl_slashed {x : List Text} {xs : List (List Text)}
    (h : ∀ names ∈ x :: xs, ∀ s ∈ names, '/' ∉ s) (hne : xs.foldl commonStart x ≠ []) :
    toLastSlash ((xs.map slashed).foldl commonStart (slashed x))
      = slashed (xs.foldl commonStart x) := by
  have hbelow : ∀ names ∈ x :: xs, xs.foldl commonStart x <+: names :=
    prefix_foldl_commonStart_iff.mp List.prefix_rfl
  have hshared : ∀ s ∈ xs.foldl commonStart x, '/' ∉ s := fun s hs =>
    h x List.mem_cons_self s ((hbelow x List.mem_cons_self).subset hs)
  have hcommon : ∀ t, t <+: (xs.map slashed).foldl commonStart (slashed x)
      ↔ ∀ names ∈ x :: xs, t <+: slashed names := by
    intro t
    rw [prefix_foldl_commonStart_iff, ← List.map_cons (f := slashed), List.forall_mem_map]
  obtain ⟨rest, hrest⟩ := (hcommon _).mpr fun names hnames =>
    (slashed_prefix_iff hshared (h names hnames)).mpr (hbelow names hnames)
  -- a slash behind the shared names would end one more name that is shared
  have hslash : '/' ∉ rest := by
    intro hmem
    obtain ⟨s, more, rfl, hs⟩ := List.eq_append_cons_of_mem hmem
    have hlonger : slashed (xs.foldl commonStart x ++ [s])
        <+: (xs.map slashed).foldl commonStart (slashed x) :=
      ⟨more, by rw [← hrest, slashed_concat]; simp⟩
    have hmore : xs.foldl commonStart x ++ [s] <+: xs.foldl commonStart x := by
      refine prefix_foldl_commonStart_iff.mpr fun names hnames => ?_
      refine (slashed_prefix_iff ?_ (h names hnames)).mp ((hcommon _).mp hlonger names hnames)
      intro r hr
      rcases List.mem_append.mp hr with hr | hr
      · exact hshared r hr
      · rwa [List.mem_singleton.mp hr]
    exact absurd hmore.length_le (by simp)
  obtain ⟨init, last, hlast⟩ := List.eq_nil_or_concat _ |>.resolve_left hne
  rw [← hrest, hlast, List.concat_eq_append, slashed_concat, ← List.append_assoc,
    List.append_assoc _ ['/'] rest, List.singleton_append, toLastSlash_append_cons _ hslash]

end Discovery

/-! ## Clean paths -/

/-- Whether a path starts at the root of all with a single slash and goes down by names alone, so
that it is absolute and normal. -/
structure Path.IsClean (p : Path) : Prop where
  root : p.root = .absolute
  named : ∀ s ∈ p.segments, IsName s

namespace Path.IsClean

variable {p : Path} (h : p.IsClean)

include h

theorem slash_notMem : ∀ s ∈ p.segments, '/' ∉ s := fun s hs => (h.named s hs).2.2.2

theorem text_eq : p.text = '/' :: joinWith ['/'] p.segments := by
  rw [text, if_neg (by simp [h.root]), h.root]
  rfl

/-- The text of a clean path ends in a slash only at the root of all. -/
theorem withoutSlashes_text (hne : p.segments ≠ []) :
    Discovery.withoutSlashes p.text = p.text := by
  obtain ⟨init, last, hlast⟩ := List.eq_nil_or_concat p.segments |>.resolve_left hne
  rw [List.concat_eq_append] at hlast
  have hname := h.named last (by simp [hlast])
  obtain ⟨front, c, hc⟩ := List.eq_nil_or_concat last |>.resolve_left hname.1
  rw [List.concat_eq_append] at hc
  have hslash : c ≠ '/' := by
    rintro rfl
    exact hname.2.2.2 (by simp [hc])
  obtain ⟨before, hbefore⟩ : ∃ before, joinWith ['/'] p.segments = before ++ [c] := by
    rw [hlast, hc]
    rcases eq_or_ne init [] with rfl | hinit
    · exact ⟨front, by simp [joinWith]⟩
    · exact ⟨_, by rw [joinWith_concat _ hinit, ← List.append_assoc]⟩
  rw [h.text_eq, hbefore, ← List.cons_append, Discovery.withoutSlashes_concat_of_ne hslash]

/-- The text of a clean path with one slash at its end has a slash behind every name, behind an
empty one at the front too. -/
theorem directoryText_eq : Discovery.directoryText p = Discovery.slashed ([] :: p.segments) := by
  rcases eq_or_ne p.segments [] with hnil | hne
  · rw [Discovery.directoryText, h.text_eq, hnil]
    rfl
  · rw [Discovery.directoryText, h.withoutSlashes_text hne, h.text_eq, Discovery.slashed_cons,
      Discovery.slashed, flatMap_append_eq_joinWith _ hne]
    rfl

/-- What is left of the text of a clean path when the slash at its end is taken off, is its
text; of the root of all nothing is left. -/
theorem withoutSlashes_directoryText :
    Discovery.withoutSlashes (Discovery.directoryText p)
      = if p.segments = [] then [] else p.text := by
  rw [Discovery.directoryText, Discovery.withoutSlashes_concat]
  split
  · next hnil =>
    rw [h.text_eq, hnil]
    rfl
  · next hne => rw [h.withoutSlashes_text hne, h.withoutSlashes_text hne]

end Path.IsClean

namespace Discovery

/-! ## The deepest ancestor -/

/-- Whether a path is the deepest one that is or holds each of some paths. -/
structure IsDeepestAncestor (roots : List Path) (ancestor : Path) : Prop where
  contains : ∀ p ∈ roots, ancestor.contains p = true
  deepest : ∀ q : Path, (∀ p ∈ roots, q.contains p = true) → q.contains ancestor = true

/-- The names that all of some paths begin with. -/
def sharedFolder (root : Path) (roots : List Path) : Path :=
  ⟨.absolute, (roots.map Path.segments).foldl commonStart root.segments⟩

theorem contains_iff {p q : Path} :
    p.contains q = true ↔ p.root = q.root ∧ p.segments <+: q.segments := by
  simp [Path.contains]

section Clean

variable {root : Path} {roots : List Path} (h : ∀ p ∈ root :: roots, p.IsClean)

include h

theorem isClean_sharedFolder : (sharedFolder root roots).IsClean := by
  have hstart : (sharedFolder root roots).segments <+: root.segments :=
    prefix_foldl_commonStart_iff.mp List.prefix_rfl _ List.mem_cons_self
  exact ⟨rfl, fun s hs => (h root List.mem_cons_self).named s (hstart.subset hs)⟩

/-- What all paths begin with is their deepest ancestor. -/
theorem isDeepestAncestor_sharedFolder :
    IsDeepestAncestor (root :: roots) (sharedFolder root roots) := by
  have hshared : ∀ names : List Text, names <+: (sharedFolder root roots).segments
      ↔ ∀ p ∈ root :: roots, names <+: p.segments := by
    intro names
    rw [sharedFolder, prefix_foldl_commonStart_iff, ← List.map_cons (f := Path.segments),
      List.forall_mem_map]
  refine ⟨fun p hp => ?_, fun q hq => ?_⟩
  · exact contains_iff.mpr ⟨(h p hp).root.symm, (hshared _).mp List.prefix_rfl p hp⟩
  · have hroot := (contains_iff.mp (hq root List.mem_cons_self)).1
    refine contains_iff.mpr ⟨hroot.trans (h root List.mem_cons_self).root, ?_⟩
    exact (hshared _).mpr fun p hp => (contains_iff.mp (hq p hp)).2

/-- The ancestor that is found is the folder that all roots share. -/
theorem sharedAncestor_eq :
    sharedAncestor (root :: roots) = .ok (sharedFolder root roots).text := by
  cases roots with
  | nil =>
    have hroot : sharedFolder root [] = root := by
      rw [sharedFolder, ← (h root List.mem_cons_self).root]
      rfl
    rw [hroot]
    rfl
  | cons other roots =>
    have hclean := isClean_sharedFolder h
    have hmap : (other :: roots).map directoryText
        = ((other :: roots).map fun p => [] :: p.segments).map slashed := by
      rw [List.map_map]
      exact List.map_congr_left fun p hp =>
        (h p (List.mem_cons_of_mem _ hp)).directoryText_eq
    have hnames : ∀ names ∈ ([] :: root.segments) :: (other :: roots).map fun p => [] :: p.segments,
        ∀ s ∈ names, '/' ∉ s := by
      rw [← List.map_cons (f := fun p : Path => [] :: p.segments), List.forall_mem_map]
      intro p hp
      simpa using (h p hp).slash_notMem
    -- the slash at the front stands behind an empty name that all roots share
    have hfold : ((other :: roots).map fun p => [] :: p.segments).foldl commonStart
        ([] :: root.segments) = [] :: (sharedFolder root (other :: roots)).segments := by
      rw [sharedFolder, ← foldl_commonStart_map_cons, List.map_map]
      rfl
    have hfound := toLastSlash_foldl_slashed hnames (by rw [hfold]; simp)
    rw [hfold, ← hclean.directoryText_eq, ← hmap, ← (h root List.mem_cons_self).directoryText_eq]
      at hfound
    have hclosed : directoryText (sharedFolder root (other :: roots)) ≠ [] := by
      simp [directoryText]
    rw [sharedAncestor, hfound]
    · split
      · next hnil => exact absurd hnil hclosed
      · rw [hclean.withoutSlashes_directoryText]
        by_cases hroot : (sharedFolder root (other :: roots)).segments = []
        · rw [if_pos hroot, hclean.text_eq, hroot]
          rfl
        · rw [if_neg hroot, hclean.text_eq]
    · simp

end Clean

/-- Which path is the deepest ancestor depends only on which paths there are. -/
theorem IsDeepestAncestor.unique {roots roots' : List Path} {p q : Path}
    (h : IsDeepestAncestor roots p) (h' : IsDeepestAncestor roots' q)
    (hsame : ∀ root, root ∈ roots' ↔ root ∈ roots) : q = p := by
  have hpq : q.contains p = true ∧ p.contains q = true :=
    ⟨h.deepest q fun root hroot => h'.contains root ((hsame root).mpr hroot),
      h'.deepest p fun root hroot => h.contains root ((hsame root).mp hroot)⟩
  rw [contains_iff, contains_iff] at hpq
  obtain ⟨⟨hroot, hbelow⟩, -, habove⟩ := hpq
  have hsegments := hbelow.eq_of_length_le habove.length_le
  rcases p with ⟨root, segments⟩
  rcases q with ⟨root', segments'⟩
  rw [Path.mk.injEq]
  exact ⟨hroot, hsegments⟩

/-! ## Roots of settings -/

/-- A path that is seen from an absolute one is absolute. -/
theorem root_ne_relative_of_rootOf {base root : Path} {item : RawText}
    (hbase : base.root ≠ .relative) (h : rootOf base item = .ok root) : root.root ≠ .relative := by
  rw [rootOf] at h
  split at h
  · next t _ =>
    cases h
    rw [normalise, join]
    split
    · exact hbase
    · next hroot => exact hroot
  · rw [ofRaw] at h
    dsimp only at h
    split at h
    · cases h
      rw [joinRaw]
      split
      · exact hbase
      · next hroot => exact hroot
    · cases h

theorem root_ne_relative_of_enterRoots {settings : Settings} {base : Path} {s s' : Session}
    {roots : List Path} (hbase : base.root ≠ .relative)
    (h : Session.run (enterRoots settings base) s = (.ok roots, s')) :
    ∀ root ∈ roots, root.root ≠ .relative := by
  intro root hroot
  have hitem : .ok root ∈ rootsOf settings base := by
    rw [(enterRoots_cases h).2 roots rfl]
    exact List.mem_map_of_mem hroot
  rw [rootsOf] at hitem
  split at hitem
  · obtain ⟨item, -, hitem⟩ := List.mem_map.mp hitem
    exact root_ne_relative_of_rootOf hbase hitem
  · cases List.mem_singleton.mp hitem
    exact hbase

/-- The text of an absolute path with one slash at its end starts with a slash. -/
theorem slash_prefix_directoryText {p : Path} (h : p.root ≠ .relative) :
    ['/'] <+: directoryText p := by
  have htext : ['/'] <+: p.text := by
    rw [text, if_neg fun hdot => h hdot.1]
    rcases hroot : p.root with _ | _ | _
    · exact absurd hroot h
    · exact List.prefix_append _ _
    · exact ⟨'/' :: joinWith ['/'] p.segments, rfl⟩
  rw [directoryText]
  rcases hleft : withoutSlashes p.text with _ | ⟨c, left⟩
  · exact List.prefix_rfl
  · have hstart := withoutSlashes_prefix p.text
    obtain ⟨more, hmore⟩ := htext
    rw [hleft, ← hmore, List.singleton_append, List.cons_prefix_cons] at hstart
    rw [hstart.1]
    exact List.cons_prefix_cons.mpr ⟨rfl, List.nil_prefix⟩

/-- The texts of absolute roots all start with a slash, so something is left of what they begin
with. -/
theorem exists_sharedAncestor {roots : List Path} (hne : roots ≠ [])
    (h : ∀ root ∈ roots, root.root ≠ .relative) : ∃ anchor, sharedAncestor roots = .ok anchor := by
  match roots, hne with
  | [root], _ => exact ⟨_, rfl⟩
  | root :: other :: roots, _ =>
    have hstart : ['/'] <+: ((other :: roots).map directoryText).foldl commonStart
        (directoryText root) := by
      rw [prefix_foldl_commonStart_iff, ← List.map_cons (f := directoryText), List.forall_mem_map]
      exact fun p hp => slash_prefix_directoryText (h p hp)
    have hleft := toLastSlash_ne_nil (hstart.subset (List.mem_singleton_self _))
    rw [sharedAncestor]
    · split
      · next hnil => exact absurd hnil hleft
      · split <;> exact ⟨_, rfl⟩
    · simp

/-- Clean roots have an ancestor, and it is their deepest one, however they are ordered and however
often each is listed. Roots that are found from an absolute directory always have an ancestor. -/
theorem sharedAncestor_deepest :
    (∀ roots : List Path, roots ≠ [] → (∀ p ∈ roots, p.IsClean) →
      ∃ ancestor : Path, ancestor.IsClean ∧ IsDeepestAncestor roots ancestor
        ∧ sharedAncestor roots = .ok ancestor.text
        ∧ ∀ roots' : List Path, (∀ p, p ∈ roots' ↔ p ∈ roots) →
          sharedAncestor roots' = .ok ancestor.text)
    ∧ ∀ (settings : Settings) (base : Path) (s s' : Session) (roots : List Path),
      base.root ≠ .relative → Session.run (enterRoots settings base) s = (.ok roots, s') →
      roots ≠ [] → ∃ anchor, sharedAncestor roots = .ok anchor := by
  have hfound : ∀ roots : List Path, roots ≠ [] → (∀ p ∈ roots, p.IsClean) →
      ∃ ancestor : Path, ancestor.IsClean ∧ IsDeepestAncestor roots ancestor
        ∧ sharedAncestor roots = .ok ancestor.text := by
    rintro (_ | ⟨root, roots⟩) hne hclean
    · exact absurd rfl hne
    · exact ⟨sharedFolder root roots, isClean_sharedFolder hclean,
        isDeepestAncestor_sharedFolder hclean, sharedAncestor_eq hclean⟩
  refine ⟨fun roots hne hclean => ?_, fun settings base s s' roots hbase henter hne =>
    exists_sharedAncestor hne (root_ne_relative_of_enterRoots hbase henter)⟩
  obtain ⟨ancestor, habove, hdeepest, hancestor⟩ := hfound roots hne hclean
  refine ⟨ancestor, habove, hdeepest, hancestor, fun roots' hsame => ?_⟩
  obtain ⟨p, hp⟩ := List.exists_mem_of_ne_nil roots hne
  obtain ⟨ancestor', -, hdeepest', hancestor'⟩ := hfound roots'
    (List.ne_nil_of_mem ((hsame p).mpr hp)) fun q hq => hclean q ((hsame q).mp hq)
  rw [hancestor', hdeepest.unique hdeepest' hsame]

/-- Folders whose names share letters, one of them listed twice. -/
def siblings : List Path :=
  [ofText "/src/app".toList, ofText "/src/apple".toList, ofText "/src/app".toList]

/-- Settings that list a folder, one inside it and one whose path starts with two slashes. -/
def scattered : Settings := { workingDirectories := .text "app; app/Nested ;//app".toList }

/-- The roots of `scattered` seen from `/src`. -/
def scatteredRoots : List Path :=
  [ofText "/src/app".toList, ofText "/src/app/Nested".toList, ofText "//app".toList]

/-- The ancestor of `siblings` splits no name, and the roots of `scattered` have one too. -/
theorem sharedAncestor_deepest_siblings :
    (∃ ancestor : Path, ancestor.IsClean ∧ IsDeepestAncestor siblings ancestor
      ∧ ancestor.text = "/src".toList
      ∧ sharedAncestor (siblings.reverse ++ siblings) = .ok ancestor.text)
    ∧ ∃ s' anchor, Session.run (enterRoots scattered (ofText "/src".toList)) { files := {} }
        = (.ok scatteredRoots, s')
      ∧ sharedAncestor scatteredRoots = .ok anchor := by
  have hclean : ∀ p ∈ siblings, p.IsClean := by
    have hchecked : ∀ p ∈ siblings, p.root = .absolute ∧ ∀ s ∈ p.segments, IsName s := by
      decide +kernel
    exact fun p hp => ⟨(hchecked p hp).1, (hchecked p hp).2⟩
  obtain ⟨ancestor, habove, hdeepest, hfound, hsame⟩ :=
    sharedAncestor_deepest.1 siblings (by decide) hclean
  have htext : sharedAncestor siblings = .ok "/src".toList := by decide +kernel
  refine ⟨⟨ancestor, habove, hdeepest, Except.ok.inj (hfound.symm.trans htext),
    hsame _ fun p => by rw [List.mem_append, List.mem_reverse, or_self]⟩, ?_⟩
  obtain ⟨s', henter⟩ : ∃ s', Session.run (enterRoots scattered (ofText "/src".toList))
      { files := {} } = (.ok scatteredRoots, s') :=
    Session.exists_run_of_toOption (by decide +kernel)
  obtain ⟨anchor, hanchor⟩ := sharedAncestor_deepest.2 _ _ _ _ _ (by decide +kernel) henter
    (by decide)
  exact ⟨s', anchor, henter, hanchor⟩

end Discovery

end Typings
