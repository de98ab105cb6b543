import Typings.Model.ImportPath
import Typings.Proofs.Output

/-!
# Where imports lead

An import walks up from the folder of the importing file to the deepest folder that it shares with
the imported one, and then down. Both output folders lie below the same anchor, so the walk does not
depend on it, and below any other output directory it leads to the same file.
-/

namespace Typings

open Typings.Path Text

/-! ## Common beginnings -/

section CommonStart

variable {α : Type} [DecidableEq α]

/-- Two lists go on after their common beginning. -/
theorem Path.exists_commonStart (x y : List α) :
    ∃ x' y', x = commonStart x y ++ x' ∧ y = commonStart x y ++ y' := by
  induction x generalizing y with
  | nil => exact ⟨[], y, rfl, rfl⟩
  | cons a x ih =>
    cases y with
    | nil => exact ⟨a :: x, [], rfl, rfl⟩
    | cons b y =>
      rw [commonStart]
      split
      · next hab =>
        subst hab
        obtain ⟨x', y', hx, hy⟩ := ih y
        exact ⟨x', y', by rw [List.cons_append, ← hx], by rw [List.cons_append, ← hy]⟩
      · exact ⟨a :: x, b :: y, rfl, rfl⟩

/-- What is put before both lists is common to them. -/
theorem Path.commonStart_append (above x y : List α) :
    commonStart (above ++ x) (above ++ y) = above ++ commonStart x y := by
  induction above with
  | nil => rfl
  | cons a above ih =>
    rw [List.cons_append, List.cons_append, commonStart, if_pos rfl, ih, List.cons_append]

end CommonStart

/-! ## Walks -/

/-- What two folders both lie below does not change the walk from one to the other. -/
theorem Path.relative_append (root root' : Root) (above there here : List Text) :
    (⟨root, above ++ there⟩ : Path).relative ⟨root', above ++ here⟩
      = (⟨root, there⟩ : Path).relative ⟨root', here⟩ := by
  simp only [relative, commonStart_append, List.length_append, Nat.add_sub_add_left,
    List.drop_append, List.drop_of_length_le (Nat.le_add_right _ _), List.nil_append,
    Nat.add_sub_cancel_left]

/-- Walking up from names to a folder above them, and down again by other names, leads to those
names below that folder. -/
theorem Path.normalise_walk (root : Root) (above shared : List Text) {up : List Text}
    (hshared : dotDot ∉ shared) (hup : dotDot ∉ up) (down : List Text) :
    (⟨root, above ++ (shared ++ up) ++ (List.replicate up.length dotDot ++ down)⟩ : Path).normalise
      = (⟨root, above ++ (shared ++ down)⟩ : Path).normalise := by
  have hnames : dotDot ∉ shared ++ up := by
    rw [List.mem_append, not_or]
    exact ⟨hshared, hup⟩
  have hrev : dotDot ∉ up.reverse := by simpa using hup
  rw [normalise, normalise]
  congr 1
  generalize (root == .relative) = relative
  rw [resolveFrom_append, resolveFrom_append dotDot relative [] above,
    resolveFrom_of_notMem relative _ hnames, resolveFrom_append dotDot relative [] above,
    resolveFrom_append dotDot relative _ shared, resolveFrom_of_notMem relative _ hshared]
  have hclimb := resolveFrom_climb relative
    (shared.reverse ++ (resolveFrom dotDot relative [] above).reverse) hrev down
  rw [List.length_reverse] at hclimb
  simpa using hclimb

namespace ImportPaths

variable (imports : ImportPaths)

/-- The output folder of names is what the anchor is normalised to, with the re-cased names below
it. -/
theorem exists_outputFolder : ∃ root above, ∀ names : List Text, (∀ s ∈ names, IsName s) →
    imports.outputFolder (joinWith ['/'] names)
      = ⟨root, above ++ names.map imports.style.segment⟩ := by
  obtain ⟨anchor, hanchor⟩ :
      ∃ anchor, anchor = ofText (if imports.anchor.isEmpty then ['/'] else imports.anchor) :=
    ⟨_, rfl⟩
  refine ⟨anchor.root, resolveFrom dotDot (anchor.root == .relative) [] anchor.segments,
    fun names hnames => ?_⟩
  have hplain : dotDot ∉ names.map imports.style.segment :=
    dotDot_notMem_of_names (imports.style.isName_of_mem_map_segment hnames)
  rw [outputFolder, ← hanchor, imports.style.ofText_directory hnames, join, if_pos rfl, normalise,
    resolveFrom_append, resolveFrom_of_notMem _ _ hplain, List.reverse_reverse]

/-- The walk from one output folder to another is that from the re-cased names of the one to those of
the other, wherever both folders are anchored. -/
theorem relative_outputFolder {here there : List Text} (hhere : ∀ s ∈ here, IsName s)
    (hthere : ∀ s ∈ there, IsName s) :
    (imports.outputFolder (joinWith ['/'] there)).relative
        (imports.outputFolder (joinWith ['/'] here))
      = (⟨.relative, there.map imports.style.segment⟩ : Path).relative
        ⟨.relative, here.map imports.style.segment⟩ := by
  obtain ⟨root, above, houtput⟩ := imports.exists_outputFolder
  rw [houtput _ hhere, houtput _ hthere, relative_append]
  rfl

/-- The walk from one output folder to another: up from what the first has alone, and down to what
the second has alone. -/
theorem exists_walk {here there : List Text} (hhere : ∀ s ∈ here, IsName s)
    (hthere : ∀ s ∈ there, IsName s) :
    ∃ shared up down, here.map imports.style.segment = shared ++ up
      ∧ there.map imports.style.segment = shared ++ down
      ∧ (imports.outputFolder (joinWith ['/'] there)).relative
          (imports.outputFolder (joinWith ['/'] here))
        = ⟨.relative, List.replicate up.length dotDot ++ down⟩ := by
  obtain ⟨up, down, hup, hdown⟩ := exists_commonStart (here.map imports.style.segment)
    (there.map imports.style.segment)
  refine ⟨_, up, down, hup, hdown, ?_⟩
  rw [imports.relative_outputFolder hhere hthere, relative]
  generalize commonStart (here.map imports.style.segment) (there.map imports.style.segment)
    = shared at hup hdown
  dsimp only
  rw [hup, hdown, List.length_append, Nat.add_sub_cancel_left, List.drop_left]

/-! ## The text of an import -/

/-- The text of an import says the walk and the file name behind it. A single dot stands in front
unless the walk goes up. -/
theorem importText_eq (segments : List Text) (stem : Text) :
    importText ⟨.relative, segments⟩ stem
      = (if segments.head? = some dotDot then [] else "./".toList)
        ++ joinWith ['/'] (segments ++ [stem]) := by
  cases segments with
  | nil => simp [importText, joinWith]
  | cons first rest =>
    have htext : (⟨.relative, first :: rest⟩ : Path).text = joinWith ['/'] (first :: rest) := by
      simp [Path.text, Root.text]
    rw [importText, joinWith_concat _ (by simp)]
    dsimp only
    rw [htext]
    simp only [List.head?_cons, Option.some_inj, List.append_assoc, List.singleton_append]

/-- The text of an import says the walk and the file name behind it. It starts with one or two dots
and a slash. -/
theorem exists_importText (walk : Path) (hroot : walk.root = .relative) (stem : Text) :
    ∃ lead, (lead = [] ∨ lead = [dot])
      ∧ ("./".toList <+: importText walk stem ∨ "../".toList <+: importText walk stem)
      ∧ ∀ extension, importText walk stem ++ extension
        = joinWith ['/'] (lead ++ walk.segments ++ [stem ++ extension]) := by
  obtain ⟨root, segments⟩ := walk
  obtain rfl : root = .relative := hroot
  have hbehind : ∀ extension, joinWith ['/'] (segments ++ [stem]) ++ extension
      = joinWith ['/'] (segments ++ [stem ++ extension]) := by
    intro extension
    rcases eq_or_ne segments [] with rfl | hne
    · simp [joinWith]
    · rw [joinWith_concat _ hne, joinWith_concat _ hne, List.append_assoc]
  rw [importText_eq]
  by_cases hup : segments.head? = some dotDot
  · obtain ⟨rest, rfl⟩ := List.head?_eq_some_iff.mp hup
    refine ⟨[], Or.inl rfl, Or.inr ?_, fun extension => ?_⟩
    · rw [if_pos hup, List.nil_append, List.cons_append, joinWith_cons _ _ (by simp)]
      exact List.prefix_append _ _
    · rw [if_pos hup, List.nil_append, hbehind]
      rfl
  · refine ⟨[dot], Or.inr rfl, Or.inl ?_, fun extension => ?_⟩
    · rw [if_neg hup]
      exact List.prefix_append _ _
    · rw [if_neg hup, List.append_assoc, hbehind]
      exact (joinWith_cons ['/'] dot (by simp)).symm

/-- Read as a path, an import with the extension behind it is the walk to the file. -/
theorem ofText_importText {up : Nat} {down : List Text} (hdown : ∀ s ∈ down, IsName s)
    {stem extension : Text} (hfile : IsName (stem ++ extension)) :
    ofText (importText ⟨.relative, List.replicate up dotDot ++ down⟩ stem ++ extension)
      = ⟨.relative, List.replicate up dotDot ++ down ++ [stem ++ extension]⟩ := by
  obtain ⟨lead, hlead, -, htext⟩ := exists_importText
    ⟨.relative, List.replicate up dotDot ++ down⟩ rfl stem
  have hsegments : ∀ s ∈ List.replicate up dotDot ++ down ++ [stem ++ extension],
      s ≠ [] ∧ s ≠ dot ∧ '/' ∉ s := by
    intro s hs
    rcases List.mem_append.mp hs with hs | hs
    · rcases List.mem_append.mp hs with hs | hs
      · rw [List.eq_of_mem_replicate hs]
        decide
      · exact ⟨(hdown s hs).1, (hdown s hs).2.1, (hdown s hs).2.2.2⟩
    · rw [List.mem_singleton.mp hs]
      exact ⟨hfile.1, hfile.2.1, hfile.2.2.2⟩
  rw [htext, List.append_assoc lead]
  exact ofText_joinWith_lead hlead hsegments

/-- Import paths depend on the registry only through the name and the folder of what it finds. -/
theorem find?_congr {imports' : ImportPaths} (hanchor : imports'.anchor = imports.anchor)
    (hstyle : imports'.style = imports.style)
    (hregistry : ∀ name, (imports'.registry.find? name).map (fun file => (file.name, file.folder))
      = (imports.registry.find? name).map fun file => (file.name, file.folder))
    (name fromFolder : Text) : imports'.find? name fromFolder = imports.find? name fromFolder := by
  have hoption : ∀ imports : ImportPaths, imports.find? name fromFolder
      = ((imports.registry.find? name).map fun file => (file.name, file.folder)).map fun file =>
        importText ((imports.outputFolder file.2).relative (imports.outputFolder fromFolder))
          (imports.style.fileStem file.1) := by
    intro imports
    rw [find?, Option.map_map]
    rfl
  have hfolder : ∀ folder, imports'.outputFolder folder = imports.outputFolder folder := by
    intro folder
    rw [outputFolder, outputFolder, hanchor, hstyle]
  rw [hoption, hoption, hregistry, hstyle]
  simp only [hfolder]

end ImportPaths

end Typings
