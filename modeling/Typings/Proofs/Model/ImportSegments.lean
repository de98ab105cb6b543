import Mathlib.Order.Bounds.Basic
import Typings.Proofs.Discovery.Ancestor
import Typings.Proofs.Model.ImportPath
import Typings.Proofs.Model.Registry

/-!
# Import paths by segments

An import path is known from the re-cased segments of two folders and the name of a file alone: it
goes up from the segments that only the importing folder has, and down through those that only the
imported one has. Where both folders are anchored leaves no trace in it.
-/

namespace Typings

open Typings.Path Text

/-- The longest common beginning of two lists is the longest one. -/
theorem Path.isGreatest_commonStart {α : Type} [DecidableEq α] (x y : List α) :
    IsGreatest { n | ∃ shared, shared <+: x ∧ shared <+: y ∧ shared.length = n }
      (commonStart x y).length := by
  obtain ⟨hx, hy⟩ := prefix_commonStart_iff.mp (List.prefix_refl (commonStart x y))
  refine ⟨⟨_, hx, hy, rfl⟩, ?_⟩
  rintro n ⟨shared, hx, hy, rfl⟩
  exact (prefix_commonStart_iff.mpr ⟨hx, hy⟩).length_le

/-- Of the files with one name the last is found. -/
theorem Registry.find?_of_last {r : Registry} {before after : List SourceFile} {file : SourceFile}
    (hentries : r.entries = before ++ file :: after)
    (hafter : ∀ other ∈ after, other.name ≠ file.name) : r.find? file.name = some file :=
  find?_eq_some_iff.mpr ⟨rfl, before, after, hentries, hafter⟩

namespace ImportPaths

variable (imports : ImportPaths)

/-- The import path from one folder to a file in another, said by their segments, of which they
share the first `shared` ones. -/
def segmentPath (there here : List Text) (shared : Nat) (stem : Text) : Text :=
  (if shared = here.length then "./".toList
    else (List.replicate (here.length - shared) "../".toList).flatten)
  ++ joinWith ['/'] (there.drop shared ++ [stem])

theorem find?_eq_none_iff {name folder : Text} :
    imports.find? name folder = none ↔ name ∉ imports.registry.names := by
  rw [find?, Option.map_eq_none_iff, Registry.find?_eq_none_iff]

/-- Double dots in front of other segments each have a slash behind them. -/
theorem joinWith_climb (up : Nat) {rest : List Text} (hrest : rest ≠ []) :
    joinWith ['/'] (List.replicate up dotDot ++ rest)
      = (List.replicate up "../".toList).flatten ++ joinWith ['/'] rest := by
  induction up with
  | zero => rfl
  | succ up ih =>
    rw [List.replicate_succ, List.cons_append, joinWith_cons _ _ (by simp [hrest]), ih,
      List.replicate_succ, List.flatten_cons, List.append_assoc]
    rfl

/-- The text of a walk between folders whose names have no double dots. -/
theorem importText_relative {there here : List Text} (hthere : dotDot ∉ there) (stem : Text) :
    importText ((⟨.relative, there⟩ : Path).relative ⟨.relative, here⟩) stem
      = segmentPath there here (commonStart here there).length stem := by
  have hshared : (commonStart here there).length ≤ here.length := by
    obtain ⟨hshort, -⟩ := prefix_commonStart_iff.mp (List.prefix_refl (commonStart here there))
    exact hshort.length_le
  have hdown : dotDot ∉ there.drop (commonStart here there).length :=
    fun hmem => hthere (List.mem_of_mem_drop hmem)
  rw [relative, importText_eq, segmentPath]
  dsimp only
  generalize (commonStart here there).length = shared at hshared hdown
  -- a walk that does not go up starts with a name, and only then the text is given a dot in front
  by_cases hlevel : shared = here.length
  · have hhead : (there.drop shared).head? ≠ some dotDot := fun hhead =>
      hdown (List.mem_of_head? hhead)
    rw [if_pos hlevel, hlevel, Nat.sub_self, List.replicate_zero, List.nil_append, ← hlevel,
      if_neg hhead]
  · obtain ⟨up, hup⟩ : ∃ up, here.length - shared = up + 1 := ⟨here.length - shared - 1, by omega⟩
    rw [if_neg hlevel, hup, if_pos (by rw [List.replicate_succ]; rfl), List.nil_append,
      List.append_assoc, joinWith_climb _ (by simp)]

/-- Import paths said by segments. A name that is registered is imported by the walk from the
re-cased segments of the importing folder to those of the folder of the last file with that name,
under any anchor alike. No other name is imported. -/
theorem find?_by_segments (name : Text) :
    (∀ folder, imports.find? name folder = none ↔ name ∉ imports.registry.names)
    ∧ ∀ (before after : List SourceFile) (target : SourceFile) (there here : List Text) (c : Nat),
      imports.registry.entries = before ++ target :: after → target.name = name →
      (∀ other ∈ after, other.name ≠ name) → target.folder = joinWith ['/'] there →
      (∀ s ∈ there, IsName s) → (∀ s ∈ here, IsName s) →
      IsGreatest { n | ∃ shared, shared <+: there.map imports.style.segment
        ∧ shared <+: here.map imports.style.segment ∧ shared.length = n } c →
      imports.find? name (joinWith ['/'] here)
          = some (segmentPath (there.map imports.style.segment) (here.map imports.style.segment) c
            (imports.style.fileStem name))
        ∧ ∀ anchor, ({ imports with anchor } : ImportPaths).find? name (joinWith ['/'] here)
          = imports.find? name (joinWith ['/'] here) := by
  refine ⟨fun folder => imports.find?_eq_none_iff, ?_⟩
  intro before after target there here c hentries hname hafter hfolder hthere hhere hc
  subst hname
  have hfound : imports.registry.find? target.name = some target :=
    Registry.find?_of_last hentries hafter
  have hshared : c = (commonStart (here.map imports.style.segment)
      (there.map imports.style.segment)).length := by
    refine hc.unique ?_
    have hgreatest := isGreatest_commonStart (here.map imports.style.segment)
      (there.map imports.style.segment)
    simpa only [and_left_comm] using hgreatest
  have hnames : dotDot ∉ there.map imports.style.segment :=
    dotDot_notMem_of_names (imports.style.isName_of_mem_map_segment hthere)
  -- both folders hang below the anchor, so a walk between them never reaches it
  have hpath : ∀ anchor, ({ imports with anchor } : ImportPaths).find? target.name
      (joinWith ['/'] here) = some (segmentPath (there.map imports.style.segment)
        (here.map imports.style.segment) c (imports.style.fileStem target.name)) := by
    intro anchor
    rw [find?, hfound, Option.map_some, hfolder, relative_outputFolder _ hhere hthere,
      importText_relative hnames, hshared]
  exact ⟨hpath imports.anchor, fun anchor => (hpath anchor).trans (hpath imports.anchor).symm⟩

/-- A file of the given name and folder. -/
def fileIn (name folder : Text) : SourceFile where
  name := name
  folder := folder
  path := (Path.ofText "/work".toList).join (Path.ofText (folder ++ '/' :: name))
  root := Path.ofText "/work".toList

/-- Import paths in kebab case for a name that is registered twice. -/
def reopened : ImportPaths where
  registry := ⟨[fileIn "OrderStatus".toList "Old".toList,
    fileIn "OrderStatus".toList "Sales/..Hidden".toList, fileIn "Order".toList []]⟩
  anchor := "/work/./tmp/..".toList
  style := .kebab

/-- The last file of a name is imported from beside the folder that it shares, whose own name only
starts with dots, and a name without a file is not. -/
theorem find?_by_segments_reopened :
    reopened.find? "OrderStatus".toList "Sales/Open".toList
        = some "../..-hidden/order-status".toList
      ∧ ({ reopened with anchor := "/".toList } : ImportPaths).find? "OrderStatus".toList
          "Sales/Open".toList = some "../..-hidden/order-status".toList
      ∧ reopened.find? "Status".toList "Sales/Open".toList = none := by
  have hpath := (reopened.find?_by_segments "OrderStatus".toList).2
    [fileIn "OrderStatus".toList "Old".toList] [fileIn "Order".toList []]
    (fileIn "OrderStatus".toList "Sales/..Hidden".toList) ["Sales".toList, "..Hidden".toList]
    ["Sales".toList, "Open".toList] _ rfl rfl (by decide) (by decide) (by decide) (by decide)
    (isGreatest_commonStart _ _)
  have hfound : reopened.find? "OrderStatus".toList "Sales/Open".toList
      = some "../..-hidden/order-status".toList := hpath.1.trans (by decide)
  have hunknown := (reopened.find?_by_segments "Status".toList).1 "Sales/Open".toList
  exact ⟨hfound, (hpath.2 "/".toList).trans hfound, hunknown.mpr (by decide)⟩

end ImportPaths

end Typings
