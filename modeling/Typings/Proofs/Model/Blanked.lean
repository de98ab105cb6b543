import Typings.Proofs.Model.Reader

/-!
# Models without their import paths

A model with all import paths blanked says where it has import paths, but not which. That much of a
model does not depend on where its imports lead, only on which names stand for models.
-/

namespace Typings

open Source Text

/-- An import path that is blanked: it is there, but says nothing. -/
def blankedPath (path : Option Text) : Option Text := path.map fun _ => []

/-- The reference with its import path blanked. -/
def TypeReference.blanked (r : TypeReference) : TypeReference :=
  { r with importPath := blankedPath r.importPath }

/-- The container with the import paths of both types blanked. -/
def Container.blanked (c : Container) : Container := ⟨c.key.blanked, c.value.blanked⟩

/-- The property with all of its import paths blanked. -/
def Property.blanked (p : Property) : Property :=
  { p with importPath := blankedPath p.importPath, container := p.container.map Container.blanked }

/-- What a model declares, with all import paths blanked. An enumeration has none. -/
def Model.Body.blanked : Model.Body → Model.Body
  | .enumeration underlying members => .enumeration underlying members
  | .record properties => .record (properties.map Property.blanked)

/-- The model with all import paths blanked. -/
def Model.blanked (m : Model) : Model :=
  { m with inheritsFrom := blankedPath m.inheritsFrom, body := m.body.blanked }

namespace Model

/-- Models that are equal but for their import paths have one name and one folder. -/
theorem name_folder_of_blanked {m m' : Model} (h : m'.blanked = m.blanked) :
    m'.name = m.name ∧ m'.folder = m.folder := by
  rw [blanked, blanked, Model.mk.injEq] at h
  exact ⟨h.1, h.2.1⟩

section Blanked

variable {ctx ctx' : ReadContext}
  (himports : ∀ name folder, blankedPath (ctx'.imports.find? name folder)
    = blankedPath (ctx.imports.find? name folder))
  (htypes : ctx'.types = ctx.types)

include himports htypes

theorem blanked_readReference (folder declared : Text) :
    (readReference ctx' folder declared).blanked = (readReference ctx folder declared).blanked := by
  have hfound := himports (cleanType declared) folder
  rw [readReference, readReference, htypes]
  cases h : ctx.imports.find? (cleanType declared) folder with
  | none =>
    rw [h] at hfound
    rw [Option.map_eq_none_iff.mp hfound]
  | some path =>
    rw [h] at hfound
    obtain ⟨path', hpath, -⟩ := Option.map_eq_some_iff.mp hfound
    rw [hpath]
    rfl

theorem blanked_readTyped (folder declared name : Text) :
    (readTyped ctx' folder declared name).blanked
      = (readTyped ctx folder declared name).blanked := by
  have hreference := blanked_readReference himports htypes folder
  have hcontainer : (readContainer ctx' folder declared).blanked
      = (readContainer ctx folder declared).blanked := by
    rw [readContainer.eq_def, readContainer.eq_def]
    split <;> simp only [Container.blanked, hreference]
  rw [readTyped, readTyped]
  split
  · simp only [Property.blanked, Option.map_some, hcontainer]
  · have hplain := hreference declared
    simp only [TypeReference.blanked, TypeReference.mk.injEq] at hplain
    simp only [Property.blanked, hplain]

theorem blanked_lineProperties (folder : Text) (line : Line) :
    (lineProperties ctx' folder line).map Property.blanked
      = (lineProperties ctx folder line).map Property.blanked := by
  have hproperty : (readProperty ctx' folder line.tokens).map Property.blanked
      = (readProperty ctx folder line.tokens).map Property.blanked := by
    rw [readProperty.eq_def, readProperty.eq_def]
    split
    · rw [Option.map_some, Option.map_some, blanked_readTyped himports htypes]
    · rfl
  rw [lineProperties, lineProperties]
  split
  · rfl
  · rw [← Option.toList_map, ← Option.toList_map, hproperty]
  · rfl

theorem blanked_readRecord (source : SourceFile) :
    (readRecord ctx' source).blanked = (readRecord ctx source).blanked := by
  have hbase : ∀ inherits : Option Text,
      blankedPath (inherits.bind fun base => ctx'.imports.find? base source.folder)
        = blankedPath (inherits.bind fun base => ctx.imports.find? base source.folder) := by
    intro inherits
    cases inherits with
    | none => rfl
    | some base => exact himports base source.folder
  simp only [readRecord, Model.blanked, Body.blanked, hbase, List.map_flatMap,
    blanked_lineProperties himports htypes]

/-- Where the same names stand for models, a source can be read just as well, and what is read is
the same but for the import paths. -/
theorem exists_read_blanked {source : SourceFile} {m : Model} (h : read ctx source = .ok m) :
    ∃ m', read ctx' source = .ok m' ∧ m'.blanked = m.blanked := by
  cases hfind : source.lines.find? isDecisive with
  | none =>
    rw [read, hfind] at h ⊢
    cases h
    exact ⟨_, rfl, blanked_readRecord himports htypes source⟩
  | some raw =>
    rw [read, hfind] at h ⊢
    exact ⟨m, h, rfl⟩

end Blanked

end Model

end Typings
