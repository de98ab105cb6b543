import Mathlib.Data.List.Forall2
import Mathlib.Data.List.Induction
import Typings.Declaration
import Typings.Model.Reader
import Typings.Proofs.Model.Registry

/-!
# What reading keeps

A model has the name and the folder of its source. Each of its imports is what the import paths
say about the imported name, as seen from that folder.
-/

namespace Typings

open Text

/-- What the first related members of a kind have in common, they have in common if it is there. -/
theorem map_find?_of_forall₂ {α β γ : Type} {R : α → β → Prop} {xs : List α} {ys : List β}
    (h : List.Forall₂ R xs ys) {p : α → Bool} {p' : β → Bool} {f : α → γ} {f' : β → γ}
    (hp : ∀ x y, R x y → p x = p' y) (hf : ∀ x y, R x y → p x = true → f' y = f x) :
    (ys.find? p').map f' = (xs.find? p).map f := by
  induction h with
  | nil => rfl
  | @cons x y xs ys hxy _ ih =>
    rw [List.find?_cons, List.find?_cons, ← hp x y hxy]
    cases hfirst : p x with
    | true => simp only [Option.map_some, hf x y hxy hfirst]
    | false => exact ih

/-! ## First uses -/

/-- One more use is a first use unless there was one before. -/
theorem firstUses_concat {α : Type} [DecidableEq α] (xs : List α) (x : α) :
    firstUses (xs ++ [x])
      = if x ∈ firstUses xs then firstUses xs else firstUses xs ++ [x] := by
  rw [firstUses, List.foldl_append]
  rfl

/-- What is used is used for the first time once. -/
theorem mem_firstUses {α : Type} [DecidableEq α] {xs : List α} {x : α} :
    x ∈ firstUses xs ↔ x ∈ xs := by
  induction xs using List.reverseRecOn with
  | nil => rfl
  | append_singleton xs y ih =>
    rw [firstUses_concat, List.mem_append, List.mem_singleton, ← ih]
    by_cases hy : y ∈ firstUses xs
    · rw [if_pos hy]
      refine ⟨Or.inl, ?_⟩
      rintro (h | rfl)
      · exact h
      · exact hy
    · rw [if_neg hy, List.mem_append, List.mem_singleton]

/-! ## Reading a model -/

namespace Model

variable {ctx : ReadContext} {source : SourceFile} {m : Model}

/-- What is read is the record of a source without a line that decides otherwise, or an enumeration
with the members of all lines. -/
theorem read_cases (h : read ctx source = .ok m) :
    (source.lines.find? isDecisive = none ∧ m = readRecord ctx source)
      ∨ ∃ raw members, source.lines.find? isDecisive = some raw
        ∧ (Source.Line.classify raw).kind = .enumHeader
        ∧ readMembers source.name source.lines = .ok members
        ∧ m = {
          name := source.name
          folder := source.folder
          body := .enumeration (underlyingType (Source.Line.classify raw).text) members } := by
  rw [read] at h
  split at h
  · next hnone => exact Or.inl ⟨hnone, (Except.ok.inj h).symm⟩
  · next raw hsome =>
    dsimp only at h
    split at h
    · next hkind =>
      rw [readEnumeration] at h
      split at h
      · cases h
      · next members hmembers =>
        exact Or.inr ⟨raw, members, hsome, hkind, hmembers, (Except.ok.inj h).symm⟩
    · cases h

/-- A model that is read has the name and the folder of its source. -/
theorem name_folder_of_read (h : read ctx source = .ok m) :
    m.name = source.name ∧ m.folder = source.folder := by
  rcases read_cases h with ⟨-, rfl⟩ | ⟨raw, members, -, -, -, rfl⟩ <;> exact ⟨rfl, rfl⟩

/-- Where a record is read, no line of its source decides otherwise. -/
theorem find?_isDecisive_of_read (h : read ctx source = .ok m) (hrecord : m.isEnum = false) :
    source.lines.find? isDecisive = none ∧ m = readRecord ctx source := by
  rcases read_cases h with hread | ⟨raw, members, -, -, -, rfl⟩
  · exact hread
  · cases hrecord

/-- A record that is read is the record of its source. -/
theorem eq_readRecord_of_read (h : read ctx source = .ok m) {properties : List Property}
    (hbody : m.body = .record properties) : m = readRecord ctx source :=
  (find?_isDecisive_of_read h (by rw [isEnum, hbody])).2

theorem eq_of_importOf {name : Text} {path : Option Text} {i : Import}
    (h : importOf name path = some i) : i.name = name ∧ path = some i.path := by
  rw [importOf, given, Option.map_eq_some_iff] at h
  obtain ⟨found, hfound, rfl⟩ := h
  exact ⟨rfl, (Option.filter_eq_some_iff.mp hfound).1⟩

/-- A reference to a user-defined type is to what the import paths find. -/
theorem find?_of_readReference {folder declared path : Text}
    (huser : (readReference ctx folder declared).isUserDefined = true)
    (h : (readReference ctx folder declared).importPath = some path) :
    ctx.imports.find? (readReference ctx folder declared).type folder = some path := by
  rw [readReference] at huser h ⊢
  split at huser
  · cases huser
  · next found hfound =>
    rw [hfound] at h ⊢
    exact h

/-- Every import that a property needs is one that the import paths find. -/
theorem find?_of_mem_propertyImports {folder declared name : Text} {i : Import}
    (h : i ∈ propertyImports (readTyped ctx folder declared name)) :
    ctx.imports.find? i.name folder = some i.path := by
  have hreference : ∀ {other : Text},
      (readReference ctx folder other).isUserDefined = true →
      importOf (readReference ctx folder other).type
        (readReference ctx folder other).importPath = some i →
      ctx.imports.find? i.name folder = some i.path := by
    intro other huser h
    obtain ⟨hname, hpath⟩ := eq_of_importOf h
    rw [hname]
    exact find?_of_readReference huser hpath
  rw [readTyped] at h
  split at h
  · simp only [propertyImports, Bool.false_eq_true, if_false, List.nil_append, Option.map_some,
      Option.getD_some, List.mem_filterMap] at h
    obtain ⟨r, hr, h⟩ := h
    obtain ⟨other, rfl⟩ : ∃ other, r = readReference ctx folder other := by
      rw [readContainer] at hr
      split at hr <;> simp only [Container.references, List.mem_cons, List.not_mem_nil,
        or_false] at hr <;> rcases hr with rfl | rfl <;> exact ⟨_, rfl⟩
    split at h
    · next huser => exact hreference huser h
    · cases h
  · simp only [propertyImports, Option.map_none, Option.getD_none, List.filterMap_nil,
      List.append_nil] at h
    split at h
    · next huser => exact hreference huser (Option.mem_toList.mp h)
    · simp at h

/-- Every import of a model that is read is one that the import paths find. -/
theorem find?_of_mem_imports (h : read ctx source = .ok m) {i : Import} (hi : i ∈ m.imports) :
    ctx.imports.find? i.name m.folder = some i.path := by
  rw [imports] at hi
  split at hi
  · simp at hi
  · next properties hbody =>
    obtain rfl := eq_readRecord_of_read h hbody
    cases hbody
    rcases List.mem_append.mp (mem_firstUses.mp hi) with hbase | hproperty
    · -- the base type is looked up from the folder of the source
      obtain ⟨base, hgiven, hbase⟩ := Option.bind_eq_some_iff.mp (Option.mem_toList.mp hbase)
      obtain ⟨hname, hpath⟩ := eq_of_importOf hbase
      have hinherits := (Option.filter_eq_some_iff.mp hgiven).1
      rw [hname]
      simp only [readRecord] at hinherits hpath ⊢
      rwa [hinherits, Option.bind_some] at hpath
    · obtain ⟨p, hp, hi⟩ := List.mem_flatMap.mp hproperty
      obtain ⟨line, -, hp⟩ := List.mem_flatMap.mp hp
      rw [lineProperties] at hp
      split at hp
      · -- a placeholder needs no import
        obtain ⟨_, -, rfl⟩ := List.mem_map.mp hp
        simp [Property.placeholder, propertyImports] at hi
      · rw [readProperty.eq_def] at hp
        split at hp
        · rw [Option.mem_toList, Option.some.injEq] at hp
          subst hp
          exact find?_of_mem_propertyImports hi
        · simp at hp
      · simp at hp

/-! ## What reading depends on -/

/-- Whether a source can be read does not depend on the import paths. -/
theorem exists_read (h : read ctx source = .ok m) (ctx' : ReadContext) :
    ∃ m', read ctx' source = .ok m' := by
  cases hfind : source.lines.find? isDecisive with
  | none =>
    rw [read, hfind]
    exact ⟨_, rfl⟩
  | some raw =>
    -- the import paths matter for records only
    rw [read, hfind] at h ⊢
    exact ⟨m, h⟩

section Congr

variable {ctx' : ReadContext}
  (himports : ∀ name folder, ctx'.imports.find? name folder = ctx.imports.find? name folder)
  (htypes : ctx'.types = ctx.types)

include himports htypes

theorem readReference_congr (folder declared : Text) :
    readReference ctx' folder declared = readReference ctx folder declared := by
  rw [readReference, readReference, himports, htypes]

theorem readTyped_congr (folder declared name : Text) :
    readTyped ctx' folder declared name = readTyped ctx folder declared name := by
  have hcontainer : readContainer ctx' folder declared = readContainer ctx folder declared := by
    simp only [readContainer, readReference_congr himports htypes]
  rw [readTyped, readTyped, hcontainer, readReference_congr himports htypes]

theorem lineProperties_congr (folder : Text) :
    lineProperties ctx' folder = lineProperties ctx folder := by
  funext line
  have hproperty : ∀ tokens, readProperty ctx' folder tokens = readProperty ctx folder tokens := by
    intro tokens
    rw [readProperty.eq_def, readProperty.eq_def]
    simp only [readTyped_congr himports htypes]
  rw [lineProperties, lineProperties, hproperty]

/-- Reading depends on the import paths only through the names that it looks up there, and on the
source only through its name, its folder and its lines. -/
theorem read_congr {source' : SourceFile} (hname : source'.name = source.name)
    (hfolder : source'.folder = source.folder) (hlines : source'.lines = source.lines) :
    read ctx' source' = read ctx source := by
  have hrecord : readRecord ctx' source' = readRecord ctx source := by
    simp only [readRecord, hname, hfolder, hlines, himports,
      lineProperties_congr himports htypes]
  have henum : ∀ header, readEnumeration source' header = readEnumeration source header := by
    intro header
    rw [readEnumeration, readEnumeration, hname, hfolder, hlines]
  rw [read, read, hlines, hrecord, hname]
  simp only [henum]

end Congr

end Model

end Typings
