import Typings.Proofs.Model.ImportPath
import Typings.Proofs.Model.Reader

/-!
# The imports of a record are closed

A record imports exactly the user-defined types that it mentions, each of them once, in the order in
which they are first mentioned. Every other type name that it shows is one of the target.
-/

namespace Typings

open Source Text

/-! ## The order of first uses -/

section FirstUses

variable {α β : Type} [DecidableEq α] [DecidableEq β]

theorem nodup_firstUses (xs : List α) : (firstUses xs).Nodup := by
  induction xs using List.reverseRecOn with
  | nil => exact List.nodup_nil
  | append_singleton xs x ih =>
    rw [firstUses_concat]
    by_cases hx : x ∈ firstUses xs
    · rw [if_pos hx]
      exact ih
    · rw [if_neg hx]
      exact List.nodup_append.mpr ⟨ih, by simp, fun a ha b hb hab =>
        hx (List.mem_singleton.mp hb ▸ hab ▸ ha)⟩

/-- What stands earlier among the first uses is used earlier. -/
theorem pairwise_firstUses [BEq α] [LawfulBEq α] (xs : List α) :
    (firstUses xs).Pairwise fun a b => xs.idxOf a < xs.idxOf b := by
  induction xs using List.reverseRecOn with
  | nil => exact List.Pairwise.nil
  | append_singleton xs x ih =>
    -- the places of what was used before do not move
    have hplace : ∀ {a}, a ∈ firstUses xs → (xs ++ [x]).idxOf a = xs.idxOf a := fun ha =>
      List.idxOf_append_of_mem (mem_firstUses.mp ha)
    have hbefore : (firstUses xs).Pairwise
        fun a b => (xs ++ [x]).idxOf a < (xs ++ [x]).idxOf b :=
      ih.imp_of_mem fun ha hb hab => by rwa [hplace ha, hplace hb]
    rw [firstUses_concat]
    by_cases hx : x ∈ firstUses xs
    · rwa [if_pos hx]
    · rw [if_neg hx, List.pairwise_append]
      refine ⟨hbefore, List.pairwise_singleton _ _, ?_⟩
      intro a ha b hb
      have hlast : (xs ++ [x]).idxOf x = xs.length := by
        rw [List.idxOf_append_of_notMem (mt mem_firstUses.mpr hx), List.idxOf_cons_self,
          Nat.add_zero]
      rw [List.mem_singleton.mp hb, hlast, hplace ha]
      exact List.idxOf_lt_length_iff.mpr (mem_firstUses.mp ha)

/-- A map that tells the used apart keeps their first uses. -/
theorem firstUses_map {xs : List α} {f : α → β} (hf : ∀ a ∈ xs, ∀ b ∈ xs, f a = f b → a = b) :
    firstUses (xs.map f) = (firstUses xs).map f := by
  induction xs using List.reverseRecOn with
  | nil => rfl
  | append_singleton xs x ih =>
    have hxs : ∀ {a}, a ∈ xs → a ∈ xs ++ [x] := List.mem_append_left _
    have ih := ih fun a ha b hb => hf a (hxs ha) b (hxs hb)
    have hmem : f x ∈ firstUses (xs.map f) ↔ x ∈ firstUses xs := by
      rw [ih, List.mem_map]
      refine ⟨?_, fun h => ⟨x, h, rfl⟩⟩
      rintro ⟨a, ha, hax⟩
      rwa [hf a (hxs (mem_firstUses.mp ha)) x (by simp) hax] at ha
    rw [List.map_append, List.map_singleton, firstUses_concat, firstUses_concat]
    by_cases hx : x ∈ firstUses xs
    · rw [if_pos hx, if_pos (hmem.mpr hx), ih]
    · rw [if_neg hx, if_neg (mt hmem.mp hx), ih, List.map_append, List.map_singleton]

end FirstUses

/-! ## What a type name is looked up to -/

/-- Whether a name is one that the target has for a primitive type, or that an override gives. -/
def Source.TypeMapping.IsTarget (types : TypeMapping) (name : Text) : Prop :=
  (∃ p : Primitive, name = p.spelling) ∨ ∃ overridden, (overridden, name) ∈ types.overrides

theorem Source.TypeMapping.isTarget_target (types : TypeMapping) (name : Text) :
    types.IsTarget (types.target name) := by
  rw [target]
  split
  · next found hfound =>
    obtain ⟨before, after, hoverrides, -⟩ := List.lookup_eq_some_iff.mp hfound
    exact Or.inr ⟨trim name, by simp [hoverrides]⟩
  · exact Or.inl ⟨_, rfl⟩

/-- What a type name comes to when it is looked up from a folder: a model with its import path, or a
name of the target. -/
inductive ReadContext.LooksUp (ctx : ReadContext) (folder : Text) :
    (name : Text) → (isUserDefined : Bool) → (path : Option Text) → Prop
  | model {name path : Text} (h : ctx.imports.find? name folder = some path) :
    LooksUp ctx folder name true (some path)
  | target {name : Text} (h : ctx.types.IsTarget name) : LooksUp ctx folder name false none

/-- An import path is never empty. -/
theorem ImportPaths.ne_nil_of_find? {imports : ImportPaths} {name folder path : Text}
    (h : imports.find? name folder = some path) : path ≠ [] := by
  rw [find?, Option.map_eq_some_iff] at h
  obtain ⟨target, -, rfl⟩ := h
  rw [importText]
  split <;> simp

/-- A name has an import path if and only if it stands for a model. -/
theorem ImportPaths.isSome_find? (imports : ImportPaths) (name folder : Text) :
    (imports.find? name folder).isSome = imports.isModel name := by
  rw [find?, Option.isSome_map]
  rfl

namespace Model

variable {ctx : ReadContext} {source : SourceFile} {m : Model} {folder : Text}

theorem looksUp_readReference (declared : Text) :
    ctx.LooksUp folder (readReference ctx folder declared).type
      (readReference ctx folder declared).isUserDefined
      (readReference ctx folder declared).importPath := by
  rw [readReference]
  split
  · exact .target (ctx.types.isTarget_target _)
  · next path hpath => exact .model hpath

/-- What is looked up needs an import exactly if it is user-defined. -/
theorem importOf_of_looksUp {name : Text} {path : Option Text}
    (h : ctx.LooksUp folder name true path) :
    ∃ found, path = some found ∧ ctx.imports.find? name folder = some found
      ∧ importOf name path = some ⟨name, found⟩ := by
  cases h with
  | @model found hfound =>
    refine ⟨found, rfl, hfound, ?_⟩
    have hne : found.isEmpty = false := by
      simpa using ImportPaths.ne_nil_of_find? hfound
    simp [importOf, given, Option.filter, hne]

end Model

/-! ## Properties -/

/-- The type names that a property shows: those of key and value of a dictionary, else its own. -/
def Property.shownTypes (p : Property) : List Text :=
  match p.container with
  | some c => c.references.map (·.type)
  | none => [p.type]

/-- The user-defined types that a property mentions: its own, then key and value of a dictionary. -/
def Property.userTypes (p : Property) : List Text :=
  (if p.isUserDefined then [p.type] else [])
    ++ (((p.container.map Container.references).getD []).filter (·.isUserDefined)).map (·.type)

/-- What is known of a property that was read: it is a placeholder, a dictionary of two types that
were looked up, or of one type that was looked up. -/
inductive Property.Resolved (ctx : ReadContext) (folder : Text) (p : Property) : Prop
  | placeholder (h : p = .placeholder)
  | dictionary (c : Container) (hc : p.container = some c) (hp : p.isUserDefined = false)
    (h : ∀ r ∈ c.references, ctx.LooksUp folder r.type r.isUserDefined r.importPath)
  | plain (hc : p.container = none) (h : ctx.LooksUp folder p.type p.isUserDefined p.importPath)

namespace Model

variable {ctx : ReadContext} {source : SourceFile} {m : Model} {folder : Text}

theorem resolved_readTyped (declared name : Text) :
    (readTyped ctx folder declared name).Resolved ctx folder := by
  rw [readTyped]
  by_cases hdictionary : isDictionary declared
  · rw [if_pos hdictionary]
    refine .dictionary _ rfl rfl ?_
    intro r hr
    obtain ⟨other, rfl⟩ : ∃ other, r = readReference ctx folder other := by
      rw [readContainer] at hr
      split at hr <;> simp only [Container.references, List.mem_cons, List.not_mem_nil,
        or_false] at hr <;> rcases hr with rfl | rfl <;> exact ⟨_, rfl⟩
    exact looksUp_readReference other
  · rw [if_neg hdictionary]
    exact .plain rfl (looksUp_readReference declared)

/-- Every property of a record that was read is resolved. -/
theorem resolved_of_read (h : read ctx source = .ok m) {p : Property} (hp : p ∈ m.properties) :
    p.Resolved ctx m.folder := by
  rw [properties] at hp
  split at hp
  · simp at hp
  · next found hbody =>
    obtain rfl := eq_readRecord_of_read h hbody
    cases hbody
    obtain ⟨line, -, hp⟩ := List.mem_flatMap.mp hp
    rw [lineProperties] at hp
    split at hp
    · obtain ⟨_, -, rfl⟩ := List.mem_map.mp hp
      exact .placeholder rfl
    · rw [readProperty.eq_def] at hp
      split at hp
      · rw [Option.mem_toList, Option.some.injEq] at hp
        subst hp
        exact resolved_readTyped _ _
      · simp at hp
    · simp at hp

end Model

namespace Property

variable {ctx : ReadContext} {folder : Text} {p : Property}

/-- The imports that references need are those of the user-defined ones. -/
theorem map_name_filterMap_importOf {references : List TypeReference}
    (h : ∀ r ∈ references, ctx.LooksUp folder r.type r.isUserDefined r.importPath) :
    (references.filterMap fun r =>
        if r.isUserDefined then Model.importOf r.type r.importPath else none).map Import.name
      = (references.filter (·.isUserDefined)).map (·.type) := by
  induction references with
  | nil => rfl
  | cons r rest ih =>
    have hr := h r (by simp)
    have ih := ih fun r hr => h r (by simp [hr])
    by_cases huser : r.isUserDefined = true
    · rw [huser] at hr
      obtain ⟨path, -, -, himport⟩ := Model.importOf_of_looksUp hr
      rw [List.filterMap_cons, if_pos huser, himport, List.filter_cons_of_pos huser, List.map_cons,
        List.map_cons, ih]
    · rw [List.filterMap_cons, if_neg huser, List.filter_cons_of_neg huser, ih]

/-- A property needs the imports of the user-defined types that it mentions. -/
theorem Resolved.map_name_propertyImports (h : p.Resolved ctx folder) :
    (Model.propertyImports p).map Import.name = p.userTypes := by
  cases h with
  | placeholder hp =>
    subst hp
    rfl
  | dictionary c hc hp h =>
    rw [Model.propertyImports, userTypes, hp, hc, Option.map_some, Option.getD_some]
    exact map_name_filterMap_importOf h
  | plain hc h =>
    rw [Model.propertyImports, userTypes, hc, Option.map_none, Option.getD_none,
      List.filterMap_nil, List.filter_nil, List.map_nil, List.append_nil, List.append_nil]
    by_cases huser : p.isUserDefined = true
    · rw [huser] at h
      obtain ⟨path, -, -, himport⟩ := Model.importOf_of_looksUp h
      rw [if_pos huser, if_pos huser, himport]
      rfl
    · rw [if_neg huser, if_neg huser]
      rfl

/-- A type name that a property shows is one of the target, or a user-defined one. -/
theorem Resolved.isTarget_or_mem_userTypes (h : p.Resolved ctx folder)
    (hp : p.isPlaceholder = false) {name : Text} (hname : name ∈ p.shownTypes) :
    ctx.types.IsTarget name ∨ name ∈ p.userTypes := by
  cases h with
  | placeholder hplaceholder =>
    subst hplaceholder
    cases hp
  | dictionary c hc huser h =>
    rw [shownTypes, hc] at hname
    obtain ⟨r, hr, rfl⟩ := List.mem_map.mp hname
    have hlook := h r hr
    generalize hkind : r.isUserDefined = kind, r.importPath = path at hlook
    cases hlook with
    | target htarget => exact Or.inl htarget
    | model hfound =>
      right
      rw [userTypes, hc, Option.map_some, Option.getD_some]
      exact List.mem_append_right _ (List.mem_map.mpr ⟨r, List.mem_filter.mpr ⟨hr, hkind⟩, rfl⟩)
  | plain hc h =>
    rw [shownTypes, hc, List.mem_singleton] at hname
    subst hname
    generalize hkind : p.isUserDefined = kind, p.importPath = path at h
    cases h with
    | target htarget => exact Or.inl htarget
    | model hfound =>
      right
      rw [userTypes, if_pos hkind]
      simp

end Property

/-! ## Records -/

namespace Model

variable {ctx : ReadContext} {source : SourceFile} {m : Model}

/-- The user-defined types that a record mentions, in order: its base type, then those of its
properties. -/
def userTypes (m : Model) : List Text :=
  (if m.inheritsFrom.isSome then m.inherits.toList else [])
    ++ m.properties.flatMap Property.userTypes

/-- What holds of the imports of a model that was read. -/
structure ImportClosure (ctx : ReadContext) (m : Model) : Prop where
  /-- No name is imported twice. -/
  distinct : (m.imports.map Import.name).Nodup
  /-- Every import is of a user-defined type that is mentioned, and every such type is imported. -/
  mentioned : ∀ name, name ∈ m.imports.map Import.name ↔ name ∈ m.userTypes
  /-- What is imported earlier is mentioned earlier. -/
  inOrder : (m.imports.map Import.name).Pairwise fun a b =>
    m.userTypes.idxOf a < m.userTypes.idxOf b
  /-- Every import has the path that a look-up from the folder of the model gives. -/
  resolved : ∀ i ∈ m.imports, ctx.imports.find? i.name m.folder = some i.path
  /-- Every type name in a field is one of the target, or it is imported from where it is looked
  up. -/
  shown : ∀ p ∈ m.fields, ∀ name ∈ p.shownTypes, ctx.types.IsTarget name
    ∨ ∃ path, ⟨name, path⟩ ∈ m.imports ∧ ctx.imports.find? name m.folder = some path
  /-- The base type is imported if and only if it is a model. -/
  base : ∀ name, m.inherits = some name →
    (name ∈ m.imports.map Import.name ↔ ctx.imports.isModel name = true)

/-- A base type has a name. -/
theorem baseType_ne_nil {tokens : List Text} {base : Text} (h : baseType tokens = some base) :
    base ≠ [] := by
  rw [baseType] at h
  split at h
  · cases h
  · next candidate hlast =>
    dsimp only at h
    split at h
    · cases h
    · next hkept =>
      rw [Option.some.injEq] at h
      subst h
      intro hnil
      simp [hnil] at hkept

/-- An enumeration has no base type. -/
theorem inherits_of_enumeration (h : read ctx source = .ok m) {underlying : Option Text}
    {members : List Member} (hbody : m.body = .enumeration underlying members) :
    m.inherits = none ∧ m.inheritsFrom = none := by
  rcases read_cases h with ⟨-, rfl⟩ | ⟨raw, members, -, -, -, rfl⟩
  · cases hbody
  · exact ⟨rfl, rfl⟩

/-- A base type has a name, and is imported from where it is looked up. -/
theorem inherits_of_read (h : read ctx source = .ok m) {base : Text}
    (hbase : m.inherits = some base) :
    base ≠ [] ∧ m.inheritsFrom = ctx.imports.find? base m.folder := by
  cases hbody : m.body with
  | enumeration underlying members =>
    rw [(inherits_of_enumeration h hbody).1] at hbase
    cases hbase
  | record entries =>
    obtain rfl := eq_readRecord_of_read h hbody
    have hlast : ((source.lines.map Line.classify).filterMap lineBase).getLast? = some base := hbase
    obtain ⟨line, -, hline⟩ := List.mem_filterMap.mp (List.mem_of_getLast? hlast)
    rw [lineBase] at hline
    split at hline
    · refine ⟨baseType_ne_nil hline, ?_⟩
      simp only [readRecord, hlast, Option.bind_some]
    · cases hline

/-- The import of the base type is there if the base type is mentioned as a model. -/
theorem map_name_baseImport (h : read ctx source = .ok m) :
    ((given m.inherits).bind (importOf · m.inheritsFrom)).toList.map Import.name
      = if m.inheritsFrom.isSome then m.inherits.toList else [] := by
  cases hinherits : m.inherits with
  | none => simp [given]
  | some base =>
    obtain ⟨hne, hfrom⟩ := inherits_of_read h hinherits
    have hgiven : given (some base) = some base := by
      simp [given, Option.filter, hne]
    rw [hgiven, Option.bind_some]
    cases hfound : ctx.imports.find? base m.folder with
    | none =>
      rw [hfrom, hfound]
      rfl
    | some path =>
      obtain ⟨found, -, -, himport⟩ := importOf_of_looksUp (.model hfound)
      rw [hfrom, hfound, himport]
      rfl

/-- The names that a record imports are the first mentions of user-defined types. -/
theorem map_name_imports (h : read ctx source = .ok m) :
    m.imports.map Import.name = firstUses m.userTypes := by
  have hresolved : ∀ i ∈ m.imports, ctx.imports.find? i.name m.folder = some i.path :=
    fun i hi => find?_of_mem_imports h hi
  have hproperties : ∀ p ∈ m.properties, (propertyImports p).map Import.name = p.userTypes :=
    fun p hp => (resolved_of_read h hp).map_name_propertyImports
  cases hbody : m.body with
  | enumeration underlying members =>
    rw [imports, userTypes, hbody, (inherits_of_enumeration h hbody).2, properties, hbody]
    rfl
  | record entries =>
    have hentries : m.properties = entries := by rw [properties, hbody]
    rw [hentries] at hproperties
    have himports : m.imports = firstUses
        (((given m.inherits).bind (importOf · m.inheritsFrom)).toList
          ++ entries.flatMap propertyImports) := by
      rw [imports, hbody]
    have huses : (((given m.inherits).bind (importOf · m.inheritsFrom)).toList
          ++ entries.flatMap propertyImports).map Import.name = m.userTypes := by
      rw [List.map_append, map_name_baseImport h, userTypes, hentries, List.map_flatMap]
      exact congrArg _ (List.flatMap_congr hproperties)
    rw [himports, ← huses]
    refine (firstUses_map ?_).symm
    -- a name has one path only, so that imports of one name are equal
    intro i hi j hj hname
    have hi := hresolved i (himports ▸ mem_firstUses.mpr hi)
    have hj := hresolved j (himports ▸ mem_firstUses.mpr hj)
    rw [hname, hj, Option.some.injEq] at hi
    obtain ⟨name, path⟩ := i
    obtain ⟨name', path'⟩ := j
    exact congrArg₂ Import.mk hname hi.symm

/-- The imports of a model that is read are closed. -/
theorem importClosure_of_read (h : read ctx source = .ok m) : m.ImportClosure ctx := by
  have hnames := map_name_imports h
  have hmem : ∀ name, name ∈ m.imports.map Import.name ↔ name ∈ m.userTypes := by
    intro name
    rw [hnames, mem_firstUses]
  have hresolved : ∀ i ∈ m.imports, ctx.imports.find? i.name m.folder = some i.path :=
    fun i hi => find?_of_mem_imports h hi
  refine ⟨hnames ▸ nodup_firstUses _, hmem, hnames ▸ pairwise_firstUses _, hresolved,
    fun p hp name hname => ?_, fun name hbase => ⟨fun hin => ?_, fun hmodel => ?_⟩⟩
  · obtain ⟨hp, hplaceholder⟩ := List.mem_filter.mp hp
    rcases (resolved_of_read h hp).isTarget_or_mem_userTypes (by simpa using hplaceholder) hname
      with htarget | huser
    · exact Or.inl htarget
    · have hin := (hmem name).mpr
        (List.mem_append_right _ (List.mem_flatMap.mpr ⟨p, hp, huser⟩))
      obtain ⟨i, hi, rfl⟩ := List.mem_map.mp hin
      exact Or.inr ⟨i.path, hi, hresolved i hi⟩
  · obtain ⟨i, hi, rfl⟩ := List.mem_map.mp hin
    rw [← ctx.imports.isSome_find? i.name m.folder, hresolved i hi]
    rfl
  · have hfrom := (inherits_of_read h hbase).2
    rw [← ctx.imports.isSome_find? name m.folder, ← hfrom] at hmodel
    rw [hmem, userTypes, if_pos hmodel, hbase]
    simp

/-- The models of a small ledger. -/
def ledger : ReadContext where
  imports :=
    { registry :=
        { entries :=
            [{ name := "Money".toList
               folder := "shared".toList
               path := Path.ofText "/src/shared/Money.cs".toList
               root := Path.ofText "/src".toList },
             { name := "Entity".toList
               folder := []
               path := Path.ofText "/src/Entity.cs".toList
               root := Path.ofText "/src".toList }] }
      anchor := "/src".toList }

/-- A record of the ledger that mentions a model twice, and after its base type. -/
def invoice : SourceFile where
  name := "Invoice".toList
  folder := "sales".toList
  path := Path.ofText "/src/sales/Invoice.cs".toList
  root := Path.ofText "/src".toList
  lines :=
    ["public class Invoice : Entity".toList, "public Money? Total;".toList,
     "public Dictionary<string, List<Money>> Parts;".toList, "public DateTime Date;".toList]

theorem importClosure_of_read_invoice : ∃ m, read ledger invoice = .ok m
    ∧ m.imports.map Import.name = ["Entity".toList, "Money".toList] ∧ m.ImportClosure ledger := by
  have hread : read ledger invoice = .ok (readRecord ledger invoice) := by decide +kernel
  refine ⟨_, hread, by decide +kernel, importClosure_of_read hread⟩

end Model

end Typings
