import Typings.Proofs.Model.ImportClosure

/-!
# Records that import themselves

The user-defined types of a record are the models among the type names that its lines mention.
Nothing exempts the record's own name: it is imported exactly if some line mentions it, and where
the name stands for the record's own source, the import leads to the file that it stands in.
-/

namespace Typings

open Source Text

/-! ## The type names that lines mention -/

/-- The type names that a declared type mentions: those of key and value of a dictionary, where an
argument that is missing counts as empty, and else the one of the type itself. -/
def Source.mentions (declared : Text) : List Text :=
  if isDictionary declared then
    ((typeArguments (withoutMarks declared) ++ [[], []]).take 2).map cleanType
  else [cleanType declared]

/-- The type names that a line mentions as the type of a property. -/
def Source.Line.mentions (line : Line) : List Text :=
  match line.kind, line.tokens with
  | .property, declared :: _ :: _ => Source.mentions declared
  | _, _ => []

namespace Model

/-- The type names that the lines of a record mention: the last base type, then the types of the
properties in their order. -/
def mentionedTypes (lines : List Text) : List Text :=
  ((lines.map Line.classify).filterMap lineBase).getLast?.toList
    ++ (lines.map Line.classify).flatMap Line.mentions

variable {ctx : ReadContext} {source : SourceFile} {m : Model}

/-! ## What is mentioned and stands for a model -/

/-- The user-defined types among references are the models among the names that were read. -/
theorem map_type_filter_readReference (folder : Text) (names : List Text) :
    ((names.map (readReference ctx folder)).filter (·.isUserDefined)).map (·.type)
      = (names.map cleanType).filter ctx.imports.isModel := by
  induction names with
  | nil => rfl
  | cons declared names ih =>
    have hmodel := ctx.imports.isSome_find? (cleanType declared) folder
    rw [List.map_cons, List.map_cons, List.filter_cons, List.filter_cons, ← hmodel, readReference]
    cases ctx.imports.find? (cleanType declared) folder with
    | none => simpa using ih
    | some path => simpa using ih

/-- Key and value of a dictionary are its first two arguments. -/
theorem references_readContainer (folder declared : Text) :
    (readContainer ctx folder declared).references
      = ((typeArguments (withoutMarks declared) ++ [[], []]).take 2).map
        (readReference ctx folder) := by
  rw [readContainer]
  rcases typeArguments (withoutMarks declared) with _ | ⟨key, _ | ⟨value, rest⟩⟩ <;> rfl

theorem userTypes_readTyped (folder declared name : Text) :
    (readTyped ctx folder declared name).userTypes
      = (Source.mentions declared).filter ctx.imports.isModel := by
  rw [readTyped, Source.mentions]
  split
  · rw [← map_type_filter_readReference folder, ← references_readContainer]
    rfl
  · have hone : (([declared].map (readReference ctx folder)).filter (·.isUserDefined)).map (·.type)
        = ([declared].map cleanType).filter ctx.imports.isModel :=
      map_type_filter_readReference folder [declared]
    rw [List.map_singleton, List.map_singleton] at hone
    rw [← hone, Property.userTypes]
    by_cases huser : (readReference ctx folder declared).isUserDefined = true <;> simp [huser]

/-- The user-defined types of the properties that a line declares are the models that it
mentions. -/
theorem userTypes_lineProperties (folder : Text) (line : Line) :
    (lineProperties ctx folder line).flatMap Property.userTypes
      = line.mentions.filter ctx.imports.isModel := by
  rw [lineProperties.eq_def, Line.mentions.eq_def]
  cases line.kind with
  | property =>
    rcases line.tokens with _ | ⟨declared, _ | ⟨name, rest⟩⟩
    · rfl
    · rfl
    · simpa [readProperty] using userTypes_readTyped folder declared (withoutSemicolon name)
  | classHeader => cases baseType line.tokens <;> rfl
  | _ => rfl

/-- The user-defined types of a record are the models among the type names that its lines
mention. -/
theorem userTypes_readRecord (ctx : ReadContext) (source : SourceFile) :
    (readRecord ctx source).userTypes
      = (mentionedTypes source.lines).filter ctx.imports.isModel := by
  have hproperties : ((source.lines.map Line.classify).flatMap
        (lineProperties ctx source.folder)).flatMap Property.userTypes
      = ((source.lines.map Line.classify).flatMap Line.mentions).filter ctx.imports.isModel := by
    rw [List.flatMap_assoc, List.filter_flatMap]
    exact List.flatMap_congr fun line _ => userTypes_lineProperties source.folder line
  have hbase : ∀ base : Option Text,
      (if (base.bind fun name => ctx.imports.find? name source.folder).isSome then base.toList
        else []) = base.toList.filter ctx.imports.isModel := by
    intro base
    cases base with
    | none => rfl
    | some name =>
      rw [Option.bind_some, ctx.imports.isSome_find?]
      cases hmodel : ctx.imports.isModel name <;> simp [hmodel]
  rw [mentionedTypes, List.filter_append, ← hproperties, ← hbase]
  rfl

/-! ## The own name -/

end Model

/-- A folder is reached from itself without a step. -/
theorem Path.relative_self (p : Path) : p.relative p = ⟨.relative, []⟩ := by
  have hself : ∀ segments : List Text, commonStart segments segments = segments := by
    intro segments
    induction segments with
    | nil => rfl
    | cons s rest ih => rw [commonStart, if_pos rfl, ih]
  rw [relative, hself]
  simp

namespace Model

variable {ctx : ReadContext} {source : SourceFile} {m : Model}

/-- A record whose source is registered imports its own name exactly if one of its lines mentions
it: as the base type, or as what is left of the type of a property, of an element, of a key or of a
value. If the name stands for that source, the import leads from the file to itself. -/
theorem imports_itself_iff (h : read ctx source = .ok m) (hrecord : m.isEnum = false)
    (hsource : source ∈ ctx.imports.registry.entries) :
    (m.name ∈ m.imports.map Import.name ↔ m.name ∈ mentionedTypes source.lines)
    ∧ (ctx.imports.registry.find? m.name = some source → ∀ i ∈ m.imports, i.name = m.name →
      i.path = "./".toList ++ ctx.imports.style.fileStem m.name) := by
  obtain ⟨hname, hfolder⟩ := name_folder_of_read h
  constructor
  · have hmodel : ctx.imports.isModel m.name = true := by
      rw [ImportPaths.isModel, Registry.contains, Registry.find?, Registry.lastNamed?,
        List.find?_isSome]
      exact ⟨source, List.mem_reverse.mpr hsource, by simp [hname]⟩
    have huser : m.userTypes = (mentionedTypes source.lines).filter ctx.imports.isModel := by
      cases hbody : m.body with
      | enumeration underlying members =>
        rw [isEnum, hbody] at hrecord
        cases hrecord
      | record properties =>
        rw [eq_readRecord_of_read h hbody]
        exact userTypes_readRecord ctx source
    rw [map_name_imports h, mem_firstUses, huser, List.mem_filter, and_iff_left hmodel]
  · intro hfound i hi hown
    have hpath := find?_of_mem_imports h hi
    rw [hown, ImportPaths.find?, hfound, Option.map_some, ← hfolder, Path.relative_self,
      ← hname] at hpath
    exact (Option.some.inj hpath).symm

/-- A class whose objects point to others of their kind. -/
def node : SourceFile where
  name := "Node".toList
  folder := "trees".toList
  path := Path.ofText "/src/trees/Node.cs".toList
  root := Path.ofText "/src".toList
  lines :=
    ["public class Node".toList, "public string Label;".toList, "public Node Parent;".toList,
     "public Dictionary<string, List<Node>> Children;".toList]

/-- The registry that holds nothing but `node`. -/
def nodeContext : ReadContext where
  imports := { registry := { entries := [node] }, anchor := "/src".toList }

theorem imports_itself_iff_node : ∃ m, read nodeContext node = .ok m
    ∧ node ∈ nodeContext.imports.registry.entries ∧ "Node".toList ∈ mentionedTypes node.lines
    ∧ ∃ i ∈ m.imports, i.name = m.name ∧ i.path = "./node".toList := by
  have hread : read nodeContext node = .ok (readRecord nodeContext node) := by decide +kernel
  have hmentioned : "Node".toList ∈ mentionedTypes node.lines := by decide +kernel
  have hsource : node ∈ nodeContext.imports.registry.entries := List.mem_singleton.mpr rfl
  obtain ⟨hiff, hpath⟩ := imports_itself_iff hread (by decide +kernel) hsource
  obtain ⟨i, hi, hown⟩ := List.mem_map.mp (hiff.mpr hmentioned)
  exact ⟨_, hread, hsource, hmentioned, i, hi, hown, hpath (by decide +kernel) i hi hown⟩

/-- A record may import the name that it declares. -/
theorem node_imports_itself : node ∈ nodeContext.imports.registry.entries
    ∧ ∃ m, read nodeContext node = .ok m ∧ m.isEnum = false
      ∧ ∃ i ∈ m.imports, i.name = m.name := by
  refine ⟨List.mem_singleton.mpr rfl, readRecord nodeContext node, by decide +kernel,
    by decide +kernel, by decide +kernel⟩

end Model

end Typings
