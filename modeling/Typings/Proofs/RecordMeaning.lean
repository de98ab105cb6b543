import Typings.Proofs.Declaration
import Typings.Proofs.Model.Reader
import Typings.Proofs.Source.PropertyLine

/-!
# What records become in the target

A source without enumerations is read as a record. Each of its lines that declares a property in the
common form gives one field of the generated interface. The field has the name of the property in
camel case, and its type is translated along the syntax tree of the declared type.
-/

namespace Typings

open Source Text Model

/-! ## The target -/

/-- How a name is spelled in the target: as it is if it stands for a model, and otherwise as its
mapping says. -/
def ReadContext.spelling (ctx : ReadContext) (name : Text) : Text :=
  if ctx.imports.isModel name then name else ctx.types.target name

namespace Source

/-- How the target spells the type of an element: the name inside all layers, with one array suffix
if one of the layers is an array. -/
def ElementType.target (ctx : ReadContext) (t : ElementType) : Text :=
  ctx.spelling t.core.text ++ if t.isCollection then "[]".toList else []

/-- How the target spells a declared type. -/
def DeclaredType.target (ctx : ReadContext) : DeclaredType → Text
  | element t => t.target ctx
  | dictionary d =>
    "Partial<Record<".toList ++ d.key.target ctx ++ ", ".toList ++ d.value.target ctx ++ ">>".toList

/-- The line of an interface that a property becomes. -/
def SourceProperty.targetLine (ctx : ReadContext) (p : SourceProperty) : Text :=
  ["    ".toList, camelCase p.name, if '?' ∈ p.declared.text then ['?'] else [], ": ".toList,
    p.declared.target ctx, ";\n".toList].flatten

/-- The property that is read. -/
def SourceProperty.read (ctx : ReadContext) (folder : Text) (p : SourceProperty) : Property :=
  readTyped ctx folder p.declared.token p.name

end Source

/-- Lines that declare properties in the common form, among lines that declare none. -/
inductive RecordLines : List Text → List SourceProperty → Prop
  | nil : RecordLines [] []
  | other {raw : Text} {lines : List Text} {properties : List SourceProperty} :
      ¬DeclaresProperty raw → RecordLines lines properties → RecordLines (raw :: lines) properties
  | property {raw : Text} {p : SourceProperty} {lines : List Text}
      {properties : List SourceProperty} : DeclaresProperty raw → p.Written (stripComment raw) →
      RecordLines lines properties → RecordLines (raw :: lines) (p :: properties)

/-! ## Reading types -/

section Types

variable (ctx : ReadContext) (folder : Text)

/-- A type is read as its name, spelled in the target, with its array layer. -/
theorem text_readReference (t : ElementType) :
    (readReference ctx folder t.text).text = t.target ctx := by
  have hmodel :
      ctx.imports.isModel t.core.text = (ctx.imports.find? t.core.text folder).isSome := by
    rw [ImportPaths.find?, Option.isSome_map]
    rfl
  rw [readReference, t.cleanType_text, t.isArray_text, ElementType.target, ReadContext.spelling,
    hmodel]
  cases ctx.imports.find? t.core.text folder with
  | none => cases t.isCollection <;> simp [TypeReference.text, arrayText]
  | some path => cases t.isCollection <;> simp [TypeReference.text, arrayText]

theorem target_unmarked (t : ElementType) : t.unmarked.target ctx = t.target ctx := by
  rw [ElementType.target, ElementType.target, t.core_unmarked, t.isCollection_unmarked]

/-- The type of a property is the declared type, spelled in the target. -/
theorem text_readTyped (t : DeclaredType) (name : Text) :
    (readTyped ctx folder t.token name).text = t.target ctx := by
  cases t with
  | element t =>
    have hreference := text_readReference ctx folder t
    rw [DeclaredType.token, readTyped, if_neg (by simp [t.isDictionary_text])]
    exact hreference
  | dictionary d =>
    rw [DeclaredType.token, readTyped, if_pos d.isDictionary_token, Property.text, readContainer,
      d.typeArguments_token]
    dsimp only
    rw [text_readReference, text_readReference, target_unmarked, target_unmarked]
    rfl

theorem name_readTyped (declared name : Text) :
    (readTyped ctx folder declared name).name = name := by
  rw [readTyped]
  split <;> rfl

theorem isOptional_readTyped (declared name : Text) :
    (readTyped ctx folder declared name).isOptional = isOptional declared := by
  rw [readTyped]
  split <;> rfl

end Types

/-! ## Reading lines -/

section Lines

variable {ctx : ReadContext} {folder : Text}

/-- A line in the common form is read as the property that it declares. -/
theorem lineProperties_of_written {raw : Text} {p : SourceProperty} (h : DeclaresProperty raw)
    (hp : p.Written (stripComment raw))
    (henum : hasWord "enum".toList (stripComment raw) = false) :
    lineProperties ctx folder (Line.classify raw) = [p.read ctx folder] := by
  obtain ⟨semicolon, rest, hsemicolon, htokens⟩ := hp.exists_tokens
  have hname : withoutSemicolon (p.name ++ semicolon) = p.name := by
    rcases hsemicolon with rfl | rfl
    · have hlast : p.name.getLast? ≠ some ';' := fun hlast =>
        p.unmarked.2 (List.mem_of_getLast? hlast)
      rw [List.append_nil, withoutSemicolon, if_neg hlast]
    · rw [withoutSemicolon, if_pos List.getLast?_concat, List.dropLast_concat]
  rw [classify_of_declaresProperty h henum, lineProperties]
  dsimp only
  rw [htokens, readProperty, hname]
  rfl

/-- Any other line gives no property that is rendered. -/
theorem isPlaceholder_of_mem_lineProperties {raw : Text} (h : ¬DeclaresProperty raw) {p : Property}
    (hp : p ∈ lineProperties ctx folder (Line.classify raw)) : p.isPlaceholder = true := by
  have hkind := kind_classify_ne_property h
  rw [lineProperties] at hp
  split at hp
  · obtain ⟨base, -, rfl⟩ := List.mem_map.mp hp
    rfl
  · next hproperty => exact absurd hproperty hkind
  · cases hp

/-- The properties of a record that are rendered are those of its lines in the common form. -/
theorem RecordLines.filter_lineProperties {lines : List Text} {properties : List SourceProperty}
    (h : RecordLines lines properties)
    (henum : ∀ raw ∈ lines, hasWord "enum".toList (stripComment raw) = false) :
    ((lines.map Line.classify).flatMap (lineProperties ctx folder)).filter
      (fun p => !p.isPlaceholder) = properties.map (SourceProperty.read ctx folder) := by
  induction h with
  | nil => rfl
  | @other raw lines properties hraw _ ih =>
    have ih := ih fun raw' hmem => henum raw' (List.mem_cons_of_mem _ hmem)
    have hnone : (lineProperties ctx folder (Line.classify raw)).filter
        (fun p => !p.isPlaceholder) = [] := by
      rw [List.filter_eq_nil_iff]
      intro p hp
      simp [isPlaceholder_of_mem_lineProperties hraw hp]
    rw [List.map_cons, List.flatMap_cons, List.filter_append, hnone, ih, List.nil_append]
  | @property raw p lines properties hraw hp _ ih =>
    have ih := ih fun raw' hmem => henum raw' (List.mem_cons_of_mem _ hmem)
    have hkept : (!(p.read ctx folder).isPlaceholder) = true := by
      rw [Property.isPlaceholder, SourceProperty.read, name_readTyped]
      simp [p.ne_nil]
    rw [List.map_cons, List.flatMap_cons,
      lineProperties_of_written hraw hp (henum raw List.mem_cons_self), List.singleton_append,
      List.filter_cons, if_pos hkept, ih, List.map_cons]

/-- A source without enumerations that is read is read as a record. -/
theorem eq_readRecord_of_no_enum {source : SourceFile} {m : Model}
    (h : Model.read ctx source = .ok m)
    (henum : ∀ raw ∈ source.lines, hasWord "enum".toList (stripComment raw) = false) :
    m = readRecord ctx source := by
  rcases read_cases h with ⟨-, hm⟩ | ⟨raw, members, hsome, hkind, -, -⟩
  · exact hm
  · have hword := (kind_classify_eq_enumHeader_iff.mp hkind).2.1
    rw [henum raw (List.mem_of_find?_eq_some hsome)] at hword
    cases hword

end Lines

/-! ## The meaning of a source -/

/-- The line that is generated for a property that is read. -/
theorem fieldLine_read (ctx : ReadContext) (folder : Text) (p : SourceProperty) :
    Declaration.fieldLine (p.read ctx folder) = p.targetLine ctx := by
  have hname : (p.read ctx folder).name = p.name := name_readTyped ..
  have htype : (p.read ctx folder).text = p.declared.target ctx := text_readTyped ..
  have hoptional : (if (p.read ctx folder).isOptional then ['?'] else [])
      = if '?' ∈ p.declared.text then ['?'] else [] := by
    rw [SourceProperty.read, isOptional_readTyped]
    exact if_congr p.declared.isOptional_token rfl rfl
  show ["    ".toList, camelCase (p.read ctx folder).name,
    if (p.read ctx folder).isOptional then ['?'] else [], ": ".toList, (p.read ctx folder).text,
    ";\n".toList].flatten = _
  rw [hname, hoptional, htype]
  rfl

/-- The interface that is generated for a source without enumerations has one field for each line
that declares a property, in their order: the name in camel case, a question mark if there is one in
the declared type, and that type as the target spells it. -/
theorem record_meaning {ctx : ReadContext} {source : SourceFile} {m : Model}
    {properties : List SourceProperty} (hread : Model.read ctx source = .ok m)
    (henum : ∀ raw ∈ source.lines, hasWord "enum".toList (stripComment raw) = false)
    (hlines : RecordLines source.lines properties) {g : Generator}
    (hengine : g.engine = Declaration.engine) :
    g.generate m = .ok (Declaration.head g.tagged m ++ "export interface ".toList ++ source.name
      ++ Declaration.extendsText m ++ " \x7b\n".toList
      ++ properties.flatMap (SourceProperty.targetLine ctx) ++ "\x7d\n".toList) := by
  have hrecord := eq_readRecord_of_no_enum hread henum
  have hbody : m.isEnum = false := by rw [hrecord]; rfl
  have hname : m.name = source.name := by rw [hrecord]; rfl
  have hfields : m.fields.flatMap Declaration.fieldLine
      = properties.flatMap (SourceProperty.targetLine ctx) := by
    have hread : m.fields = properties.map (SourceProperty.read ctx source.folder) := by
      rw [hrecord]
      exact hlines.filter_lineProperties henum
    rw [hread, List.flatMap_map]
    simp only [fieldLine_read]
  rw [Generator.generate_eq hengine, Declaration.text, Declaration.keyword, Declaration.body, hbody,
    hname, hfields]
  simp only [Bool.false_eq_true, if_false, List.flatten_cons, List.flatten_nil, List.append_nil,
    List.append_assoc]

/-! ### A source and its interface -/

/-- A record with properties of all kinds of types among other lines. -/
def order : SourceFile where
  name := "Order".toList
  folder := []
  path := Path.ofText "/src/Order.cs".toList
  root := Path.ofText "/src".toList
  lines :=
    ["public class Order : Entity".toList, "\x7b".toList, "    public Order() \x7b \x7d".toList,
     "    public int Number \x7b get; set; \x7d".toList,
     "    public readonly System.Nullable<Guid> Key;".toList,
     "    public HashSet<string>? Tags // free text".toList,
     "    public IDictionary<string , Line[]> Lines;".toList, "\x7d".toList]

/-- What `order` is read with: one model is known besides it. -/
def orderContext : ReadContext where
  imports :=
    { registry := ⟨[{ order with name := "Line".toList, lines := [] }]⟩, anchor := [],
      style := .default }

/-- A name of a type in ASCII letters. -/
def asciiName (t : Text) (h : t ≠ [] ∧ t.all isNameChar = true ∧ IsUnmarked t ∧ t ∉ modifiers) :
    TypeName :=
  ⟨t, h.1, List.all_eq_true.mp h.2.1, h.2.2.1, h.2.2.2⟩

/-- A property in ASCII letters. -/
def asciiProperty (declared : DeclaredType) (t : Text)
    (h : t ≠ [] ∧ IsSolid t ∧ (',' ∉ t ∧ ';' ∉ t) ∧ t ∉ modifiers) : SourceProperty :=
  ⟨declared, t, h.1, h.2.1, h.2.2.1, h.2.2.2⟩

/-- The properties of `order`. -/
def orderProperties : List SourceProperty :=
  let nullableOf : Wrapper := ⟨some "System".toList, nullable, by decide, fun q hq => by
    cases hq; exact List.all_eq_true.mp (by decide), by decide⟩
  let hashSetOf : Wrapper := ⟨none, "HashSet".toList, by decide, by simp, by decide⟩
  let string := ElementType.name (asciiName "string".toList (by decide))
  [asciiProperty (.element (.name (asciiName "int".toList (by decide)))) "Number".toList (by decide),
   asciiProperty (.element (.wrapped nullableOf (.name (asciiName "Guid".toList (by decide)))))
    "Key".toList (by decide),
   asciiProperty (.element (.optional (.wrapped hashSetOf string))) "Tags".toList (by decide),
   asciiProperty (.dictionary (.plain ⟨"IDictionary".toList, by decide⟩ string
      (.array (.name (asciiName "Line".toList (by decide)))) ⟨[' '], by decide⟩ ⟨[' '], by decide⟩))
    "Lines".toList (by decide)]

theorem recordLines_order : RecordLines order.lines orderProperties := by
  have hpublic : Spaced ["public".toList] "public".toList := .one (by decide) (by decide)
  have hreadonly : Spaced ["public".toList, "readonly".toList] "public readonly".toList :=
    .cons (b := [' ']) (by decide) (by decide) (by decide) (by decide)
      (.one (by decide) (by decide))
  refine .other (by decide) (.other (by decide) (.other (by decide) (.property (by decide) ?_
    (.property (by decide) ?_ (.property (by decide) ?_ (.property (by decide) ?_
      (.other (by decide) .nil)))))))
  · exact ⟨"    ".toList, [], _, [' '], [' '], " \x7b get; set; \x7d".toList, by decide, hpublic,
      by simp, by decide, by decide, by decide, by decide, .blank (by decide) (by decide), rfl⟩
  · exact ⟨"    ".toList, ["readonly".toList], _, [' '], [' '], [';'], by decide, hreadonly,
      by simp [modifiers], by decide, by decide, by decide, by decide, .semicolon, rfl⟩
  · exact ⟨"    ".toList, [], _, [' '], [' '], [' '], by decide, hpublic,
      by simp, by decide, by decide, by decide, by decide, .blank (by decide) (by decide), rfl⟩
  · exact ⟨"    ".toList, [], _, [' '], [' '], [';'], by decide, hpublic,
      by simp, by decide, by decide, by decide, by decide, .semicolon, rfl⟩

/-- The interface of `order`. -/
theorem record_meaning_order : ∃ m, Model.read orderContext order = .ok m
    ∧ ({} : Generator).generate m = .ok (Declaration.head true m ++ "export interface ".toList
      ++ "Order".toList ++ Declaration.extendsText m ++ " \x7b\n".toList
      ++ ("    number: number;\n    key: string;\n    tags?: string[];\n".toList
        ++ "    lines: Partial<Record<string, Line[]>>;\n".toList)
      ++ "\x7d\n".toList) := by
  have hread : Model.read orderContext order = .ok (readRecord orderContext order) := by
    have hfind : order.lines.find? isDecisive = none := by decide
    rw [Model.read, hfind]
  have hfields : orderProperties.flatMap (SourceProperty.targetLine orderContext)
      = "    number: number;\n    key: string;\n    tags?: string[];\n".toList
        ++ "    lines: Partial<Record<string, Line[]>>;\n".toList := by
    decide
  rw [← hfields]
  exact ⟨_, hread, record_meaning hread (by decide) recordLines_order rfl⟩

end Typings
