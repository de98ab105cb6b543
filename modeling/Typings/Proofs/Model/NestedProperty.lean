import Typings.Proofs.Model.Reader
import Typings.Proofs.Source.PropertyLine

/-!
# Properties of nested types

A property has a container as soon as its type has a dictionary in it. The container has the two
arguments of that dictionary if it is the outermost generic type. Around any other dictionary, the
outermost wrapper is taken for it: the container has the one argument of the wrapper, and nothing
stands in for a second one.
-/

namespace Typings.Model

open Source Text

/-! ## References -/

section Types

variable (ctx : ReadContext) (folder : Text) {t : NestedType} {w d : QualifiedName}
  {hw : isWrapper w.text = true} {hd : afterLast '.' d.text ∈ dictionaryNames}
  {argument key value : NestedType} {before after : { b : Text // IsGap b }}

/-- Nullable marks make no difference to a reference. -/
theorem readReference_unmarked (t : NestedType) :
    readReference ctx folder t.unmarked.token = readReference ctx folder t.token := by
  rw [readReference, readReference, t.cleanType_unmarked, t.isArray_unmarked]

theorem readContainer_of_dictionary (h : t.outermost = .dictionary d hd key value before after) :
    readContainer ctx folder t.token
      = ⟨readReference ctx folder key.token, readReference ctx folder value.token⟩ := by
  rw [readContainer, NestedType.typeArguments_of_dictionary h]
  dsimp only
  rw [readReference_unmarked, readReference_unmarked]

theorem readContainer_of_wrapped (h : t.outermost = .wrapped w hw argument) :
    readContainer ctx folder t.token
      = ⟨readReference ctx folder argument.token, readReference ctx folder []⟩ := by
  rw [readContainer, NestedType.typeArguments_of_wrapped h]
  dsimp only
  rw [readReference_unmarked]

theorem container_readTyped (t : NestedType) (name : Text) :
    (readTyped ctx folder t.token name).container
      = if t.hasDictionary then some (readContainer ctx folder t.token) else none := by
  rw [readTyped, t.isDictionary_token]
  cases t.hasDictionary <;> rfl

/-- With a dictionary in it, a type is never read as an array. -/
theorem isArray_readTyped (t : NestedType) (name : Text) :
    (readTyped ctx folder t.token name).isArray = (!t.hasDictionary && isArray t.token) := by
  rw [readTyped, t.isDictionary_token]
  cases t.hasDictionary with
  | true => rfl
  | false =>
    have hreference : (readReference ctx folder t.token).isArray = isArray t.token := by
      rw [readReference]
      split <;> rfl
    exact hreference

end Types

/-! ## Properties -/

/-- A line that declares a property of a nested type gives that property. -/
theorem lineProperties_of_declaresAs {ctx : ReadContext} {folder raw rest : Text} {t : NestedType}
    (hkind : (Line.classify raw).kind = .property)
    (hdeclares : DeclaresAs t.text rest (stripComment raw)) (hname : tokensOf rest ≠ []) :
    ∃ name, lineProperties ctx folder (Line.classify raw)
      = [readTyped ctx folder t.token name] := by
  have htokens := hdeclares.tokensOf_eq t.isDrawn_text t.notMem_modifiers
  obtain ⟨name, more, hrest⟩ := List.exists_cons_of_ne_nil hname
  rw [lineProperties, hkind, tokens_classify_of_property hkind, htokens, hrest]
  exact ⟨withoutSemicolon name, rfl⟩

/-- A line of a record that declares something of a nested type gives one property. It has a
container if a dictionary is anywhere in the type: the references to the two arguments of the
outermost generic type if that is the dictionary, and otherwise the reference to the argument of the
outermost wrapper with one to the empty text beside it. Under a collection as the outermost generic
type, the property is an array if there is no dictionary in it. -/
theorem read_nested_property {ctx : ReadContext} {source : SourceFile} {m : Model} {t : NestedType}
    {before after : List Text} {raw rest : Text} (hread : Model.read ctx source = .ok m)
    (hrecord : m.isEnum = false) (hlines : source.lines = before ++ raw :: after)
    (hkind : (Line.classify raw).kind = .property)
    (hdeclares : DeclaresAs t.text rest (stripComment raw)) (hname : tokensOf rest ≠ []) :
    ∃ p, m.properties
        = (before.map Line.classify).flatMap (lineProperties ctx source.folder)
          ++ p :: (after.map Line.classify).flatMap (lineProperties ctx source.folder)
      ∧ p.container.isSome = t.hasDictionary
      ∧ (∀ d hd key value b b', t.outermost = .dictionary d hd key value b b' →
        p.container = some ⟨readReference ctx source.folder key.token,
          readReference ctx source.folder value.token⟩)
      ∧ ∀ w hw argument, t.outermost = .wrapped w hw argument →
        (t.hasDictionary = true → p.container = some
          ⟨readReference ctx source.folder argument.token, readReference ctx source.folder []⟩)
        ∧ (afterLast '.' w.text ≠ nullable → p.isArray = !t.hasDictionary) := by
  obtain ⟨name, hline⟩ :=
    @lineProperties_of_declaresAs ctx source.folder raw rest t hkind hdeclares hname
  have hproperties : m.properties
      = (source.lines.map Line.classify).flatMap (lineProperties ctx source.folder) := by
    cases hbody : m.body with
    | enumeration underlying members =>
      rw [isEnum, hbody] at hrecord
      cases hrecord
    | record properties =>
      rw [eq_readRecord_of_read hread hbody]
      rfl
  refine ⟨readTyped ctx source.folder t.token name, ?_, ?_, ?_, ?_⟩
  · rw [hproperties, hlines, List.map_append, List.map_cons, List.flatMap_append,
      List.flatMap_cons, hline]
    rfl
  · rw [container_readTyped]
    cases t.hasDictionary <;> rfl
  · intro d hd key value b b' houtermost
    have hdictionary : t.hasDictionary = true := by
      rw [← t.hasDictionary_outermost, houtermost]
      rfl
    rw [container_readTyped, if_pos hdictionary, readContainer_of_dictionary ctx _ houtermost]
  · intro w hw argument houtermost
    refine ⟨fun hdictionary => ?_, fun hcollection => ?_⟩
    · rw [container_readTyped, if_pos hdictionary, readContainer_of_wrapped ctx _ houtermost]
    · rw [isArray_readTyped, NestedType.isArray_of_wrapped houtermost hcollection, Bool.and_true]

/-! ### Lists and dictionaries in each other -/

/-- A name in ASCII letters. -/
def asciiQualified (t : Text) (h : t ≠ [] ∧ t.all isNameChar = true) : QualifiedName :=
  ⟨t, h.1, List.all_eq_true.mp h.2⟩

def intType : NestedType := .name (asciiQualified "int".toList (by decide)) (by decide)

/-- Lists of a type. -/
def listOf (t : NestedType) : NestedType :=
  .wrapped (asciiQualified "List".toList (by decide)) (by decide) t

theorem isGap_blank : IsGap [' '] := by decide

/-- Dictionaries with text keys and a blank behind the comma. -/
def dictionaryTo (value : NestedType) : NestedType :=
  .dictionary (asciiQualified "Dictionary".toList (by decide)) (by decide)
    (.name (asciiQualified "string".toList (by decide)) (by decide)) value ⟨[], isGap_nil⟩
    ⟨[' '], isGap_blank⟩

def marks : Text :=
  "    public Dictionary<string, List<int?>>[]? Marks \x7b get; set; \x7d".toList

def pages : Text := "    public List<Dictionary<string, int>> Pages;".toList

def sizes : Text := "    public List<int>? Sizes; // by page".toList

/-- A record with lists and dictionaries in each other. -/
def shelf : SourceFile where
  name := "Shelf".toList
  folder := []
  path := Path.ofText "/src/Shelf.cs".toList
  root := Path.ofText "/src".toList
  lines := ["public class Shelf".toList, "\x7b".toList, marks, pages, sizes, "\x7d".toList]

/-- What `shelf` is read with. -/
def shelfContext : ReadContext where
  imports := { registry := ⟨[shelf]⟩, anchor := [], style := .default }

/-- A declaration with single blanks between its parts and no modifier but `public`. -/
theorem declaresAs_public {declared rest t : Text} (hrest : (trimStart rest).head? ≠ some ',')
    (ht : t = "    ".toList ++ ("public".toList ++ [' '] ++ (declared ++ [' '] ++ rest))) :
    DeclaresAs declared rest t := by
  have hpublic : Spaced ["public".toList] "public".toList := .one (by decide) (by decide)
  rw [ht]
  exact .intro (by decide) hpublic (by decide) (by decide) (by decide) (by decide) (by decide) hrest

theorem read_shelf : Model.read shelfContext shelf = .ok (readRecord shelfContext shelf) := by
  have hfind : shelf.lines.find? isDecisive = none := by decide
  rw [Model.read, hfind]

/-- Of the properties of `shelf`, the first has a container with the arguments of its dictionary,
the second one with the dictionary in its list, and the third is an array. -/
theorem read_nested_property_shelf :
    (∃ p ∈ (readRecord shelfContext shelf).properties, p.container
      = some ⟨readReference shelfContext [] "string".toList,
        readReference shelfContext [] "List<int?>".toList⟩)
    ∧ (∃ p ∈ (readRecord shelfContext shelf).properties, p.isArray = false ∧ p.container
      = some ⟨readReference shelfContext [] "Dictionary<string,int>".toList,
        readReference shelfContext [] []⟩)
    ∧ ∃ p ∈ (readRecord shelfContext shelf).properties, p.isArray = true ∧ p.container = none := by
  have hmarks : DeclaresAs (NestedType.optional (.array (dictionaryTo (listOf (.optional
      intType))))).text "Marks \x7b get; set; \x7d".toList (stripComment marks) :=
    declaresAs_public (by decide) (by decide)
  have hpages : DeclaresAs (listOf (dictionaryTo intType)).text "Pages;".toList
      (stripComment pages) := declaresAs_public (by decide) (by decide)
  have hsizes : DeclaresAs (NestedType.optional (listOf intType)).text "Sizes; ".toList
      (stripComment sizes) := declaresAs_public (by decide) (by decide)
  refine ⟨?_, ?_, ?_⟩
  · have hlines : shelf.lines = ["public class Shelf".toList, "\x7b".toList]
        ++ marks :: [pages, sizes, "\x7d".toList] := rfl
    obtain ⟨p, hp, -, hdictionary, -⟩ :=
      read_nested_property read_shelf rfl hlines (by decide) hmarks (by decide)
    exact ⟨p, by simp [hp], hdictionary _ _ _ _ _ _ rfl⟩
  · have hlines : shelf.lines = ["public class Shelf".toList, "\x7b".toList, marks]
        ++ pages :: [sizes, "\x7d".toList] := rfl
    obtain ⟨p, hp, -, -, hwrapped⟩ :=
      read_nested_property read_shelf rfl hlines (by decide) hpages (by decide)
    obtain ⟨hcontainer, harray⟩ := hwrapped _ _ _ rfl
    exact ⟨p, by simp [hp], harray (by decide), hcontainer rfl⟩
  · have hlines : shelf.lines = ["public class Shelf".toList, "\x7b".toList, marks, pages]
        ++ sizes :: ["\x7d".toList] := rfl
    obtain ⟨p, hp, hsome, -, hwrapped⟩ :=
      read_nested_property read_shelf rfl hlines (by decide) hsizes (by decide)
    obtain ⟨-, harray⟩ := hwrapped _ _ _ rfl
    have hnone : p.container.isSome = false := hsome
    exact ⟨p, by simp [hp], harray (by decide), by simpa using hnone⟩

/-- A list of dictionaries is read as a dictionary whose value has no type, and not as an array. -/
theorem list_of_dictionaries_not_array :
    DeclaresAs (listOf (dictionaryTo intType)).text "Pages;".toList (stripComment pages)
      ∧ (∃ w hw, (listOf (dictionaryTo intType)).outermost = .wrapped w hw (dictionaryTo intType)
        ∧ afterLast '.' w.text = "List".toList)
      ∧ Model.read shelfContext shelf = .ok (readRecord shelfContext shelf)
      ∧ ∃ p ∈ (readRecord shelfContext shelf).properties, p.name = "Pages".toList
        ∧ p.isArray = false
        ∧ p.container.map Container.value = some (readReference shelfContext [] []) := by
  have hpages : DeclaresAs (listOf (dictionaryTo intType)).text "Pages;".toList
      (stripComment pages) := declaresAs_public (by decide) (by decide)
  have hline : lineProperties shelfContext [] (Line.classify pages)
      = [readTyped shelfContext [] (listOf (dictionaryTo intType)).token "Pages".toList] := by
    rfl
  have hmem : readTyped shelfContext [] (listOf (dictionaryTo intType)).token "Pages".toList
      ∈ (readRecord shelfContext shelf).properties :=
    List.mem_flatMap.mpr ⟨Line.classify pages, List.mem_map_of_mem (by simp [shelf]),
      hline ▸ List.mem_singleton_self _⟩
  refine ⟨hpages, ⟨_, _, rfl, by decide⟩, read_shelf, _, hmem, rfl, rfl, ?_⟩
  have hdictionary : (listOf (dictionaryTo intType)).hasDictionary = true := rfl
  rw [container_readTyped, if_pos hdictionary, readContainer_of_wrapped _ _ rfl]
  rfl

end Typings.Model
