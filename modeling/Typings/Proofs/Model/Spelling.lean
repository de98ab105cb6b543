import Typings.Proofs.Model.NestedProperty
import Typings.Proofs.Source.Layout

/-!
# Spellings of a declared type

An array suffix and a wrapper that is a collection say the same, and so do a nullable mark and the
wrapper that is none, except that only the mark is looked for where a property is taken to be
optional. One type may stand for another in the same line, whatever surrounds it there: the line and
the file are read alike.
-/

namespace Typings.Source

open Text

/-! ## Arrays of a type -/

namespace NestedType

/-- The ways to write arrays of a type. -/
inductive SpellsArray (t : NestedType) : NestedType → Prop
  | suffix : SpellsArray t (array t)
  | wrapper {w : QualifiedName} (hw : isWrapper w.text = true) :
      afterLast '.' w.text ≠ nullable → SpellsArray t (wrapped w hw t)

/-- All of them have the same bare name and are arrays, and a nullable mark is one of the type
inside. -/
theorem SpellsArray.shape {t s : NestedType} (h : SpellsArray t s) :
    cleanType s.token = cleanType t.token ∧ isArray s.token = true
      ∧ isOptional s.token = isOptional t.token := by
  cases h with
  | suffix => exact ⟨t.cleanType_array, t.isArray_array, t.isOptional_array⟩
  | wrapper hw hcollection =>
    exact ⟨t.cleanType_wrapped, isArray_of_wrapped rfl hcollection, t.isOptional_wrapped⟩

theorem SpellsArray.hasDictionary_eq {t s : NestedType} (h : SpellsArray t s) :
    s.hasDictionary = t.hasDictionary := by
  cases h <;> rfl

/-- Whether a type is more than a name. -/
def isLayered : NestedType → Bool
  | name .. => false
  | _ => true

/-- A type that is more than a name has a mark in it. -/
theorem not_nameChars_of_isLayered {t : NestedType} (h : t.isLayered = true) :
    ¬∀ c ∈ t.token, isNameChar c = true := by
  have hmarks : ['?', '[', '<'].any isNameChar = false := by decide
  obtain ⟨c, hc, hmem⟩ : ∃ c ∈ ['?', '[', '<'], c ∈ t.token := by
    cases t with
    | name => cases h
    | optional t => exact ⟨'?', by simp, by simp [token]⟩
    | array t => exact ⟨'[', by simp, by simp [token]⟩
    | wrapped w _ t => exact ⟨'<', by simp, by simp [token]⟩
    | dictionary d => exact ⟨'<', by simp, by simp [token]⟩
  exact fun hall => List.any_eq_false.mp hmarks c hc (hall c hmem)

end NestedType

/-! ## The place of a type -/

/-- A place for a declared type in a line of a source: behind modifiers and in front of a blank.
What is behind the blank names something, and does not start with a comma. -/
structure TypePlace where
  source : SourceFile
  above : List Text
  below : List Text
  before : Text
  behind : Text
  modifiers_before : words before ⊆ modifiers
  apart : ∀ c ∈ before.getLast?, isBlank c = true
  ended : ∀ c ∈ behind.head?, isBlank c = true
  named : tokensOf (stripComment behind) ≠ []
  separate : (trimStart (stripComment behind)).head? ≠ some ','

namespace TypePlace

variable (place : TypePlace) {t : NestedType}

/-- The line with a type in its place. -/
def line (t : NestedType) : Text := place.before ++ (t.text ++ place.behind)

/-- The source with a type in its place. -/
def fill (t : NestedType) : SourceFile :=
  { place.source with lines := place.above ++ place.line t :: place.below }

/-- The name that the line declares. -/
def name : Text := Model.withoutSemicolon ((tokensOf (stripComment place.behind)).headD [])

theorem slash_notMem_before : '/' ∉ place.before := by
  have hfree : ∀ w ∈ modifiers, '/' ∉ w := by decide
  rw [mem_iff_exists_words (by decide)]
  rintro ⟨w, hw, hmem⟩
  exact hfree w (place.modifiers_before hw) hmem

theorem notMem_text {t : NestedType} (hplain : t.hasDictionary = false) {c : Char}
    (hname : isNameChar c = false) (hmark : c ∉ ',' :: typeMarks) : c ∉ t.text := by
  rw [NestedType.text_eq_token hplain]
  intro hmem
  rcases NestedType.mem_token hmem with h | h
  · rw [hname] at h
    cases h
  · exact hmark h

theorem stripComment_line (hplain : t.hasDictionary = false) :
    stripComment (place.line t) = place.before ++ (t.text ++ stripComment place.behind) := by
  have hslash : '/' ∉ t.text := notMem_text hplain (by decide) (by decide)
  rw [line, stripComment_append_of_notMem place.slash_notMem_before,
    stripComment_append_of_notMem hslash]

/-- The type stands apart from the other words of the line. -/
theorem words_line (hplain : t.hasDictionary = false) :
    words (stripComment (place.line t))
      = words place.before ++ (words t.text ++ words (stripComment place.behind)) := by
  rw [place.stripComment_line hplain, words_append_of_getLast? place.apart]
  cases hbehind : place.behind with
  | nil => exact absurd (by rw [hbehind]; decide) place.named
  | cons c r =>
    have hc : isBlank c = true := place.ended c (by rw [hbehind]; rfl)
    have hslash : c ≠ '/' := by
      rintro rfl
      exact absurd hc (by decide)
    rw [stripComment_cons (Or.inl hslash), words_append_blank hc, words_cons_blank hc]

theorem tokensOf_line (hplain : t.hasDictionary = false) :
    tokensOf (stripComment (place.line t)) = t.token :: tokensOf (stripComment place.behind) :=
  tokensOf_of_words_eq t.isDrawn_text t.notMem_modifiers place.modifiers_before place.separate
    (place.words_line hplain)

/-- A type starts with a name, and a modifier with a letter. -/
theorem isDirective_line (hplain : t.hasDictionary = false) :
    isDirective (stripComment (place.line t)) = false := by
  have hmodifiers : ∀ w ∈ modifiers, w.head? ≠ some '#' := by decide
  have hhead : t.token.head? ≠ some '#' := by
    obtain ⟨c, r, htext, hc⟩ := t.exists_text_eq_cons
    rw [← NestedType.text_eq_token hplain, htext]
    rintro ⟨⟩
    exact absurd hc (by decide)
  rw [← Bool.not_eq_true, isDirective_iff, place.words_line hplain, NestedType.words_text hplain]
  rintro ⟨c, r, hfirst, -⟩
  cases hbefore : words place.before with
  | nil =>
    rw [hbefore] at hfirst
    exact hhead (by rw [(Option.some.inj hfirst : t.token = _)]; rfl)
  | cons w ws =>
    rw [hbefore] at hfirst
    have hw : w ∈ modifiers := place.modifiers_before (by rw [hbefore]; exact List.mem_cons_self)
    exact hmodifiers w hw (by rw [(Option.some.inj hfirst : w = _)]; rfl)

/-! ### One type for another -/

variable {s t : NestedType} (hs : s.hasDictionary = false) (ht : t.hasDictionary = false)

include hs ht

theorem contains_line {c : Char} (hname : isNameChar c = false) (hmark : c ∉ ',' :: typeMarks) :
    (stripComment (place.line s)).contains c = (stripComment (place.line t)).contains c := by
  have hs' := notMem_text hs hname hmark
  have ht' := notMem_text ht hname hmark
  rw [Bool.eq_iff_iff, List.contains_iff_mem, List.contains_iff_mem, place.stripComment_line hs,
    place.stripComment_line ht]
  simp [hs', ht']

variable (hs' : s.isLayered = true) (ht' : t.isLayered = true)

include hs' ht'

/-- A type with a mark in it is no keyword. -/
theorem hasWord_line {w : Text} (hw : ∀ c ∈ w, isNameChar c = true) (hne : w ≠ []) :
    hasWord w (stripComment (place.line s)) = hasWord w (stripComment (place.line t)) := by
  have hsolid := isSolid_of_nameChars hw
  have hiff : ∀ {t : NestedType}, t.hasDictionary = false → t.isLayered = true →
      (hasWord w (stripComment (place.line t)) = true
        ↔ w ∈ words place.before ∨ w ∈ words (stripComment place.behind)) := by
    intro t ht ht'
    have hother : w ≠ t.token := by
      rintro rfl
      exact NestedType.not_nameChars_of_isLayered ht' hw
    rw [hasWord_iff hsolid hne, place.words_line ht, NestedType.words_text ht]
    simp [hother]
  rw [Bool.eq_iff_iff, hiff hs hs', hiff ht ht']

/-- Types with marks make the same kind of line, as far as properties go. -/
theorem kind_line_eq_property_iff :
    (Line.classify (place.line s)).kind = .property
      ↔ (Line.classify (place.line t)).kind = .property := by
  have hword : ∀ w ∈ ["public".toList, "class".toList, "enum".toList, "new".toList],
      hasWord w (stripComment (place.line s)) = hasWord w (stripComment (place.line t)) := by
    have hkeywords : ∀ w ∈ ["public".toList, "class".toList, "enum".toList, "new".toList],
        w.all isNameChar = true ∧ w ≠ [] := by
      decide
    intro w hw
    obtain ⟨hname, hne⟩ := hkeywords w hw
    exact place.hasWord_line hs ht hs' ht' (List.all_eq_true.mp hname) hne
  rw [kind_classify_eq_property_iff, kind_classify_eq_property_iff, DeclaresProperty,
    DeclaresProperty, place.isDirective_line hs, place.isDirective_line ht, isConstructor,
    isConstructor, hword _ (by simp), hword _ (by simp), hword _ (by simp), hword _ (by simp),
    place.contains_line hs ht (by decide) (by decide),
    place.contains_line hs ht (by decide) (by decide)]

end TypePlace

end Typings.Source

namespace Typings.Model

open Source Text

/-! ## Respelled properties -/

section Types

variable (ctx : ReadContext) (folder name : Text) {s t : NestedType}

/-- Types with the same bare name give properties that differ in nothing but their shape. -/
theorem readTyped_respelled (hs : s.hasDictionary = false) (ht : t.hasDictionary = false)
    (hclean : cleanType s.token = cleanType t.token) : readTyped ctx folder s.token name
      = { readTyped ctx folder t.token name with
          isArray := isArray s.token
          isOptional := isOptional s.token } := by
  rw [readTyped, readTyped, s.isDictionary_token, t.isDictionary_token, hs, ht,
    if_neg Bool.false_ne_true, if_neg Bool.false_ne_true, readReference, readReference, hclean]
  cases ctx.imports.find? (cleanType t.token) folder <;> rfl

end Types

section Reading

variable {ctx : ReadContext} {m : Model} {place : TypePlace} {s t : NestedType}

theorem lineProperties_line (folder : Text) (ht : t.hasDictionary = false)
    (hkind : (Line.classify (place.line t)).kind = .property) :
    lineProperties ctx folder (Line.classify (place.line t))
      = [readTyped ctx folder t.token place.name] := by
  obtain ⟨name, more, hnamed⟩ := List.exists_cons_of_ne_nil place.named
  rw [lineProperties, hkind, tokens_classify_of_property hkind, place.tokensOf_line ht,
    TypePlace.name, hnamed]
  rfl

/-- A record that is read with one type in a place is the same record with another type there, but
for the property that the place declares. -/
theorem exists_read_fill (hs : (Line.classify (place.line s)).kind = .property)
    (hread : read ctx (place.fill s) = .ok m) (hrecord : m.isEnum = false) :
    ∃ earlier later, ∀ t : NestedType, t.hasDictionary = false →
      (Line.classify (place.line t)).kind = .property →
      read ctx (place.fill t) = .ok { m with
        body := .record
          (earlier ++ readTyped ctx place.source.folder t.token place.name :: later) } := by
  -- whatever the type, a property neither decides how the source is read nor gives a base type
  have hdecisive : ∀ {t : NestedType}, (Line.classify (place.line t)).kind = .property →
      isDecisive (place.line t) = false := by
    intro t ht
    rw [isDecisive, ht]
    rfl
  have hfind : ∀ {t : NestedType}, (Line.classify (place.line t)).kind = .property →
      (place.fill t).lines.find? isDecisive
        = (place.above.find? isDecisive).or (place.below.find? isDecisive) := by
    intro t ht
    rw [TypePlace.fill, List.find?_append, List.find?_cons_of_neg (by simp [hdecisive ht])]
  have hbase : ∀ {t : NestedType}, (Line.classify (place.line t)).kind = .property →
      ((place.fill t).lines.map Line.classify).filterMap lineBase
        = ((place.above ++ place.below).map Line.classify).filterMap lineBase := by
    intro t ht
    have hline : lineBase (Line.classify (place.line t)) = none := by
      rw [lineBase, ht]
      rfl
    simp only [TypePlace.fill, List.map_append, List.map_cons, List.filterMap_append,
      List.filterMap_cons, hline]
  obtain ⟨hnone, hm⟩ := find?_isDecisive_of_read hread hrecord
  rw [hfind hs] at hnone
  refine ⟨(place.above.map Line.classify).flatMap (lineProperties ctx place.source.folder),
    (place.below.map Line.classify).flatMap (lineProperties ctx place.source.folder), ?_⟩
  intro t ht hkind
  have hproperties := @lineProperties_line ctx place t place.source.folder ht hkind
  rw [read, hfind hkind, hnone, hm]
  simp only [readRecord, hbase hkind, hbase hs]
  simp only [TypePlace.fill, List.map_append, List.map_cons, List.flatMap_append,
    List.flatMap_cons, hproperties, List.singleton_append]

/-- In the place of a property, a type that is no dictionary may be spelled in many ways. An array
suffix and every wrapper that is a collection give the same model. A nullable mark and the wrapper
that is none give the same model but for one thing: with the mark the property is optional, and with
the wrapper it is if there is a mark in the type inside. -/
theorem read_respelled (ht : t.hasDictionary = false)
    (hkind : (Line.classify (place.line (.optional t))).kind = .property)
    (hread : read ctx (place.fill (.optional t)) = .ok m) (hrecord : m.isEnum = false) :
    ∃ earlier p later, m.body = .record (earlier ++ p :: later) ∧ p.isOptional = true
      ∧ (∀ w hw, afterLast '.' w.text = nullable → IsUnmarked w.text →
        read ctx (place.fill (.wrapped w hw t)) = .ok { m with
          body := .record (earlier ++ { p with isOptional := isOptional t.text } :: later) })
      ∧ ∀ s, t.SpellsArray s →
        read ctx (place.fill s) = .ok { m with
          body := .record (earlier
            ++ { p with isArray := true, isOptional := isOptional t.text } :: later) } := by
  obtain ⟨earlier, later, hfill⟩ := exists_read_fill hkind hread hrecord
  have hplain : (NestedType.optional t).hasDictionary = false := ht
  -- every other spelling makes a property of the line as well, and one that differs in shape only
  have hproperty : ∀ {s : NestedType}, s.hasDictionary = false → s.isLayered = true →
      (Line.classify (place.line s)).kind = .property := fun hs hs' =>
    (place.kind_line_eq_property_iff hs hplain hs' rfl).mpr hkind
  have hrespelled : ∀ {s : NestedType}, s.hasDictionary = false →
      cleanType s.token = cleanType t.token → isOptional s.token = isOptional t.token →
      readTyped ctx place.source.folder s.token place.name
        = { readTyped ctx place.source.folder (NestedType.optional t).token place.name with
            isArray := isArray s.token
            isOptional := isOptional t.text } := by
    intro s hs hclean hoptional
    rw [readTyped_respelled _ _ _ hs hplain (hclean.trans t.cleanType_optional.symm), hoptional,
      NestedType.text_eq_token ht]
  have hm := Except.ok.inj (hread.symm.trans (hfill _ hplain hkind))
  refine ⟨earlier, _, later, by rw [hm], ?_, ?_, ?_⟩
  · rw [readTyped, NestedType.isDictionary_token, hplain]
    exact t.isOptional_optional
  · intro w hw hnullable hunmarked
    have hplain' : (NestedType.wrapped w hw t).hasDictionary = false := ht
    have harray : (readTyped ctx place.source.folder (NestedType.optional t).token
        place.name).isArray = isArray (NestedType.wrapped w hw t).token := by
      rw [isArray_readTyped, hplain, t.isArray_optional, t.isArray_nullable hnullable hunmarked]
      rfl
    rw [hfill _ hplain' (hproperty hplain' rfl),
      hrespelled hplain' t.cleanType_wrapped t.isOptional_wrapped, ← harray]
  · intro s hs
    obtain ⟨hclean, harray, hoptional⟩ := hs.shape
    have hs' : s.hasDictionary = false := by rw [hs.hasDictionary_eq, ht]
    have hlayered : s.isLayered = true := by cases hs <;> rfl
    rw [hfill _ hs' (hproperty hs' hlayered), hrespelled hs' hclean hoptional, harray]

end Reading

/-! ### A reading -/

/-- The type inside the wrapper that is no collection. -/
def nullableOf (t : NestedType) : NestedType :=
  .wrapped (asciiQualified "Nullable".toList (by decide)) (by decide) t

/-- A record with one property, and the place of its type. -/
def sample : TypePlace where
  source := { name := "Sample".toList, folder := [], path := Path.ofText "/src/Sample.cs".toList,
              root := Path.ofText "/src".toList }
  above := ["public class Sample".toList, "\x7b".toList]
  below := ["\x7d".toList]
  before := "    public ".toList
  behind := " Reading \x7b get; set; \x7d // of the meter".toList
  modifiers_before := by decide
  apart := (Option.all_eq_true _ _).mp (by decide)
  ended := (Option.all_eq_true _ _).mp (by decide)
  named := by decide
  separate := by decide

/-- What `sample` is read with. -/
def sampleContext : ReadContext where
  imports := { registry := ⟨[sample.source]⟩, anchor := [], style := .default }

/-- The record of `sample` with a property of the given shape. -/
def sampleModel (isArray isOptional : Bool) : Model where
  name := "Sample".toList
  folder := []
  body := .record [{ name := "Reading".toList, type := "number".toList, isArray, isOptional }]

theorem read_sample :
    read sampleContext (sample.fill (.optional intType)) = .ok (sampleModel false true) := by
  decide +kernel

/-- Three spellings of an array in `sample` give one model, and `Nullable<int>` gives that of `int?`
with a property that is not optional. -/
theorem read_respelled_sample : ∃ m, read sampleContext (sample.fill (.array intType)) = .ok m
    ∧ read sampleContext (sample.fill (listOf intType)) = .ok m
    ∧ ∃ p ∈ (sampleModel false true).properties, ∃ m',
      read sampleContext (sample.fill (nullableOf intType)) = .ok m'
        ∧ { p with isOptional := false } ∈ m'.properties := by
  obtain ⟨earlier, p, later, hbody, -, hnullable, harray⟩ :=
    @read_respelled sampleContext _ sample intType rfl (by decide +kernel) read_sample rfl
  refine ⟨_, harray _ .suffix, harray _ (.wrapper _ (by decide)), p, ?_, _,
    hnullable _ _ (by decide) (by decide), ?_⟩
  · rw [properties, hbody]
    simp
  · simp [properties, intType, NestedType.text, asciiQualified, isOptional]

/-- `Nullable<int>` and `int?` in the same place are not read as the same property: only the second
one is optional. -/
theorem nullable_not_optional :
    sample.line (nullableOf intType)
        = "    public Nullable<int> Reading \x7b get; set; \x7d // of the meter".toList
      ∧ sample.line (.optional intType)
        = "    public int? Reading \x7b get; set; \x7d // of the meter".toList
      ∧ read sampleContext (sample.fill (nullableOf intType)) = .ok (sampleModel false false)
      ∧ read sampleContext (sample.fill (.optional intType)) = .ok (sampleModel false true)
      ∧ (sampleModel false false).properties ≠ (sampleModel false true).properties :=
  ⟨by decide, by decide, by decide +kernel, read_sample, by decide⟩

end Typings.Model
