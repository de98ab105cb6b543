import Mathlib.Logic.Relation
import Typings.Proofs.Model.Enumeration
import Typings.Proofs.Model.ImportPath
import Typings.Proofs.Model.Reader
import Typings.Proofs.Source.Layout

/-!
# Reading and layout

Lines that declare nothing may be put in anywhere, and the layout of every line may be edited. What
is read declares the same as before, and what was unreadable stays so for the same reason.
-/

namespace Typings

open Model Source Text

/-! ## Edits of files -/

/-- An edit of the layout of a file: a line that declares nothing is put in somewhere, or the layout
of one line is edited. -/
inductive LayoutEdit : List Text → List Text → Prop
  | insert {raw : Text} (before after : List Text) : IsNoise raw →
      LayoutEdit (before ++ after) (before ++ raw :: after)
  | line {raw raw' : Text} (before after : List Text) : LineEdit raw raw' →
      LayoutEdit (before ++ raw :: after) (before ++ raw' :: after)

/-- Whether a source is another one after any number of edits of its layout. -/
def Relaid (source source' : SourceFile) : Prop :=
  ∃ lines, Relation.ReflTransGen LayoutEdit source.lines lines ∧ source' = { source with lines }

/-- The same context with another registry. -/
def ReadContext.over (ctx : ReadContext) (registry : Registry) : ReadContext :=
  { ctx with imports := { ctx.imports with registry } }

/-- An error without the line that it quotes. -/
def SourceError.withoutLine : SourceError → SourceError
  | inlineBrace file _ => inlineBrace file []
  | memberValue file _ literal => memberValue file [] literal

/-- A model without the underlying type of an enumeration, which is never written. -/
def Model.declared (m : Model) : Model :=
  match m.body with
  | .enumeration _ members => { m with body := .enumeration none members }
  | .record _ => m

/-- What is written for a model is what is written without its underlying type. -/
theorem Generator.generate_declared (g : Generator) (m : Model) :
    g.generate m.declared = g.generate m := by
  obtain ⟨name, folder, inherits, inheritsFrom, body⟩ := m
  cases body <;> rfl

/-! ## Lines that declare the same -/

section Lines

variable {ctx : ReadContext} {file folder : Text}

theorem lineProperties_of_silent {line : Line} (h : line.kind ∈ silentKinds) :
    lineProperties ctx folder line = [] := by
  obtain ⟨kind, text, tokens⟩ := line
  simp only [silentKinds, List.mem_cons, List.not_mem_nil, or_false] at h
  rcases h with rfl | rfl | rfl <;> rfl

theorem lineBase_of_silent {line : Line} (h : line.kind ∈ silentKinds) : lineBase line = none := by
  have hkind : line.kind ≠ .classHeader := ne_of_mem_of_not_mem h (by decide)
  rw [lineBase, if_neg hkind]

theorem isDecisive_of_silent {raw : Text} (h : (Line.classify raw).kind ∈ silentKinds) :
    isDecisive raw = false := by
  have hkinds : ∀ kind ∈ silentKinds,
      (kind == .malformedDeclaration || kind == .enumHeader) = false := by
    decide
  exact hkinds _ h

section SameWords

variable {raw raw' : Text} (h : words (stripComment raw) = words (stripComment raw'))

include h

theorem lineProperties_of_words :
    lineProperties ctx folder (Line.classify raw)
      = lineProperties ctx folder (Line.classify raw') := by
  obtain ⟨hkind, htokens⟩ := classify_of_words h
  rcases LineKind.eq_or_silent hkind with heq | ⟨hsilent, hsilent'⟩
  · rw [lineProperties.eq_def, lineProperties.eq_def, heq, htokens]
  · rw [lineProperties_of_silent hsilent, lineProperties_of_silent hsilent']

theorem lineBase_of_words : lineBase (Line.classify raw) = lineBase (Line.classify raw') := by
  obtain ⟨hkind, htokens⟩ := classify_of_words h
  rcases LineKind.eq_or_silent hkind with heq | ⟨hsilent, hsilent'⟩
  · rw [lineBase, lineBase, heq, htokens]
  · rw [lineBase_of_silent hsilent, lineBase_of_silent hsilent']

/-- A line is read as the same member, or refused with the same literal. -/
theorem readMember_of_words : (readMember file raw).mapError SourceError.withoutLine
    = (readMember file raw').mapError SourceError.withoutLine := by
  obtain ⟨hkind, htokens⟩ := classifyMember_of_words h
  rcases LineKind.eq_or_silent hkind with heq | ⟨hsilent, hsilent'⟩
  · rw [readMember, readMember, heq, htokens]
    split
    · rfl
    · split
      · rfl
      · split <;> rfl
  · have hnone : ∀ {raw : Text}, (Line.classifyMember raw).kind ∈ silentKinds →
        readMember file raw = .ok none := by
      intro raw hraw
      have hkind : (Line.classifyMember raw).kind ≠ .enumerator :=
        ne_of_mem_of_not_mem hraw (by decide)
      rw [readMember]
      simp [hkind]
    rw [hnone hsilent, hnone hsilent']

theorem isDecisive_of_words : isDecisive raw = isDecisive raw' := by
  rcases LineKind.eq_or_silent (classify_of_words h).1 with heq | ⟨hsilent, hsilent'⟩
  · rw [isDecisive, isDecisive, heq]
  · rw [isDecisive_of_silent hsilent, isDecisive_of_silent hsilent']

end SameWords

end Lines

/-! ## Files that declare the same -/

/-- Whether two files are read alike: the same kind of line decides how, and they have the same
bases, properties and members, or members refused for the same reason. -/
structure ReadAlike (lines lines' : List Text) : Prop where
  decisive : (lines.find? isDecisive).map (fun raw => (Line.classify raw).kind.withoutComment)
    = (lines'.find? isDecisive).map fun raw => (Line.classify raw).kind.withoutComment
  bases : (lines.map Line.classify).filterMap lineBase
    = (lines'.map Line.classify).filterMap lineBase
  properties : ∀ ctx folder, (lines.map Line.classify).flatMap (lineProperties ctx folder)
    = (lines'.map Line.classify).flatMap (lineProperties ctx folder)
  members : ∀ file, (readMembers file lines).mapError SourceError.withoutLine
    = (readMembers file lines').mapError SourceError.withoutLine

theorem ReadAlike.trans {l l' l'' : List Text} (h : ReadAlike l l') (h' : ReadAlike l' l'') :
    ReadAlike l l'' :=
  ⟨h.decisive.trans h'.decisive, h.bases.trans h'.bases,
    fun ctx folder => (h.properties ctx folder).trans (h'.properties ctx folder),
    fun file => (h.members file).trans (h'.members file)⟩

/-- But for the lines that errors quote, the members of a file are told by those of its first line
and those of the others. -/
theorem mapError_readMembers_cons (file raw : Text) (lines : List Text) :
    (readMembers file (raw :: lines)).mapError SourceError.withoutLine
      = match (readMember file raw).mapError SourceError.withoutLine with
        | .error e => .error e
        | .ok member =>
          match (readMembers file lines).mapError SourceError.withoutLine with
          | .error e => .error e
          | .ok members => .ok (member.toList ++ members) := by
  rw [readMembers]
  cases readMember file raw with
  | error e => rfl
  | ok member =>
    dsimp only [Except.mapError]
    cases readMembers file lines <;> rfl

/-- The layout of a line in the midst of a file does not matter. -/
theorem readAlike_line {raw raw' : Text} (h : words (stripComment raw) = words (stripComment raw'))
    (before after : List Text) : ReadAlike (before ++ raw :: after) (before ++ raw' :: after) := by
  refine ⟨?_, ?_, fun ctx folder => ?_, fun file => ?_⟩
  · rw [List.find?_append, List.find?_append, List.find?_cons, List.find?_cons,
      isDecisive_of_words h]
    cases before.find? isDecisive with
    | some header => rfl
    | none =>
      cases isDecisive raw' with
      | true => simp [(classify_of_words h).1]
      | false => rfl
  · simp only [List.map_append, List.map_cons, List.filterMap_append, List.filterMap_cons,
      lineBase_of_words h]
  · simp only [List.map_append, List.map_cons, List.flatMap_append, List.flatMap_cons,
      lineProperties_of_words h]
  · induction before with
    | nil =>
      rw [List.nil_append, List.nil_append, mapError_readMembers_cons, mapError_readMembers_cons,
        readMember_of_words h]
    | cons line before ih =>
      rw [List.cons_append, List.cons_append, mapError_readMembers_cons, mapError_readMembers_cons,
        ih]

/-- A line that declares nothing may stand anywhere in a file. -/
theorem readAlike_insert {raw : Text} (h : IsNoise raw) (before after : List Text) :
    ReadAlike (before ++ after) (before ++ raw :: after) := by
  have hsilent := kind_classify_of_noise h
  have hfiller : IsFiller raw := h.blank_or_directive.imp_right Or.inl
  refine ⟨?_, ?_, fun ctx folder => ?_, fun file => ?_⟩
  · rw [List.find?_append, List.find?_append,
      List.find?_cons_of_neg (by simp [hfiller.isDecisive_eq_false])]
  · simp only [List.map_append, List.map_cons, List.filterMap_append, List.filterMap_cons,
      lineBase_of_silent hsilent]
  · simp only [List.map_append, List.map_cons, List.flatMap_append, List.flatMap_cons,
      lineProperties_of_silent hsilent, List.nil_append]
  · rw [readMembers_insert hfiller.readMember_eq]

/-- One edit of the layout keeps how a file is read. -/
theorem LayoutEdit.readAlike {lines lines' : List Text} (h : LayoutEdit lines lines') :
    ReadAlike lines lines' := by
  cases h with
  | insert before after hraw => exact readAlike_insert hraw before after
  | line before after hline => exact readAlike_line hline.words_eq.symm before after

/-- So does any number of edits. -/
theorem readAlike_of_edits {lines lines' : List Text}
    (h : Relation.ReflTransGen LayoutEdit lines lines') : ReadAlike lines lines' := by
  induction h with
  | refl => exact ⟨rfl, rfl, fun _ _ => rfl, fun _ => rfl⟩
  | tail _ hedit ih => exact ih.trans hedit.readAlike

/-! ## Reading -/

/-- What is read, without what the layout leaves a trace in: the lines that errors quote and the
underlying type of an enumeration. -/
def outcome (r : Except SourceError Model) : Except SourceError Model :=
  (r.map Model.declared).mapError SourceError.withoutLine

/-- These traces apart, an enumeration is told by its name, its folder and its members. -/
theorem outcome_readEnumeration (source : SourceFile) (header : Line) :
    outcome (readEnumeration source header)
      = match (readMembers source.name source.lines).mapError SourceError.withoutLine with
        | .error e => .error e
        | .ok members => .ok
          { name := source.name
            folder := source.folder
            body := .enumeration none members } := by
  rw [readEnumeration]
  cases readMembers source.name source.lines <;> rfl

/-- Sources of one name and folder whose files are read alike come to the same. -/
theorem outcome_read {ctx : ReadContext} {source : SourceFile} {lines : List Text}
    (h : ReadAlike source.lines lines) :
    outcome (read ctx { source with lines }) = outcome (read ctx source) := by
  have hrecord : readRecord ctx { source with lines } = readRecord ctx source := by
    simp only [readRecord, h.bases, h.properties]
  have hdecisive := h.decisive
  rw [Model.read, Model.read]
  dsimp only
  cases hfind : source.lines.find? isDecisive with
  | none =>
    rw [hfind] at hdecisive
    rw [Option.map_eq_none_iff.mp hdecisive.symm, hrecord]
  | some raw =>
    rw [hfind] at hdecisive
    obtain ⟨raw', hfind', hkind⟩ := Option.map_eq_some_iff.mp hdecisive.symm
    rw [hfind']
    dsimp only
    -- only a header makes an enumeration, and the other decisive lines are refused alike
    have henum :
        (Line.classify raw').kind = .enumHeader ↔ (Line.classify raw).kind = .enumHeader := by
      rcases LineKind.eq_or_silent hkind with heq | ⟨hsilent, hsilent'⟩
      · rw [heq]
      · have hno : LineKind.enumHeader ∉ silentKinds := by decide
        exact iff_of_false (ne_of_mem_of_not_mem hsilent hno) (ne_of_mem_of_not_mem hsilent' hno)
    by_cases hheader : (Line.classify raw).kind = .enumHeader
    · rw [if_pos hheader, if_pos (henum.mpr hheader), outcome_readEnumeration,
        outcome_readEnumeration, h.members]
    · rw [if_neg hheader, if_neg fun h' => hheader (henum.mp h')]
      rfl

/-- Sources whose layout is edited answer to the same names from the same folders. -/
theorem find?_of_relaid {ctx : ReadContext} {registry : Registry}
    (h : List.Forall₂ Relaid ctx.imports.registry.entries registry.entries) :
    ∀ name folder, (ctx.over registry).imports.find? name folder
      = ctx.imports.find? name folder := by
  have hlookup : ∀ name, (registry.find? name).map (fun file => (file.name, file.folder))
      = (ctx.imports.registry.find? name).map fun file => (file.name, file.folder) := by
    intro name
    refine map_find?_of_forall₂ (List.forall₂_reverse_iff.mpr h) ?_ ?_
    · rintro source _ ⟨lines, -, rfl⟩
      rfl
    · rintro source _ ⟨lines, -, rfl⟩ -
      rfl
  exact ImportPaths.find?_congr _ rfl rfl hlookup

/-- Edits of the layout are invisible: a source that can be read can still be read, and whatever
writes declarations writes the same, and a source that is refused is still refused for the same
reason. All sources of the registry may be edited as well, the one that is read among them. -/
theorem read_relaid {ctx : ReadContext} {registry : Registry} {source source' : SourceFile}
    (hregistry : List.Forall₂ Relaid ctx.imports.registry.entries registry.entries)
    (h : Relaid source source') :
    (∀ m, Model.read ctx source = .ok m →
      ∃ m', Model.read (ctx.over registry) source' = .ok m'
        ∧ ∀ g : Generator, g.generate m' = g.generate m)
    ∧ ∀ e, Model.read ctx source = .error e →
      ∃ e', Model.read (ctx.over registry) source' = .error e'
        ∧ e'.withoutLine = e.withoutLine := by
  obtain ⟨lines, hedits, rfl⟩ := h
  have hcontext : Model.read (ctx.over registry) { source with lines }
      = Model.read ctx { source with lines } :=
    Model.read_congr (find?_of_relaid hregistry) rfl rfl rfl rfl
  have hsame := @outcome_read ctx source lines (readAlike_of_edits hedits)
  rw [hcontext]
  constructor
  · intro m hm
    rw [hm] at hsame
    cases hread : Model.read ctx { source with lines } with
    | error e =>
      rw [hread] at hsame
      cases hsame
    | ok m' =>
      rw [hread] at hsame
      have hdeclared : m'.declared = m.declared := Except.ok.inj hsame
      refine ⟨m', rfl, fun g => ?_⟩
      rw [← g.generate_declared m', hdeclared, g.generate_declared]
  · intro e he
    rw [he] at hsame
    cases hread : Model.read ctx { source with lines } with
    | error e' =>
      rw [hread] at hsame
      exact ⟨e', rfl, Except.error.inj hsame⟩
    | ok m' =>
      rw [hread] at hsame
      cases hsame

/-- An enumeration with nothing between its lines. -/
def tidy : SourceFile where
  name := "Level".toList
  folder := []
  path := Path.ofText "/src/Level.cs".toList
  root := Path.ofText "/src".toList
  lines :=
    ["public enum Level".toList, "\x7b".toList, "    Low = 1,".toList, "    High".toList,
     "\x7d".toList]

/-- The same enumeration with a directive, a comment and a tab. -/
def untidy : SourceFile :=
  { tidy with
    lines :=
      ["#region levels".toList, "public enum Level// by rank".toList, "\x7b".toList,
       "    Low =\t1,".toList, "    High".toList, "\x7d".toList] }

/-- The registry that holds nothing but `tidy`. -/
def tidyContext : ReadContext where
  imports := { registry := { entries := [tidy] }, anchor := "/src".toList }

theorem relaid_tidy : Relaid tidy untidy := by
  have hdirective : LayoutEdit tidy.lines ("#region levels".toList :: tidy.lines) :=
    .insert [] tidy.lines (@IsNoise.directive [] 'r' "egion levels".toList (by decide) (by decide))
  have hcomment : LayoutEdit ("#region levels".toList :: tidy.lines)
      ("#region levels".toList :: "public enum Level// by rank".toList :: tidy.lines.drop 1) :=
    .line ["#region levels".toList] (tidy.lines.drop 1) (.comment " by rank".toList (by decide))
  have htab : LayoutEdit
      ("#region levels".toList :: "public enum Level// by rank".toList :: tidy.lines.drop 1)
      untidy.lines :=
    .line (untidy.lines.take 3) (tidy.lines.drop 3)
      (@LineEdit.gap [' '] ['\t'] "    Low =".toList "1,".toList (by decide) (by decide)
        (by decide) (by decide))
  exact ⟨untidy.lines, .tail (.tail (.single hdirective) hcomment) htab, rfl⟩

theorem read_relaid_tidy : ∃ m m', Model.read tidyContext tidy = .ok m
    ∧ Model.read (tidyContext.over { entries := [untidy] }) untidy = .ok m'
    ∧ ∀ g : Generator, g.generate m' = g.generate m := by
  have hregistry : List.Forall₂ Relaid tidyContext.imports.registry.entries [untidy] :=
    .cons relaid_tidy .nil
  have hread : Model.read tidyContext tidy = .ok
      { name := "Level".toList
        folder := []
        body := .enumeration none
          [⟨"Low".toList, .stated (some 1)⟩, ⟨"High".toList, .automatic⟩] } := by
    decide +kernel
  have hsame := @read_relaid tidyContext { entries := [untidy] } tidy untidy hregistry relaid_tidy
  obtain ⟨m', hm', hgenerate⟩ := hsame.1 _ hread
  exact ⟨_, m', hread, hm', hgenerate⟩

end Typings
