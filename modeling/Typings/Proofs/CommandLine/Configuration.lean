import Typings.CommandLine.Basic
import Typings.Proofs.Json.RoundTrip
import Typings.Proofs.Settings.Loading
import Typings.Proofs.Text.Encoding
import Typings.Proofs.Text.Lines

/-!
# Settings under the command line

What the arguments say lies above what the settings file says, and that above the defaults, for each
setting on its own. Whether there are settings at all is decided by what is left for the two styles:
a style that the arguments override may be spelled wrongly in the file.
-/

namespace Typings.CommandLine

open Settings Text

variable {a b : Arguments} {files : FileTree} {here : Path} {s : Settings} {e : StorageError}

namespace Arguments

/-! ## What the arguments override -/

/-- The value that the arguments give for a setting. -/
def value? (a : Arguments) : Key → Option Json
  | .workingDirectory => (Model.given a.workingDirectory).map .text
  | .workingDirectories =>
    if a.directories = [] then none else some (.text (joinWith [';'] a.directories))
  | .sourceExtension => (Model.given a.sourceExtension).map .text
  | .convertDirectory => (Model.given a.output).map .text
  | .autoGeneratedTag => if a.noHeader then some (.bool false) else none
  | .enumValues => (Model.given a.enumValues).map .text
  | .pathStyle => (Model.given a.pathStyle).map .text

theorem lookup_override? (key other : Key) (value : Option Text) :
    (override? key value).lookup other.raw
      = if other = key then (Model.given value).map .text else none := by
  rw [override?]
  cases Model.given value with
  | none => simp
  | some t => rw [Option.toList_some, List.map_singleton, lookup_raw_cons, Option.map_some,
      List.lookup_nil]

theorem lookup_overrides (a : Arguments) (key : Key) :
    a.overrides.lookup key.raw = a.value? key := by
  have hlisted : (if a.directories.isEmpty then ([] : Layer)
      else [(Key.workingDirectories.raw, .text (joinWith [';'] a.directories))]).lookup key.raw
      = if key = .workingDirectories then a.value? .workingDirectories else none := by
    by_cases hnone : a.directories = []
    · simp [hnone, value?]
    · rw [if_neg (by simpa using hnone), lookup_raw_cons, value?, if_neg hnone, List.lookup_nil]
  have htagged : (if a.noHeader then [(Key.autoGeneratedTag.raw, Json.bool false)]
      else ([] : Layer)).lookup key.raw
      = if key = .autoGeneratedTag then a.value? .autoGeneratedTag else none := by
    by_cases htag : a.noHeader = true
    · rw [if_pos htag, lookup_raw_cons, value?, if_pos htag, List.lookup_nil]
    · simp [htag, value?]
  simp only [overrides, List.lookup_append, lookup_override?, hlisted, htagged]
  cases key <;> simp [value?]

/-- Every override is a text or false, under the key of a setting. -/
theorem mem_overrides {m : RawText × Json} (h : m ∈ a.overrides) :
    (∃ key : Key, m.1 = key.raw) ∧ ((∃ t, m.2 = .text t) ∨ m.2 = .bool false) := by
  have hoption {key : Key} {value : Option Text} (hm : m ∈ override? key value) :
      (∃ key : Key, m.1 = key.raw) ∧ ((∃ t, m.2 = .text t) ∨ m.2 = .bool false) := by
    obtain ⟨t, -, rfl⟩ := List.mem_map.mp hm
    exact ⟨⟨key, rfl⟩, Or.inl ⟨t, rfl⟩⟩
  simp only [overrides, List.mem_append] at h
  rcases h with (((((h | h) | h) | h) | h) | h) | h
  · exact hoption h
  · split_ifs at h
    · simp at h
    · obtain rfl := List.mem_singleton.mp h
      exact ⟨⟨.workingDirectories, rfl⟩, Or.inl ⟨_, rfl⟩⟩
  · exact hoption h
  · exact hoption h
  · split_ifs at h
    · obtain rfl := List.mem_singleton.mp h
      exact ⟨⟨.autoGeneratedTag, rfl⟩, Or.inr rfl⟩
    · simp at h
  · exact hoption h
  · exact hoption h

theorem given_overrides (a : Arguments) : a.overrides.given = a.overrides := by
  rw [Layer.given, List.filter_eq_self]
  intro m hm
  obtain ⟨raw, v⟩ := m
  rcases (mem_overrides hm).2 with ⟨t, rfl⟩ | rfl <;> rfl

theorem isKnown_overrides (a : Arguments) : a.overrides.IsKnown :=
  fun _ hm => (mem_overrides hm).1

/-! ## The settings -/

/-- The value that is left for a setting: that of the arguments, else that of the layer of the
settings file, even if it is null, else the default. -/
def merged (a : Arguments) (layer : Layer) (key : Key) : Json :=
  ((a.value? key).or (layer.lookup key.raw)).getD (({} : Settings).value key)

/-- What settings the arguments ask for. -/
theorem settings_eq_ok_iff : a.settings files here = .ok s
    ↔ ∃ layer, FileLayer files here a.config layer ∧ layer.IsKnown
      ∧ ∀ key, s.Holds key (a.merged layer key) := by
  have hmerged (layer : Layer) (key : Key) :
      layered [a.overrides.given, layer] key = a.merged layer key := by
    rw [layered_pair, given_overrides, lookup_overrides, merged]
  have hknown : a.overrides.given.IsKnown := by
    rw [given_overrides]
    exact a.isKnown_overrides
  simp only [settings, load_eq_ok_iff, hmerged, hknown, true_and]

/-- Settings that hold given values exist if the two styles are spelled. -/
theorem exists_holds_iff {value : Key → Json} : (∃ s : Settings, ∀ key, s.Holds key (value key))
    ↔ (∃ mode, Spells enumSpellings .numeric (value .enumValues) mode)
      ∧ ∃ style, Spells pathSpellings .default (value .pathStyle) style := by
  constructor
  · rintro ⟨s, hs⟩
    exact ⟨⟨_, hs .enumValues⟩, _, hs .pathStyle⟩
  · rintro ⟨⟨mode, hmode⟩, style, hstyle⟩
    refine ⟨⟨value .workingDirectory, value .workingDirectories, value .sourceExtension,
      value .convertDirectory, value .autoGeneratedTag, mode, style⟩, fun key => ?_⟩
    cases key
    case enumValues => exact hmode
    case pathStyle => exact hstyle
    all_goals rfl

theorem isReported_iff : isReported e = true ↔ e.IsOfSettings := by
  cases e <;> simp [isReported, StorageError.IsOfSettings]

/-- An error of the settings is reported unless it is one of the failures to read the file. -/
theorem isReported_eq_false_iff (h : a.settings files here = .error e) : isReported e = false
    ↔ ∃ name, Model.given a.config = some name ∧ Unread files here (Path.ofText name) e := by
  rw [← Bool.not_eq_true, isReported_iff]
  constructor
  · intro hsilent
    exact (load_error h).resolve_left hsilent
  · rintro ⟨name, -, hunread⟩
    exact hunread.not_isOfSettings

/-! ## Styles as options -/

/-- Whether the styles that arguments give are among the choices for them. -/
structure Admitted (a : Arguments) : Prop where
  enumValues : admits .enumValues a.enumValues = true
  pathStyle : admits .pathStyle a.pathStyle = true

theorem Admitted.set {opt : Opt} {value : Option Text} (h : a.Admitted)
    (hset : a.set opt value = .ok b) : b.Admitted := by
  rw [Arguments.set.eq_def] at hset
  split_ifs at hset with hadmits
  cases opt
  case pos.enumValues =>
    cases hset
    exact ⟨hadmits, h.pathStyle⟩
  case pos.pathStyle =>
    cases hset
    exact ⟨h.enumValues, hadmits⟩
  all_goals cases hset <;> exact ⟨h.enumValues, h.pathStyle⟩

theorem Admitted.raise {opt : Opt} (h : a.Admitted) (hraise : a.raise opt = .ok b) :
    b.Admitted := by
  cases opt <;> cases hraise <;> exact ⟨h.enumValues, h.pathStyle⟩

theorem Admitted.applyAll {next : Option (Text × Role)} {options : List (Opt × Option Text)}
    {usedNext : Bool} (h : a.Admitted) (happly : a.applyAll next options = .ok (b, usedNext)) :
    b.Admitted := by
  fun_induction Arguments.applyAll a next options with
  | case1 =>
    cases happly
    exact h
  | case2 => cases happly
  | case3 a opt value rest c hset ih => exact ih (h.set hset) happly
  | case4 a opt rest htakes value =>
    cases hset : a.set opt (some value) with
    | error stop => simp [hset, Except.map] at happly
    | ok c =>
      obtain ⟨rfl, -⟩ : c = b ∧ true = usedNext := by simpa [hset, Except.map] using happly
      exact h.set hset
  | case5 => cases happly
  | case6 => cases happly
  | case7 a opt rest htakes c hraise ih => exact ih (h.raise hraise) happly

theorem Admitted.takeRun {p : Progress} {run : List Text} (h : p.arguments.Admitted) :
    (p.takeRun run).arguments.Admitted := by
  rw [Progress.takeRun]
  split_ifs
  · exact h
  · exact ⟨h.enumValues, h.pathStyle⟩

theorem Admitted.work {fuel : Nat} {p q : Progress} {args : List (Text × Role)}
    (h : p.arguments.Admitted) (hwork : work fuel p args = .ok q) : q.arguments.Admitted := by
  fun_induction CommandLine.work fuel p args with
  | case1 =>
    cases hwork
    exact h
  | case2 =>
    cases hwork
    exact h
  | case3 _ _ _ _ _ ih => exact ih h.takeRun hwork
  | case4 _ _ _ _ _ ih => exact ih h.takeRun hwork
  | case5 _ _ _ _ ih => exact ih h hwork
  | case6 => cases hwork
  | case7 => cases hwork
  | case8 => cases hwork
  | case9 _ _ _ _ _ _ _ _ _ _ _ _ happly ih => exact ih (h.applyAll happly) hwork

/-- Arguments that were understood give no other styles than there are to choose from. -/
theorem admitted_of_read {args : List Text} (h : read args = .ok a) : a.Admitted := by
  rw [read] at h
  split at h
  · cases h
  · split at h
    · cases h
    · next p hwork =>
      split_ifs at h
      cases h
      have hstart : Admitted {} := ⟨rfl, rfl⟩
      exact hstart.work hwork

theorem given_eq_some_iff {t : Option Text} {u : Text} :
    Model.given t = some u ↔ t = some u ∧ u ≠ [] := by
  simp [Model.given]

/-- Such styles are always spelled correctly. -/
theorem Admitted.spells (h : a.Admitted) {v : Json} :
    (a.value? .enumValues = some v → ∃ mode, Spells enumSpellings .numeric v mode)
    ∧ (a.value? .pathStyle = some v → ∃ style, Spells pathSpellings .default v style) := by
  constructor
  · intro hv
    obtain ⟨t, ht, rfl⟩ := Option.map_eq_some_iff.mp hv
    have hchoice := h.enumValues
    rw [(given_eq_some_iff.mp ht).1] at hchoice
    have hmem : t ∈ ["numeric".toList, "string".toList] := List.contains_iff_mem.mp hchoice
    simp only [List.mem_cons, List.not_mem_nil, or_false] at hmem
    rcases hmem with rfl | rfl
    · exact ⟨.numeric, .spelled (by decide)⟩
    · exact ⟨.string, .spelled (by decide)⟩
  · intro hv
    obtain ⟨t, ht, rfl⟩ := Option.map_eq_some_iff.mp hv
    have hchoice := h.pathStyle
    rw [(given_eq_some_iff.mp ht).1] at hchoice
    have hmem : t ∈ ["default".toList, "kebab".toList, "kebab-case".toList] :=
      List.contains_iff_mem.mp hchoice
    simp only [List.mem_cons, List.not_mem_nil, or_false] at hmem
    rcases hmem with rfl | rfl | rfl
    · exact ⟨.default, .spelled (by decide)⟩
    · exact ⟨.kebab, .spelled (by decide)⟩
    · exact ⟨.kebab, .spelled (by decide)⟩

/-- What settings the arguments ask for, and when there are any: the settings file, if one is named,
has to hold an object of known keys, and what is left for the styles has to spell them. A style that
the arguments give always does. Every error is reported, but for the failures to read the file. -/
theorem settings_layered {args : List Text} (hread : read args = .ok a) :
    (∀ s, a.settings files here = .ok s ↔ ∃ layer, FileLayer files here a.config layer
        ∧ layer.IsKnown ∧ ∀ key, s.Holds key (a.merged layer key))
    ∧ ((∃ s, a.settings files here = .ok s) ↔ ∃ layer, FileLayer files here a.config layer
        ∧ layer.IsKnown
        ∧ (∃ mode, Spells enumSpellings .numeric (a.merged layer .enumValues) mode)
        ∧ ∃ style, Spells pathSpellings .default (a.merged layer .pathStyle) style)
    ∧ (∀ v, (a.value? .enumValues = some v → ∃ mode, Spells enumSpellings .numeric v mode)
        ∧ (a.value? .pathStyle = some v → ∃ style, Spells pathSpellings .default v style))
    ∧ ∀ e, a.settings files here = .error e → (isReported e = false
        ↔ ∃ name, Model.given a.config = some name ∧ Unread files here (Path.ofText name) e) := by
  refine ⟨fun s => settings_eq_ok_iff, ?_, fun v => (admitted_of_read hread).spells,
    fun e => isReported_eq_false_iff⟩
  simp only [settings_eq_ok_iff, ← exists_holds_iff]
  constructor
  · rintro ⟨s, layer, hfile, hknown, hs⟩
    exact ⟨layer, hfile, hknown, s, hs⟩
  · rintro ⟨layer, hfile, hknown, s, hs⟩
    exact ⟨s, layer, hfile, hknown, hs⟩

/-- Arguments that override a style. -/
def overriding : Arguments where
  roots := ["A".toList]
  enumValues := some "string".toList
  config := some "c.json".toList

/-- The object of a settings file that spells no style. -/
def misspelled : Layer := [(Key.enumValues.raw, .text "no".toList), (Key.pathStyle.raw, .null)]

theorem read_misspelled :
    Json.read (Json.write (.object misspelled)) = .ok (.object misspelled)
      ∧ '\r' ∉ Json.write (.object misspelled) := by
  have hreads : Json.ReadsBack Json.maxDepth 0 (.object misspelled) := by
    refine Json.readsBack_object (by decide) ?_ ?_ (by decide)
    · exact List.forall_mem_cons.mpr
        ⟨⟨Key.enumValues.text, rfl⟩, List.forall_mem_singleton.mpr ⟨Key.pathStyle.text, rfl⟩⟩
    · exact List.forall_mem_cons.mpr
        ⟨Json.readsBack_text _, List.forall_mem_singleton.mpr Json.readsBack_null⟩
  refine ⟨Json.read_write hreads ?_, hreads.unbroken⟩
  rw [Json.write, misspelled, Json.writeAt_object, List.head?_cons]
  decide

/-- The arguments save the style that the file does not spell. -/
theorem settings_layered_overriding :
    read ["A".toList, "--enum-values".toList, "string".toList, "--config".toList, "c.json".toList]
        = .ok overriding
      ∧ overriding.settings
        ⟨[(["c.json".toList], .file (encode (Json.write (.object misspelled))))]⟩
        (Path.ofText ['/'])
        = .ok { workingDirectories := .text "A".toList, enumValues := .string } := by
  have hread : read ["A".toList, "--enum-values".toList, "string".toList, "--config".toList,
      "c.json".toList] = .ok overriding := by decide +kernel
  refine ⟨hread, ((settings_layered hread).1 _).mpr ⟨misspelled, ?_, ?_, fun key => ?_⟩⟩
  · refine ⟨by decide, _, _, rfl, utf8?_eq_some_iff.mpr rfl, ?_⟩
    rw [unifyBreaks_of_notMem read_misspelled.2]
    exact read_misspelled.1
  · exact List.forall_mem_cons.mpr
      ⟨⟨.enumValues, rfl⟩, List.forall_mem_singleton.mpr ⟨.pathStyle, rfl⟩⟩
  · cases key <;> first
      | rfl
      | exact .spelled (by decide)
      | exact .null

/-- A name for a settings file that takes more bytes than a name may. -/
def overlongName : Text := List.replicate 251 'x' ++ ".json".toList

/-- A settings file that is not there is not reported if its name is too long. -/
theorem overlongName_escapes :
    read ["--config".toList, overlongName] = .ok { config := some overlongName }
    ∧ (∀ bytes, FileTree.read {} ((Path.ofText ['/']).join (Path.ofText overlongName)) ≠ .ok bytes)
    ∧ ∃ e, ({ config := some overlongName } : Arguments).settings {} (Path.ofText ['/']) = .error e
      ∧ isReported e = false := by
  have hread : FileTree.read {} ((Path.ofText ['/']).join (Path.ofText overlongName))
      = .error .nameTooLong := by
    decide +kernel
  exact ⟨by decide +kernel, by simp [hread], _, (Unread.refused hread).load (by decide +kernel),
    rfl⟩

end Arguments

end Typings.CommandLine
