import Typings.Proofs.Settings.Layers
import Typings.Settings.File

/-!
# Which settings files are read

A settings file is read if and only if it can be opened, has the right suffix, and its bytes are a
JSON object as UTF-8. Every other file is an error of the settings, but for four kinds of failures.
Settings are then made up of what the caller overrides over what the file says.
-/

namespace Typings.Settings

open Text

variable {files : FileTree} {here path : Path} {bytes : Bytes} {layer : Layer} {e : StorageError}

/-- A file that can be opened is read unless its suffix is wrong. -/
theorem loadLayer_of_read (h : files.read (here.join path) = .ok bytes) :
    loadLayer files here path = if lower path.suffix = fileSuffix then readLayer path bytes
      else .error (.wrongSuffix path) := by
  have hstatus : files.status (here.join path) = .ok (.file bytes) := by
    rw [FileTree.read] at h
    split at h <;> simp_all
  rw [loadLayer, FileTree.lookError?, FileTree.leadsSomewhere, hstatus, h]
  exact ite_not ..

/-- What cannot be opened is refused for a name that is too long, and reported otherwise. -/
theorem loadLayer_of_unread {code : ErrorCode} (h : files.read (here.join path) = .error code) :
    (code = .nameTooLong ∧ loadLayer files here path = .error (.refused { code, path }))
    ∨ (code ≠ .nameTooLong ∧ (loadLayer files here path = .error (.notFound path)
      ∨ loadLayer files here path = .error (.wrongSuffix path)
      ∨ loadLayer files here path = .error (.unreadable { code, path }))) := by
  rw [loadLayer, FileTree.lookError?, FileTree.leadsSomewhere, h]
  rw [FileTree.read] at h
  cases hstatus : files.status (here.join path) with
  | error status =>
    obtain rfl : status = code := by simpa [hstatus] using h
    by_cases hlong : status = .nameTooLong
    · exact Or.inl ⟨hlong, by simp [hlong]⟩
    · exact Or.inr ⟨hlong, Or.inl (by cases status <;> first | contradiction | rfl)⟩
  | ok entry =>
    cases entry with
    | file bytes => simp [hstatus] at h
    | directory =>
      obtain rfl : ErrorCode.isADirectory = code := by simpa [hstatus] using h
      refine Or.inr ⟨by decide, Or.inr ?_⟩
      by_cases hsuffix : lower path.suffix = fileSuffix
      · exact Or.inr (by simp [hsuffix])
      · exact Or.inl (by simp [hsuffix])

theorem parseLayer_eq_ok_iff {content : Text} :
    parseLayer path content = .ok layer ↔ Json.read content = .ok (.object layer) := by
  rw [parseLayer]
  split <;> simp_all

theorem readLayer_eq_ok_iff : readLayer path bytes = .ok layer
    ↔ ∃ content, utf8? bytes = some content
      ∧ Json.read (unifyBreaks content) = .ok (.object layer) := by
  rw [readLayer]
  split
  · next h => simp [h]
  · next content h => simp [h, parseLayer_eq_ok_iff]

/-- When a file can be read as a layer. -/
theorem loadLayer_eq_ok_iff : loadLayer files here path = .ok layer
    ↔ lower path.suffix = fileSuffix ∧ ∃ bytes content, files.read (here.join path) = .ok bytes
      ∧ utf8? bytes = some content ∧ Json.read (unifyBreaks content) = .ok (.object layer) := by
  cases hread : files.read (here.join path) with
  | error code =>
    refine iff_of_false ?_ (by simp)
    rcases loadLayer_of_unread hread with ⟨-, h⟩ | ⟨-, h | h | h⟩ <;> simp [h]
  | ok bytes =>
    rw [loadLayer_of_read hread]
    split_ifs with hsuffix
    · simp [hsuffix, readLayer_eq_ok_iff]
    · simp [hsuffix]

/-! ## Failures without a report -/

/-- The failures to read a settings file that are no errors of the settings: a name that is too
long, and in a file with the right suffix bytes that are no text, an integer with too many digits,
or values that are nested too deeply. -/
inductive Unread (files : FileTree) (here path : Path) : StorageError → Prop
  | refused (h : files.read (here.join path) = .error .nameTooLong) :
    Unread files here path (.refused { code := .nameTooLong, path })
  | undecodable {bytes : Bytes} (hsuffix : lower path.suffix = fileSuffix)
    (hread : files.read (here.join path) = .ok bytes) (h : utf8? bytes = none) :
    Unread files here path (.undecodable path)
  | tooManyDigits {bytes : Bytes} {content : Text} {count : Nat}
    (hsuffix : lower path.suffix = fileSuffix) (hread : files.read (here.join path) = .ok bytes)
    (htext : utf8? bytes = some content)
    (h : Json.read (unifyBreaks content) = .error (.tooManyDigits count)) :
    Unread files here path (.tooManyDigits count)
  | tooDeep {bytes : Bytes} {content : Text} (hsuffix : lower path.suffix = fileSuffix)
    (hread : files.read (here.join path) = .ok bytes) (htext : utf8? bytes = some content)
    (h : Json.read (unifyBreaks content) = .error .tooDeep) : Unread files here path .tooDeep

/-- Whether an error of the storage is an error of the settings. -/
def StorageError.IsOfSettings : StorageError → Prop
  | notFound _ | wrongSuffix _ | malformed .. | noObject _ | unreadable _ | unwritable _
  | values _ => True
  | refused _ | undecodable _ | tooManyDigits _ | tooDeep | unencodable => False

theorem parseLayer_error {content : Text} (h : parseLayer path content = .error e) :
    e.IsOfSettings ∨ (∃ count, e = .tooManyDigits count
      ∧ Json.read content = .error (.tooManyDigits count))
    ∨ (e = .tooDeep ∧ Json.read content = .error .tooDeep) := by
  rw [parseLayer] at h
  split at h
  · cases h
  · cases h
    exact Or.inl trivial
  · cases h
    exact Or.inl trivial
  · next count hread =>
    cases h
    exact Or.inr (Or.inl ⟨count, rfl, hread⟩)
  · next hread =>
    cases h
    exact Or.inr (Or.inr ⟨rfl, hread⟩)

/-- A file that is not read is an error of the settings or one of those failures. -/
theorem loadLayer_error (h : loadLayer files here path = .error e) :
    e.IsOfSettings ∨ Unread files here path e := by
  cases hread : files.read (here.join path) with
  | error code =>
    rcases loadLayer_of_unread hread with ⟨rfl, hload⟩ | ⟨-, hload⟩
    · obtain rfl : _ = e := by simpa [hload] using h
      exact Or.inr (.refused hread)
    · rcases hload with hload | hload | hload <;>
      · obtain rfl : _ = e := by simpa [hload] using h
        exact Or.inl trivial
  | ok bytes =>
    rw [loadLayer_of_read hread] at h
    split_ifs at h with hsuffix
    · rw [readLayer] at h
      cases htext : utf8? bytes with
      | none =>
        obtain rfl : _ = e := by simpa [htext] using h
        exact Or.inr (.undecodable hsuffix hread htext)
      | some content =>
        rw [htext] at h
        rcases parseLayer_error h with hmine | ⟨count, rfl, hmany⟩ | ⟨rfl, hdeep⟩
        · exact Or.inl hmine
        · exact Or.inr (.tooManyDigits hsuffix hread htext hmany)
        · exact Or.inr (.tooDeep hsuffix hread htext hdeep)
    · obtain rfl : _ = e := by simpa using h
      exact Or.inl trivial

/-- Conversely each of those failures keeps the file from being read. -/
theorem Unread.loadLayer (h : Unread files here path e) :
    loadLayer files here path = .error e := by
  cases h with
  | refused h =>
    rcases loadLayer_of_unread h with ⟨-, hload⟩ | ⟨hne, -⟩
    · exact hload
    · exact absurd rfl hne
  | undecodable hsuffix hread h => rw [loadLayer_of_read hread, if_pos hsuffix, readLayer, h]
  | tooManyDigits hsuffix hread htext h =>
    rw [loadLayer_of_read hread, if_pos hsuffix, readLayer, htext]
    simp only [parseLayer, h]
  | tooDeep hsuffix hread htext h =>
    rw [loadLayer_of_read hread, if_pos hsuffix, readLayer, htext]
    simp only [parseLayer, h]

theorem Unread.not_isOfSettings (h : Unread files here path e) : ¬e.IsOfSettings := by
  cases h <;> exact id

/-! ## Loading settings -/

variable {file : Option Text} {overrides : Layer} {s : Settings}

/-- The layer that a file gives, if one is named. -/
def FileLayer (files : FileTree) (here : Path) (file : Option Text) (layer : Layer) : Prop :=
  match Model.given file with
  | none => layer = []
  | some name => lower (Path.ofText name).suffix = fileSuffix
    ∧ ∃ bytes content, files.read (here.join (Path.ofText name)) = .ok bytes
      ∧ utf8? bytes = some content ∧ Json.read (unifyBreaks content) = .ok (.object layer)

/-- A layer without members changes nothing. -/
theorem ofLayers_concat_nil : ofLayers [layer, []] = .ok s ↔ ofLayers [layer] = .ok s := by
  have hlayered (key : Key) : layered [layer, []] key = layered [layer] key := by
    rw [layered_pair, List.lookup_nil, Option.or_none, layered]
    simp
  simp [ofLayers_eq_ok_iff, hlayered, Layer.IsKnown]

theorem mapError_eq_ok_iff {ε ε' α : Type} {f : ε → ε'} {x : Except ε α} {a : α} :
    x.mapError f = .ok a ↔ x = .ok a := by
  cases x <;> simp [Except.mapError]

/-- What settings are loaded. -/
theorem load_eq_ok_iff : load files here file overrides = .ok s
    ↔ ∃ layer, FileLayer files here file layer ∧ overrides.given.IsKnown ∧ layer.IsKnown
      ∧ ∀ key, s.Holds key (layered [overrides.given, layer] key) := by
  have hofLayers (layer : Layer) : ofLayers [overrides.given, layer] = .ok s
      ↔ overrides.given.IsKnown ∧ layer.IsKnown
        ∧ ∀ key, s.Holds key (layered [overrides.given, layer] key) := by
    rw [ofLayers_eq_ok_iff]
    simp [and_assoc]
  simp only [← hofLayers]
  rw [load]
  cases hfile : Model.given file with
  | none => simp [FileLayer, hfile, mapError_eq_ok_iff, ofLayers_concat_nil]
  | some name =>
    simp only [FileLayer, hfile, ← loadLayer_eq_ok_iff]
    cases loadLayer files here (Path.ofText name) <;> simp [mapError_eq_ok_iff]

/-- Settings that are not loaded are an error of the settings or one of the failures without a
report. -/
theorem load_error (h : load files here file overrides = .error e) : e.IsOfSettings
    ∨ ∃ name, Model.given file = some name ∧ Unread files here (Path.ofText name) e := by
  have hvalues {x : Except Error Settings} (hx : x.mapError .values = .error e) :
      e.IsOfSettings := by
    cases x with
    | ok s => cases hx
    | error error =>
      cases hx
      trivial
  rw [load] at h
  cases hfile : Model.given file with
  | none =>
    rw [hfile] at h
    exact Or.inl (hvalues h)
  | some name =>
    rw [hfile] at h
    cases hload : loadLayer files here (Path.ofText name) with
    | error error =>
      obtain rfl : error = e := by simpa [hload] using h
      exact (loadLayer_error hload).imp_right fun hunread => ⟨name, rfl, hunread⟩
    | ok layer =>
      simp only [hload] at h
      exact Or.inl (hvalues h)

theorem Unread.load {name : Text} (hfile : Model.given file = some name)
    (h : Unread files here (Path.ofText name) e) : load files here file overrides = .error e := by
  rw [Settings.load, hfile]
  simp only [h.loadLayer]

end Typings.Settings
