import Typings.Proofs.FileTree.Progress
import Typings.Proofs.Json.RoundTrip
import Typings.Proofs.Settings.Loading
import Typings.Proofs.Text.Encoding
import Typings.Proofs.Text.Lines

/-!
# Settings survive their file

Settings that are saved are loaded again as they were, whatever texts they hold: the file is the
UTF-8 form of a JSON text that reads as the settings, and each style is spelled by its own name.
-/

namespace Typings.Settings

open Text

variable {s : Settings} {files : FileTree} {here : Path} {name : Text}

/-- Settings as a conversion takes them: each directory is a text or null, and so is the extension;
the tag is a boolean. -/
structure IsStorable (s : Settings) : Prop where
  workingDirectory : s.workingDirectory = .null ∨ ∃ t, s.workingDirectory = .text t
  workingDirectories : s.workingDirectories = .null ∨ ∃ t, s.workingDirectories = .text t
  sourceExtension : s.sourceExtension = .null ∨ ∃ t, s.sourceExtension = .text t
  convertDirectory : s.convertDirectory = .null ∨ ∃ t, s.convertDirectory = .text t
  autoGeneratedTag : ∃ b, s.autoGeneratedTag = .bool b

/-! ## The saved object -/

/-- The members of the saved object. -/
def members (s : Settings) : Layer := Key.all.map fun key => (key.raw, s.value key)

theorem lookup_members (s : Settings) (key : Key) :
    s.members.lookup key.raw = some (s.value key) := by
  cases key <;> simp [members, Key.all, lookup_raw_cons]

theorem isKnown_members (s : Settings) : s.members.IsKnown := by
  intro m hm
  obtain ⟨key, -, rfl⟩ := List.mem_map.mp hm
  exact ⟨key, rfl⟩

theorem nodup_members (s : Settings) : (s.members.map (·.1)).Nodup := by
  have hkeys : s.members.map (·.1) = Key.all.map Key.raw := by
    rw [members, List.map_map]
    rfl
  rw [hkeys]
  decide

/-- Settings hold their own values: the name of a style spells it. -/
theorem holds_value (s : Settings) (key : Key) : s.Holds key (s.value key) := by
  have hmode (mode : EnumValues) : enumSpellings.lookup (lower (trim mode.name)) = some mode := by
    cases mode <;> decide
  have hstyle (style : PathStyle) :
      pathSpellings.lookup (lower (trim style.name)) = some style := by
    cases style <;> decide
  cases key <;> first
    | rfl
    | exact .spelled (hmode _)
    | exact .spelled (hstyle _)

/-- Nothing but null, booleans and texts is saved. -/
theorem IsStorable.value (h : s.IsStorable) (key : Key) :
    s.value key = .null ∨ (∃ b, s.value key = .bool b) ∨ ∃ t, s.value key = .text t := by
  cases key with
  | workingDirectory => exact h.workingDirectory.imp_right Or.inr
  | workingDirectories => exact h.workingDirectories.imp_right Or.inr
  | sourceExtension => exact h.sourceExtension.imp_right Or.inr
  | convertDirectory => exact h.convertDirectory.imp_right Or.inr
  | autoGeneratedTag => exact Or.inr (Or.inl h.autoGeneratedTag)
  | enumValues => exact Or.inr (Or.inr ⟨_, rfl⟩)
  | pathStyle => exact Or.inr (Or.inr ⟨_, rfl⟩)

theorem IsStorable.readsBack (h : s.IsStorable) : Json.ReadsBack Json.maxDepth 0 s.toJson := by
  have hne : s.members ≠ [] := by simp [members, Key.all]
  refine Json.readsBack_object hne ?_ ?_ s.nodup_members
  · intro m hm
    obtain ⟨key, -, rfl⟩ := List.mem_map.mp hm
    exact ⟨key.text, rfl⟩
  · intro m hm
    obtain ⟨key, -, rfl⟩ := List.mem_map.mp hm
    rcases h.value key with hvalue | ⟨b, hvalue⟩ | ⟨t, hvalue⟩
    · simpa only [hvalue] using Json.readsBack_null
    · simpa only [hvalue] using Json.readsBack_bool b
    · simpa only [hvalue] using Json.readsBack_text t

theorem areMembersEncodable_iff {ms : List (RawText × Json)} :
    Json.areMembersEncodable ms = true
      ↔ ∀ m ∈ ms, (RawText.text? m.1).isSome ∧ m.2.isEncodable = true := by
  induction ms with
  | nil => simp [Json.areMembersEncodable]
  | cons m ms ih => simp [Json.areMembersEncodable, ih, and_assoc]

/-- All that is saved has bytes. -/
theorem IsStorable.isEncodable (h : s.IsStorable) : s.toJson.isEncodable = true := by
  refine areMembersEncodable_iff.mpr fun m hm => ?_
  obtain ⟨key, -, rfl⟩ := List.mem_map.mp hm
  refine ⟨by simp [Key.raw, RawText.text?_ofText], ?_⟩
  rcases h.value key with hvalue | ⟨b, hvalue⟩ | ⟨t, hvalue⟩ <;>
    simp [hvalue, Json.isEncodable, Json.text, RawText.text?_ofText]

/-- The saved text reads as the settings. -/
theorem IsStorable.read_write (h : s.IsStorable) : Json.read s.toJson.write = .ok s.toJson := by
  refine Json.read_write h.readsBack ?_
  rw [Json.write, toJson, Key.all, List.map_cons, Json.writeAt_object, List.head?_cons]
  decide

/-! ## Saving and loading -/

/-- A name with a suffix is not empty. -/
theorem given_of_suffix (hsuffix : (Path.ofText name).suffix = fileSuffix) :
    Model.given (some name) = some name := by
  cases name with
  | nil => exact absurd hsuffix (by decide)
  | cons c t => rfl

/-- Settings that are saved at a path where a file can be written are loaded as they were. The file
is the UTF-8 form of a JSON text. -/
theorem load_save (hs : s.IsStorable) (hsuffix : (Path.ofText name).suffix = fileSuffix)
    (hwritable : ∃ bytes written, files.write (here.join (Path.ofText name)) bytes = .ok written) :
    ∃ saved content, s.save files here (Path.ofText name) = .ok saved
      ∧ saved.read (here.join (Path.ofText name)) = .ok (encode content)
      ∧ Json.read content = .ok s.toJson ∧ load saved here (some name) [] = .ok s := by
  obtain ⟨bytes, written, hwritten⟩ := hwritable
  obtain ⟨saved, hsaved⟩ := FileTree.exists_write hwritten (encode s.toJson.write)
  have hread := FileTree.read_of_write hsaved
  have hfile : FileLayer saved here (some name) s.members := by
    rw [FileLayer, given_of_suffix hsuffix]
    refine ⟨by rw [hsuffix]; decide, _, s.toJson.write, hread, utf8?_eq_some_iff.mpr rfl, ?_⟩
    have hunbroken : '\r' ∉ s.toJson.write := hs.readsBack.unbroken
    rw [unifyBreaks_of_notMem hunbroken, hs.read_write]
    rfl
  refine ⟨saved, s.toJson.write, ?_, hread, hs.read_write, ?_⟩
  · rw [save, hsaved]
    simp only [hs.isEncodable, if_true]
  · refine load_eq_ok_iff.mpr ⟨s.members, hfile, by simp [Layer.IsKnown, Layer.given],
      s.isKnown_members, fun key => ?_⟩
    have hlayered : layered [Layer.given [], s.members] key = s.value key := by
      rw [layered_pair, lookup_members]
      rfl
    rw [hlayered]
    exact s.holds_value key

/-- Settings whose texts have quotation marks, a backslash, controls, a line separator and a
character beyond 16 bits; one is empty, and one field is null. -/
def oddSettings : Settings where
  workingDirectory := .text ['"', '\\', '\r', '\n', Char.ofNat 0x1F]
  workingDirectories := .text []
  sourceExtension := .text [Char.ofNat 0x2028, Char.ofNat 0x1F600]
  autoGeneratedTag := .bool false
  enumValues := .string
  pathStyle := .kebab

theorem load_save_odd : oddSettings.IsStorable ∧ (Path.ofText "c.json".toList).suffix = fileSuffix
    ∧ (∃ bytes written, FileTree.write {} ((Path.ofText ['/']).join (Path.ofText "c.json".toList))
      bytes = .ok written)
    ∧ ∃ saved content, oddSettings.save {} (Path.ofText ['/']) (Path.ofText "c.json".toList)
        = .ok saved
      ∧ saved.read ((Path.ofText ['/']).join (Path.ofText "c.json".toList)) = .ok (encode content)
      ∧ Json.read content = .ok oddSettings.toJson
      ∧ load saved (Path.ofText ['/']) (some "c.json".toList) [] = .ok oddSettings := by
  have hs : oddSettings.IsStorable :=
    ⟨Or.inr ⟨_, rfl⟩, Or.inr ⟨_, rfl⟩, Or.inr ⟨_, rfl⟩, Or.inl rfl, _, rfl⟩
  have hsuffix : (Path.ofText "c.json".toList).suffix = fileSuffix := by decide
  have hwritable : ∃ bytes written, FileTree.write {}
      ((Path.ofText ['/']).join (Path.ofText "c.json".toList)) bytes = .ok written := ⟨[], _, rfl⟩
  exact ⟨hs, hsuffix, hwritable, load_save hs hsuffix hwritable⟩

end Typings.Settings
