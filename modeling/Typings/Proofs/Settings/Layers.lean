import Typings.Proofs.Settings.Styles

/-!
# Settings from layers

Layers make up settings if and only if they know no other keys than those of the settings and the
values that are left for the two styles spell styles. Each setting then holds what the first layer
with its key says, or its default.
-/

namespace Typings.Settings

open Text

variable {layer : Layer} {layers : List Layer} {s : Settings}

/-! ## Keys -/

theorem Key.raw_inj {key other : Key} : key.raw = other.raw ↔ key = other := by
  rw [Key.raw, Key.raw, RawText.ofText_inj]
  cases key <;> cases other <;> decide

theorem Key.mem_all (key : Key) : key ∈ Key.all := by cases key <;> decide

theorem lookup_raw_cons (key other : Key) (v : Json) (layer : Layer) :
    List.lookup other.raw ((key.raw, v) :: layer)
      = if other = key then some v else layer.lookup other.raw := by
  rw [List.lookup_cons]
  by_cases h : other = key
  · simp [h]
  · rw [if_neg h, beq_eq_false_iff_ne.mpr (mt Key.raw_inj.mp h)]

/-- Whether all keys of a layer are those of settings. -/
def Layer.IsKnown (layer : Layer) : Prop := ∀ m ∈ layer, ∃ key : Key, m.1 = key.raw

theorem unknownKeys_eq_nil_iff : unknownKeys layers = [] ↔ ∀ layer ∈ layers, layer.IsKnown := by
  have hkey (raw : RawText) :
      (Key.all.map Key.raw).contains raw = true ↔ ∃ key : Key, raw = key.raw := by
    simp [List.mem_map, Key.mem_all, eq_comm]
  have hmem (raw : RawText) : raw ∈ unknownKeys layers
      ↔ (∃ layer ∈ layers, ∃ m ∈ layer, m.1 = raw) ∧ ¬∃ key : Key, raw = key.raw := by
    rw [unknownKeys, List.mem_mergeSort, List.mem_eraseDups, List.mem_filter, List.mem_flatMap,
      Bool.not_eq_true', ← Bool.not_eq_true, hkey]
    simp only [List.mem_map]
  rw [List.eq_nil_iff_forall_not_mem]
  constructor
  · intro h layer hlayer m hm
    by_contra hunknown
    exact h m.1 ((hmem _).mpr ⟨⟨layer, hlayer, m, hm, rfl⟩, hunknown⟩)
  · rintro h raw hraw
    obtain ⟨⟨layer, hlayer, m, hm, rfl⟩, hunknown⟩ := (hmem raw).mp hraw
    exact hunknown (h layer hlayer m hm)

/-! ## Settings -/

/-- Whether settings hold the value that is left for a key. A style is held as what the value
spells. -/
def Holds (s : Settings) (key : Key) (v : Json) : Prop :=
  match key with
  | .enumValues => Spells enumSpellings .numeric v s.enumValues
  | .pathStyle => Spells pathSpellings .default v s.pathStyle
  | key => s.value key = v

/-- Of two layers the first one decides, if it has the key. -/
theorem layered_pair (first second : Layer) (key : Key) : layered [first, second] key
    = ((first.lookup key.raw).or (second.lookup key.raw)).getD (({} : Settings).value key) := by
  simp only [layered, List.findSome?_cons, List.findSome?_nil]
  cases first.lookup key.raw with
  | some v => rfl
  | none => cases second.lookup key.raw <;> rfl

/-- What settings layers make up. -/
theorem ofLayers_eq_ok_iff : ofLayers layers = .ok s
    ↔ (∀ layer ∈ layers, layer.IsKnown) ∧ ∀ key, s.Holds key (layered layers key) := by
  rw [← unknownKeys_eq_nil_iff, ofLayers]
  constructor
  · intro h
    split at h
    · cases h
    · next hknown =>
      split at h
      · cases h
      · next mode hmode =>
        split at h
        · cases h
        · next style hstyle =>
          cases h
          refine ⟨hknown, fun key => ?_⟩
          cases key
          case enumValues => exact readEnumValues_eq_ok_iff.mp hmode
          case pathStyle => exact readPathStyle_eq_ok_iff.mp hstyle
          all_goals rfl
  · rintro ⟨hknown, hholds⟩
    rw [hknown]
    simp only [readEnumValues_eq_ok_iff.mpr (hholds .enumValues),
      readPathStyle_eq_ok_iff.mpr (hholds .pathStyle), ← show _ = _ from hholds .workingDirectory,
      ← show _ = _ from hholds .workingDirectories, ← show _ = _ from hholds .sourceExtension,
      ← show _ = _ from hholds .convertDirectory, ← show _ = _ from hholds .autoGeneratedTag]
    rfl

end Typings.Settings
