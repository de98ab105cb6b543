import Typings.Proofs.Source.Literal
import Typings.Proofs.Text.Casing
import Typings.Proofs.Text.Raw
import Typings.Proofs.Text.Words
import Typings.Settings.Basic

/-!
# Which values spell a style

A style is spelled by a string in any case and with blanks around it, and left open by null and the
empty string. Nothing else spells one: what messages show for a value that is no string has a
character that no spelling has, or is one of a few words that are none.
-/

namespace Typings.Settings

open Text

variable {α : Type} {spellings : List (Text × α)} {usual choice : α} {v : Json}

/-- A value that spells a choice. Null and the empty string leave it at the usual one. -/
inductive Spells (spellings : List (Text × α)) (usual : α) : Json → α → Prop
  | null : Spells spellings usual .null usual
  | empty : Spells spellings usual (.text []) usual
  | spelled {t : Text} {choice : α} (h : spellings.lookup (lower (trim t)) = some choice) :
    Spells spellings usual (.text t) choice

/-! ## Foreign characters -/

/-- A character that no spelling has. Trimming and lowering leave it where it is. -/
def IsForeign (c : Char) : Prop := c.isDigit ∨ c = '.' ∨ c = '[' ∨ c = '\x7b'

instance (c : Char) : Decidable (IsForeign c) :=
  inferInstanceAs (Decidable (c.isDigit ∨ c = '.' ∨ c = '[' ∨ c = '\x7b'))

theorem toNat_of_isForeign {c : Char} (h : IsForeign c) : c.toNat < 0x80 := by
  rcases h with h | rfl | rfl | rfl
  · have hrange := Char.isDigit_iff_toNat.mp h
    exact lt_of_le_of_lt hrange.2 (by decide)
  · decide
  · decide
  · decide

theorem foreign_ascii : ∀ n < 0x80, IsForeign (Char.ofNat n) →
    lowerChar (Char.ofNat n) = [Char.ofNat n] ∧ isBlank (Char.ofNat n) = false := by
  decide

theorem lowerChar_of_isForeign {c : Char} (h : IsForeign c) :
    lowerChar c = [c] ∧ isBlank c = false := by
  have hascii := foreign_ascii c.toNat (toNat_of_isForeign h)
  rw [Char.ofNat_toNat] at hascii
  exact hascii h

theorem mem_lowerAfter_of_isForeign {c : Char} (hc : IsForeign c) {t : Text} (cased : Bool)
    (h : c ∈ t) : c ∈ lowerAfter cased t := by
  induction t generalizing cased with
  | nil => simp at h
  | cons d t ih =>
    rw [lowerAfter, List.mem_append]
    rcases List.mem_cons.mp h with rfl | h
    · have hascii := toNat_of_isForeign hc
      rw [if_neg (by omega), (lowerChar_of_isForeign hc).1]
      exact Or.inl List.mem_cons_self
    · exact Or.inr (ih _ h)

/-- A foreign character is left. -/
theorem mem_lower_trim {c : Char} (hc : IsForeign c) {t : Text} (h : c ∈ t) :
    c ∈ lower (trim t) := by
  obtain ⟨b, b', hb, hb', heq⟩ := exists_gaps_trim t
  have hsolid := (lowerChar_of_isForeign hc).2
  rw [heq, List.mem_append, List.mem_append] at h
  rcases h with (h | h) | h
  · exact absurd (hb c h) (by simp [hsolid])
  · exact mem_lowerAfter_of_isForeign hc false h
  · exact absurd (hb' c h) (by simp [hsolid])

theorem exists_isForeign_ofNat (n : Nat) : ∃ c ∈ ofNat n, IsForeign c := by
  have hne : ofNat n ≠ [] := Nat.toDigits_ne_nil
  obtain ⟨c, hc⟩ := List.exists_mem_of_ne_nil _ hne
  exact ⟨c, hc, Or.inl (Source.isDigit_of_mem_ofNat hc)⟩

theorem exists_isForeign_ofInt (i : Int) : ∃ c ∈ ofInt i, IsForeign c := by
  obtain ⟨c, hc, hforeign⟩ := exists_isForeign_ofNat i.natAbs
  refine ⟨c, ?_, hforeign⟩
  rw [ofInt]
  split_ifs
  · exact List.mem_cons_of_mem _ hc
  · exact hc

theorem exists_isForeign_placePoint (digits : Text) (point : Int) :
    ∃ c ∈ Binary64.placePoint digits point, IsForeign c := by
  rw [Binary64.placePoint]
  by_cases hnear : -4 < point ∧ point ≤ 16
  · rw [if_pos hnear]
    refine ⟨'.', ?_, by decide⟩
    split_ifs <;> simp
  · rw [if_neg hnear]
    obtain ⟨c, hc, hforeign⟩ := exists_isForeign_ofNat (point - 1).natAbs
    refine ⟨c, ?_, hforeign⟩
    by_cases hshort : (ofNat (point - 1).natAbs).length = 1 <;> simp [hshort, hc]

/-- The words that messages show for values without a foreign character. -/
def bareWords : List Text :=
  [[], "none".toList, "true".toList, "false".toList, "nan".toList, "inf".toList, "-inf".toList]

theorem shown_real (r : Binary64) :
    lower (trim r.text) ∈ bareWords ∨ ∃ c ∈ r.text, IsForeign c := by
  cases r with
  | notANumber => exact Or.inl (by decide)
  | infinite negative => exact Or.inl (by cases negative <;> decide)
  | finite negative m exponent =>
    refine Or.inr ?_
    rw [Binary64.text]
    by_cases hzero : m = 0
    · exact ⟨'0', by simp [hzero], by decide⟩
    · obtain ⟨c, hc, hforeign⟩ := exists_isForeign_placePoint
        (Binary64.shortest m exponent).1 (Binary64.shortest m exponent).2
      exact ⟨c, by simp [hzero, hc], hforeign⟩

/-- What is shown for a value is one of the words or has a foreign character, unless it is a
string. -/
theorem shown_bare (hv : ∀ s, v ≠ .string s) :
    lower (trim v.shown) ∈ bareWords ∨ ∃ c ∈ v.shown, IsForeign c := by
  cases v with
  | null => exact Or.inl (by decide)
  | bool b => exact Or.inl (by cases b <;> decide)
  | int i => exact Or.inr (exists_isForeign_ofInt i)
  | real r => exact shown_real r
  | string s => exact absurd rfl (hv s)
  | array items => exact Or.inr ⟨'[', by simp [Json.shown], by decide⟩
  | object members => exact Or.inr ⟨'\x7b', by simp [Json.shown], by decide⟩

/-! ## Reading styles -/

/-- Spellings with no foreign character, none of which is one of the words. -/
def AreProper (spellings : List (Text × α)) : Prop :=
  ∀ s ∈ spellings, s.1 ∉ bareWords ∧ s.1.any (decide <| IsForeign ·) = false

theorem areProper_enumSpellings : AreProper enumSpellings := by
  unfold AreProper
  decide

theorem areProper_pathSpellings : AreProper pathSpellings := by
  unfold AreProper
  decide

/-- Only strings spell a choice. -/
theorem choice?_eq_some_iff (hproper : AreProper spellings) : choice? spellings v = some choice
    ↔ ∃ t, v = .text t ∧ spellings.lookup (lower (trim t)) = some choice := by
  constructor
  · intro h
    rw [choice?, Option.bind_eq_some_iff] at h
    obtain ⟨t, ht, hlookup⟩ := h
    obtain ⟨before, after, hsplit, -⟩ := List.lookup_eq_some_iff.mp hlookup
    have hspelled := hproper (lower (trim t), choice) (by simp [hsplit])
    by_cases hstring : ∃ s, v = .string s
    · obtain ⟨s, rfl⟩ := hstring
      exact ⟨t, congrArg Json.string (RawText.text?_eq_some_iff.mp ht), hlookup⟩
    · have hshown : v.shown = t := by
        have hplain : v.plain = RawText.ofText v.shown := by
          cases v <;> first | rfl | exact absurd ⟨_, rfl⟩ hstring
        rwa [hplain, RawText.text?_ofText, Option.some.injEq] at ht
      rcases shown_bare fun s hs => hstring ⟨s, hs⟩ with hbare | ⟨c, hc, hforeign⟩
      · exact absurd (hshown ▸ hbare) hspelled.1
      · have hnone := List.any_eq_false.mp hspelled.2 c (mem_lower_trim hforeign (hshown ▸ hc))
        exact absurd (decide_eq_true hforeign) hnone
  · rintro ⟨t, rfl, hlookup⟩
    rw [choice?, Json.text, Json.plain, RawText.text?_ofText]
    exact hlookup

theorem isOpen_iff : isOpen v = true ↔ v = .null ∨ v = .text [] := by
  cases v <;> simp [isOpen, Json.text, RawText.ofText]

theorem spells_iff (hproper : AreProper spellings) : Spells spellings usual v choice
    ↔ if isOpen v then usual = choice else choice? spellings v = some choice := by
  have hempty : spellings.lookup [] = none := by
    rw [List.lookup_eq_none_iff]
    intro s hs
    have hne := (hproper s hs).1
    rw [bareWords, List.mem_cons, not_or] at hne
    simpa using Ne.symm hne.1
  constructor
  · rintro (_ | _ | h)
    · rfl
    · rfl
    · next t =>
      have hclosed : ¬isOpen (.text t) = true := by
        rintro hopen
        rcases isOpen_iff.mp hopen with hnull | htext
        · cases hnull
        · obtain rfl : t = [] := RawText.ofText_inj.mp (Json.string.inj htext)
          exact absurd (hempty.symm.trans h) (by simp)
      rw [if_neg hclosed]
      exact (choice?_eq_some_iff hproper).mpr ⟨t, rfl, h⟩
  · split_ifs with hopen
    · rintro rfl
      rcases isOpen_iff.mp hopen with rfl | rfl
      · exact .null
      · exact .empty
    · intro h
      obtain ⟨t, rfl, hlookup⟩ := (choice?_eq_some_iff hproper).mp h
      exact .spelled hlookup

theorem readEnumValues_eq_ok_iff {mode : EnumValues} :
    readEnumValues v = .ok mode ↔ Spells enumSpellings .numeric v mode := by
  rw [spells_iff areProper_enumSpellings, readEnumValues]
  split_ifs
  · rw [Except.ok.injEq]
  · cases choice? enumSpellings v <;> simp

theorem readPathStyle_eq_ok_iff {style : PathStyle} :
    readPathStyle v = .ok style ↔ Spells pathSpellings .default v style := by
  rw [spells_iff areProper_pathSpellings, readPathStyle]
  split_ifs
  · rw [Except.ok.injEq]
  · cases choice? pathSpellings v <;> simp

end Typings.Settings
