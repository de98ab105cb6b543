import Typings.Proofs.FileStem

/-!
# Kebab case and back

Kebab case loses nothing of a name in ASCII that has no hyphen and does not start with a small
letter: its parts, each put in Pascal case, make up the name again. What it gives has no capital,
and a text without capitals is in kebab case already.
-/

namespace Typings

open Text

/-- In ASCII, Pascal case raises the first character and does nothing else. -/
theorem pascalCase_of_ascii {t : Text} (h : ∀ c ∈ t, c.toNat < 0x80) :
    pascalCase t = capitalised t := by
  cases t with
  | nil => rfl
  | cons c r =>
    have hc : c.toNat < 0x80 := h c List.mem_cons_self
    rw [pascalCase, isUpper_of_ascii hc, upperChar, if_pos hc, capitalised]
    split
    · next hupper => rw [toUpper_of_not_isLower (isLower_of_isUpper hupper)]
    · rfl

/-- In ASCII, a name in kebab case has small letters only. -/
theorem isSmall_of_mem_kebabCase {t : Text} (h : ∀ c ∈ t, c.toNat < 0x80) {d : Char}
    (hd : d ∈ kebabCase t) : d.toNat < 0x80 ∧ isUpper d = false := by
  rcases mem_joinWith hd with hd | ⟨p, hp, hd⟩
  · rw [List.mem_singleton.mp hd]
    decide
  · obtain ⟨w, hw, rfl⟩ := List.mem_map.mp hp
    have hascii : ∀ c ∈ w, c.toNat < 0x80 := fun c hc => h c (mem_of_mem_nameWords hw hc)
    rw [lower_of_ascii hascii] at hd
    obtain ⟨c, hc, rfl⟩ := List.mem_map.mp hd
    have hlowered := toNat_toLower_of_ascii (hascii c hc)
    exact ⟨hlowered, by rw [isUpper_of_ascii hlowered, isUpper_toLower (hascii c hc)]⟩

/-- A text without capitals is a single word. -/
theorem nameWords_of_not_isUpper {t : Text} (hne : t ≠ []) (h : ∀ c ∈ t, isUpper c = false) :
    nameWords t = [t] := by
  obtain ⟨c, r, rfl⟩ := List.exists_cons_of_ne_nil hne
  have hr : ∀ d ∈ r, isUpper d = false := fun d hd => h d (List.mem_cons_of_mem _ hd)
  simpa using nameWords_append c (t := []) hr fun _ => rfl

/-- A text in ASCII without capitals is in kebab case already. -/
theorem kebabCase_of_not_isUpper {t : Text} (hascii : ∀ c ∈ t, c.toNat < 0x80)
    (h : ∀ c ∈ t, isUpper c = false) : kebabCase t = t := by
  rcases eq_or_ne t [] with rfl | hne
  · rfl
  rw [kebabCase, nameWords_of_not_isUpper hne h, List.map_singleton, lower_of_ascii hascii,
    map_toLower_of_not_isUpper hascii h]
  simp [joinWith]

/-- Cut at its hyphens, a plain name without hyphens of its own is read back from its kebab case by
putting each part in Pascal case. So no two such names share a file stem in that style. The kebab
case of the name has no capital, and it is its own kebab case. -/
theorem kebabCase_roundTrip {t : Text} (h : IsPlainName t) (hhyphen : '-' ∉ t) :
    ((splitOn '-' (kebabCase t)).map pascalCase).flatten = t
    ∧ (∀ s, IsPlainName s → '-' ∉ s →
      (PathStyle.kebab.fileStem s = PathStyle.kebab.fileStem t ↔ s = t))
    ∧ (∀ c ∈ kebabCase t, isUpper c = false)
    ∧ kebabCase (kebabCase t) = kebabCase t := by
  have hsmall : ∀ c ∈ kebabCase t, c.toNat < 0x80 ∧ isUpper c = false :=
    fun c hc => isSmall_of_mem_kebabCase h.ascii hc
  have hparts : (splitOn '-' (kebabCase t)).map pascalCase
      = (splitOn '-' (kebabCase t)).map capitalised := by
    refine List.map_congr_left fun p hp => pascalCase_of_ascii fun c hc => (hsmall c ?_).1
    exact mem_of_mem_splitOn hp hc
  refine ⟨?_, fun s hs hs' => kebabCase_inj hs h hs' hhyphen, fun c hc => (hsmall c hc).2,
    kebabCase_of_not_isUpper (fun c hc => (hsmall c hc).1) fun c hc => (hsmall c hc).2⟩
  rw [hparts]
  exact fromKebab_kebabCase h hhyphen

/-- A digit in front, capitals in a row and an underscore all come back. -/
theorem kebabCase_roundTrip_capitals :
    IsPlainName "2DPoint_ID".toList ∧ '-' ∉ "2DPoint_ID".toList
    ∧ kebabCase "2DPoint_ID".toList = "2-d-point_-i-d".toList
    ∧ ((splitOn '-' (kebabCase "2DPoint_ID".toList)).map pascalCase).flatten = "2DPoint_ID".toList
    ∧ (PathStyle.kebab.fileStem "2DPoint_Id".toList = PathStyle.kebab.fileStem "2DPoint_ID".toList
      ↔ "2DPoint_Id".toList = "2DPoint_ID".toList)
    ∧ (∀ c ∈ kebabCase "2DPoint_ID".toList, isUpper c = false)
    ∧ kebabCase (kebabCase "2DPoint_ID".toList) = kebabCase "2DPoint_ID".toList := by
  have hplain : IsPlainName "2DPoint_ID".toList := ⟨by simp, by simp⟩
  have hother : IsPlainName "2DPoint_Id".toList := ⟨by simp, by simp⟩
  have hhyphen : '-' ∉ "2DPoint_ID".toList := by decide
  obtain ⟨hback, hstems, hsmall, hagain⟩ := kebabCase_roundTrip hplain hhyphen
  exact ⟨hplain, hhyphen, by decide +kernel, hback, hstems _ hother (by decide), hsmall, hagain⟩

end Typings
