import Typings.Naming
import Typings.Proofs.Path.Places
import Typings.Proofs.Text.Casing

/-!
# Re-cased names are names

No case conversion makes a slash, an empty text or a text of dots out of a name. An output folder
therefore has one segment for each segment of the source folder.
-/

namespace Typings

open Typings.Path Text

/-! ## Kebab case -/

theorem nameWords_ne_nil {t : Text} (h : t ≠ []) : nameWords t ≠ [] := by
  match t with
  | [c] => simp [nameWords]
  | c :: d :: r =>
    rw [nameWords]
    split
    · simp
    · split <;> simp

/-- The words of a name make up the name. -/
theorem flatten_nameWords (t : Text) : (nameWords t).flatten = t := by
  match t with
  | [] => rfl
  | [c] => rfl
  | c :: d :: r =>
    have ih := flatten_nameWords (d :: r)
    rw [nameWords]
    split
    · next h => exact absurd h (nameWords_ne_nil (by simp))
    · next w ws h =>
      rw [h] at ih
      split <;> simpa using ih

theorem mem_of_mem_nameWords {t w : Text} (hw : w ∈ nameWords t) {c : Char} (hc : c ∈ w) :
    c ∈ t := by
  rw [← flatten_nameWords t]
  exact List.mem_flatten.mpr ⟨w, hw, hc⟩

/-- No word is empty. -/
theorem ne_nil_of_mem_nameWords {t w : Text} (h : w ∈ nameWords t) : w ≠ [] := by
  match t with
  | [] => simp [nameWords] at h
  | [c] => simp_all [nameWords]
  | c :: d :: r =>
    have ih : ∀ w ∈ nameWords (d :: r), w ≠ [] := fun w hw => ne_nil_of_mem_nameWords hw
    rw [nameWords] at h
    split at h
    · simp_all
    · next v vs hv =>
      rw [hv] at ih
      split at h
      · rcases List.mem_cons.mp h with rfl | h
        · simp
        · exact ih w h
      · rcases List.mem_cons.mp h with rfl | h
        · simp
        · exact ih w (List.mem_cons_of_mem _ h)

/-- What a name in kebab case has in low characters is a hyphen, or the name had it. -/
theorem mem_of_mem_kebabCase {d : Char} (hd : IsLow d) {t : Text} (h : d ∈ kebabCase t) :
    d = '-' ∨ d ∈ t := by
  rcases mem_joinWith h with h | ⟨p, hp, h⟩
  · exact Or.inl (List.mem_singleton.mp h)
  · obtain ⟨w, hw, rfl⟩ := List.mem_map.mp hp
    exact Or.inr (mem_of_mem_nameWords hw (mem_of_mem_lower hd h))

theorem kebabCase_ne_nil {t : Text} (h : t ≠ []) : kebabCase t ≠ [] := by
  obtain ⟨w, ws, hws⟩ := List.exists_cons_of_ne_nil (nameWords_ne_nil h)
  have hw : lower w ≠ [] := lower_ne_nil (ne_nil_of_mem_nameWords (t := t) (by simp [hws]))
  rw [kebabCase, hws, List.map_cons]
  rcases eq_or_ne ws [] with rfl | hne
  · simpa [joinWith] using hw
  · rw [joinWith_cons _ _ (by simpa using hne)]
    simp

/-- Nothing but dots comes of nothing but the same dots. -/
theorem kebabCase_eq_self_of_dots {t : Text} (h : ∀ d ∈ kebabCase t, d = '.') :
    kebabCase t = t := by
  rcases eq_or_ne t [] with rfl | ht
  · rfl
  obtain ⟨w, ws, hws⟩ := List.exists_cons_of_ne_nil (nameWords_ne_nil ht)
  rcases eq_or_ne ws [] with rfl | hne
  · have hw : w = t := by simpa [hws] using flatten_nameWords t
    have hk : kebabCase t = lower t := by simp [kebabCase, hws, hw, joinWith]
    rw [hk] at h ⊢
    exact lowerAfter_eq_self_of_dots h
  · have hhyphen : '-' ∈ kebabCase t := by
      rw [kebabCase, hws, List.map_cons, joinWith_cons _ _ (by simpa using hne)]
      simp
    exact absurd (h _ hhyphen) (by decide)

theorem isName_kebabCase {t : Text} (h : IsName t) : IsName (kebabCase t) := by
  obtain ⟨hne, hdot, hdots, hslash⟩ := h
  refine ⟨kebabCase_ne_nil hne, fun hk => hdot ?_, fun hk => hdots ?_, fun hk => ?_⟩
  · rw [← hk, kebabCase_eq_self_of_dots (by simp [hk, dot])]
  · rw [← hk, kebabCase_eq_self_of_dots (by simp [hk, dotDot])]
  · rcases mem_of_mem_kebabCase (by decide) hk with h | h
    · exact absurd h (by decide)
    · exact hslash h

/-! ## Output folders and files -/

/-- What is known of a source file whatever it spells: its folder is made of names, and the name of
its model has no slash. -/
structure Foldered (folder name : Text) : Prop where
  folder : ∃ names, (∀ s ∈ names, IsName s) ∧ folder = joinWith ['/'] names
  name : '/' ∉ name

/-- How a style spells one segment of a folder. -/
def PathStyle.segment : PathStyle → Text → Text
  | default, s => s
  | kebab, s => kebabCase s

theorem PathStyle.isName_segment (style : PathStyle) {s : Text} (h : IsName s) :
    IsName (style.segment s) := by
  cases style with
  | default => exact h
  | kebab => exact isName_kebabCase h

/-- Names that are spelled in a style are names. -/
theorem PathStyle.isName_of_mem_map_segment (style : PathStyle) {names : List Text}
    (h : ∀ s ∈ names, IsName s) : ∀ s ∈ names.map style.segment, IsName s := by
  intro s hs
  obtain ⟨n, hn, rfl⟩ := List.mem_map.mp hs
  exact style.isName_segment (h n hn)

/-- The output folder of a folder is spelled segment by segment. -/
theorem PathStyle.directory_joinWith (style : PathStyle) {names : List Text}
    (h : ∀ s ∈ names, IsName s) :
    style.directory (joinWith ['/'] names) = joinWith ['/'] (names.map style.segment) := by
  cases style with
  | default =>
    rw [show default.segment = id from rfl, List.map_id]
    rfl
  | kebab =>
    rcases eq_or_ne names [] with rfl | hne
    · rfl
    · rw [show kebab.segment = kebabCase from rfl, directory, kebabCasePath,
        splitOn_joinWith hne fun s hs => (h s hs).2.2.2]

/-- The segments of the output folder of a folder. -/
theorem PathStyle.ofText_directory (style : PathStyle) {names : List Text}
    (h : ∀ s ∈ names, IsName s) :
    ofText (style.directory (joinWith ['/'] names)) = ⟨.relative, names.map style.segment⟩ := by
  rw [style.directory_joinWith h]
  exact ofText_joinWith_names (style.isName_of_mem_map_segment h)

/-- What a name in camel case has in low characters, the name had. -/
theorem mem_of_mem_camelCase {d : Char} (hd : IsLow d) {t : Text} (h : d ∈ camelCase t) :
    d ∈ t := by
  cases t with
  | nil => cases h
  | cons c r =>
    rw [camelCase] at h
    split at h
    · exact h
    · split at h
      · rcases List.mem_append.mp h with h | h
        · simp [eq_of_mem_lowerChar hd h]
        · exact List.mem_cons_of_mem _ h
      · exact mem_of_mem_lower hd h

theorem slash_notMem_camelCase {t : Text} (h : '/' ∉ t) : '/' ∉ camelCase t :=
  fun hc => h (mem_of_mem_camelCase (by decide) hc)

theorem slash_notMem_pascalCase {t : Text} (h : '/' ∉ t) : '/' ∉ pascalCase t := by
  cases t with
  | nil => simp [pascalCase]
  | cons c r =>
    rw [pascalCase]
    split
    · exact h
    · rw [List.mem_append, not_or]
      refine ⟨fun hc => h ?_, fun hr => h (List.mem_cons_of_mem _ hr)⟩
      simp [eq_of_mem_upperChar (by decide) hc]

theorem PathStyle.slash_notMem_fileStem (style : PathStyle) {t : Text} (h : '/' ∉ t) :
    '/' ∉ style.fileStem t := by
  cases style with
  | default => exact slash_notMem_camelCase h
  | kebab =>
    intro hk
    rcases mem_of_mem_kebabCase (by decide) hk with hk | hk
    · exact absurd hk (by decide)
    · exact h hk

end Typings
