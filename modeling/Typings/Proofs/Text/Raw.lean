import Typings.Text.Raw

/-!
# Raw text without surrogates

Raw text is text if and only if it holds no surrogate, and then it is shown as that text.
-/

namespace Typings.RawText

theorem ofText_append (s t : Text) : ofText (s ++ t) = ofText s ++ ofText t := List.map_append

/-- Raw text is text if it is one character after the other. -/
theorem text?_eq_some_iff {s : RawText} {t : Text} : text? s = some t ↔ s = ofText t := by
  induction s generalizing t with
  | nil => simp [text?, ofText, eq_comm]
  | cons p s ih =>
    rw [text?] at ih ⊢
    cases p with
    | surrogate n =>
      refine iff_of_false (by simp [CodePoint.char?]) ?_
      cases t <;> simp [ofText]
    | char c =>
      simp only [ofText] at ih
      cases t with
      | nil => simp [CodePoint.char?, Option.bind_eq_some_iff, ofText]
      | cons d t =>
        simp only [List.mapM_cons, CodePoint.char?, Option.bind_eq_bind, Option.bind_some,
          Option.bind_eq_some_iff, ih, ofText, List.map_cons, Option.pure_def, Option.some.injEq,
          List.cons.injEq, CodePoint.char.injEq]
        exact ⟨fun ⟨a, hs, hc, ha⟩ => ⟨hc, ha ▸ hs⟩, fun ⟨hc, hs⟩ => ⟨t, hs, hc, rfl⟩⟩

theorem text?_ofText (t : Text) : text? (ofText t) = some t := text?_eq_some_iff.mpr rfl

theorem ofText_inj {s t : Text} : ofText s = ofText t ↔ s = t := by
  rw [← text?_eq_some_iff, text?_ofText, Option.some.injEq]

theorem shown_ofText (t : Text) : shown (ofText t) = t := by
  rw [shown, ofText, List.map_map]
  exact List.map_id _

end Typings.RawText
