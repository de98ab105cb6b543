import Mathlib.Data.List.Basic
import Mathlib.Data.List.TakeWhile
import Typings.Text.Blank
import Typings.Text.Word

/-!
# The words of a text

A blank cuts the words of a text into those before it and those after it. Everything that is said of
words and of trimming here comes from that one equation.
-/

namespace Typings.Text

/-- A text without blanks. -/
def IsSolid (t : Text) : Prop := ∀ c ∈ t, isBlank c = false

/-- A text of blanks only, such as stands between two words. -/
def IsGap (t : Text) : Prop := ∀ c ∈ t, isBlank c = true

instance (t : Text) : Decidable (IsSolid t) :=
  List.decidableBAll (fun c => isBlank c = false) t

instance (t : Text) : Decidable (IsGap t) :=
  List.decidableBAll (fun c => isBlank c = true) t

@[simp] theorem isSolid_nil : IsSolid [] := by simp [IsSolid]

@[simp] theorem isGap_nil : IsGap [] := by simp [IsGap]

theorem isSolid_cons {c : Char} {t : Text} :
    IsSolid (c :: t) ↔ isBlank c = false ∧ IsSolid t := by
  simp [IsSolid]

theorem isGap_cons {c : Char} {t : Text} : IsGap (c :: t) ↔ isBlank c = true ∧ IsGap t := by
  simp [IsGap]

theorem isSolid_append {s t : Text} : IsSolid (s ++ t) ↔ IsSolid s ∧ IsSolid t := by
  simp only [IsSolid, List.mem_append, or_imp, forall_and]

theorem isGap_append {s t : Text} : IsGap (s ++ t) ↔ IsGap s ∧ IsGap t := by
  simp only [IsGap, List.mem_append, or_imp, forall_and]

/-- The code points of blanks. -/
def blankCodes : List Nat :=
  [9, 10, 11, 12, 13, 28, 29, 30, 31, 32, 0x85, 0xA0, 0x1680, 0x2000, 0x2001, 0x2002, 0x2003,
   0x2004, 0x2005, 0x2006, 0x2007, 0x2008, 0x2009, 0x200A, 0x2028, 0x2029, 0x202F, 0x205F, 0x3000]

theorem toNat_mem_blankCodes {c : Char} (h : isBlank c = true) : c.toNat ∈ blankCodes := by
  simp only [isBlank, Bool.or_eq_true, Bool.and_eq_true, decide_eq_true_iff, beq_iff_eq] at h
  simp only [blankCodes, List.mem_cons, List.not_mem_nil, or_false]
  omega

/-- No blank is part of a name. -/
theorem isWordChar_of_isBlank {c : Char} (h : isBlank c = true) : isWordChar c = false := by
  have key : ∀ n ∈ blankCodes, isWordChar (Char.ofNat n) = false := by decide +kernel
  have := key _ (toNat_mem_blankCodes h)
  rwa [Char.ofNat_toNat] at this

/-! ## Words -/

theorem words_cons_blank {c : Char} (hc : isBlank c = true) (t : Text) :
    words (c :: t) = words t := by
  cases t with
  | nil => simp [words, hc]
  | cons d t => simp [words, hc]

/-- The first word goes up to the first blank. -/
theorem words_cons_solid {c : Char} (hc : isBlank c = false) (t : Text) :
    words (c :: t) = (c :: t.takeWhile fun d => !isBlank d)
      :: words (t.dropWhile fun d => !isBlank d) := by
  induction t generalizing c with
  | nil => simp [words, hc]
  | cons d t ih =>
    cases hd : isBlank d with
    | true => simp [words, hc, hd, words_cons_blank]
    | false => simp [words, hc, hd, ih hd]

/-- A blank cuts the words of a text. -/
theorem words_append_blank {c : Char} (hc : isBlank c = true) (s t : Text) :
    words (s ++ c :: t) = words s ++ words t := by
  induction s with
  | nil => simp [words, words_cons_blank hc]
  | cons d s ih =>
    cases hd : isBlank d with
    | true => rw [List.cons_append, words_cons_blank hd, words_cons_blank hd, ih]
    | false =>
      cases s with
      | nil => simp [words, hd, hc, words_cons_blank hc]
      | cons e s =>
        rw [List.cons_append] at ih ⊢
        rw [List.cons_append, words, words, ih]
        cases he : isBlank e with
        | true => simp [hd]
        | false => simp [hd, words_cons_solid he]

/-- A gap in front belongs to no word. -/
theorem words_gap_append {b : Text} (hb : IsGap b) (t : Text) : words (b ++ t) = words t := by
  induction b with
  | nil => rfl
  | cons c b ih =>
    obtain ⟨hc, hb⟩ := isGap_cons.mp hb
    rw [List.cons_append, words_cons_blank hc, ih hb]

/-- A gap that is there cuts the words of a text. -/
theorem words_append_gap {b : Text} (hb : IsGap b) (hne : b ≠ []) (s t : Text) :
    words (s ++ b ++ t) = words s ++ words t := by
  obtain ⟨c, b, rfl⟩ := List.exists_cons_of_ne_nil hne
  obtain ⟨hc, hb⟩ := isGap_cons.mp hb
  rw [List.append_assoc, List.cons_append, words_append_blank hc, words_gap_append hb]

theorem words_of_isGap {b : Text} (hb : IsGap b) : words b = [] := by
  simpa [words] using words_gap_append hb []

/-- A gap at the end belongs to no word. -/
theorem words_append_gap_end {b : Text} (hb : IsGap b) (t : Text) : words (t ++ b) = words t := by
  by_cases hne : b = []
  · rw [hne, List.append_nil]
  · have h := words_append_gap hb hne t []
    simpa [words] using h

/-- A text that ends with a blank, if at all, has its words apart from those behind it. -/
theorem words_append_of_getLast? {s : Text} (hs : ∀ c ∈ s.getLast?, isBlank c = true) (t : Text) :
    words (s ++ t) = words s ++ words t := by
  rcases List.eq_nil_or_concat s with rfl | ⟨s, c, rfl⟩
  · rfl
  · have hc : isBlank c = true := hs c (by simp)
    have hgap : IsGap [c] := isGap_cons.mpr ⟨hc, isGap_nil⟩
    rw [List.concat_eq_append, words_append_gap hgap (by simp), words_append_gap_end hgap]

/-- A text without blanks is one word. -/
theorem words_of_isSolid {t : Text} (ht : IsSolid t) (hne : t ≠ []) : words t = [t] := by
  obtain ⟨c, t, rfl⟩ := List.exists_cons_of_ne_nil hne
  obtain ⟨hc, ht⟩ := isSolid_cons.mp ht
  have hall : ∀ d ∈ t, (!isBlank d) = true := fun d hd => by rw [ht d hd]; rfl
  rw [words_cons_solid hc, List.takeWhile_eq_self_iff.mpr hall, List.dropWhile_eq_nil_iff.mpr hall,
    words]

/-- A text without blanks goes to the front of the first word. -/
theorem words_solid_append {w : Text} (hw : IsSolid w) (hne : w ≠ []) (t : Text) :
    words (w ++ t) = (w ++ t.takeWhile fun d => !isBlank d)
      :: words (t.dropWhile fun d => !isBlank d) := by
  obtain ⟨c, w, rfl⟩ := List.exists_cons_of_ne_nil hne
  obtain ⟨hc, hw⟩ := isSolid_cons.mp hw
  have hall : ∀ d ∈ w, (!isBlank d) = true := fun d hd => by rw [hw d hd]; rfl
  rw [List.cons_append, words_cons_solid hc, List.takeWhile_append_of_pos hall,
    List.dropWhile_append_of_pos hall]
  rfl

/-- A text without blanks in front of a gap is the first word. -/
theorem words_solid_gap {w b : Text} (hw : IsSolid w) (hne : w ≠ []) (hb : IsGap b) (hb' : b ≠ [])
    (t : Text) : words (w ++ b ++ t) = w :: words t := by
  rw [words_append_gap hb hb', words_of_isSolid hw hne]
  rfl

/-- Every word is a text without blanks, and not empty. -/
theorem isSolid_of_mem_words {t w : Text} (h : w ∈ words t) : IsSolid w ∧ w ≠ [] := by
  induction t generalizing w with
  | nil => simp [words] at h
  | cons c t ih =>
    cases hc : isBlank c with
    | true =>
      rw [words_cons_blank hc] at h
      exact ih h
    | false =>
      -- the first word goes on with the first word of the rest, or ends before a blank
      cases t with
      | nil =>
        obtain rfl : w = [c] := by simpa [words, hc] using h
        exact ⟨isSolid_cons.mpr ⟨hc, isSolid_nil⟩, by simp⟩
      | cons d t =>
        cases hd : isBlank d with
        | true =>
          rw [words, if_neg (by simp [hc]), if_pos hd, List.mem_cons] at h
          rcases h with rfl | h
          · exact ⟨isSolid_cons.mpr ⟨hc, isSolid_nil⟩, by simp⟩
          · exact ih h
        | false =>
          rw [words, if_neg (by simp [hc]), if_neg (by simp [hd]), words_cons_solid hd,
            List.mem_cons] at h
          rw [words_cons_solid hd] at ih
          rcases h with rfl | h
          · exact ⟨isSolid_cons.mpr ⟨hc, (ih List.mem_cons_self).1⟩, by simp⟩
          · exact ih (List.mem_cons_of_mem _ h)

/-- A text without words is blank. -/
theorem words_eq_nil_iff {t : Text} : words t = [] ↔ isBlankText t = true := by
  constructor
  · intro h
    rw [isBlankText, List.all_eq_true]
    induction t with
    | nil => simp
    | cons c t ih =>
      cases hc : isBlank c with
      | true =>
        rw [words_cons_blank hc] at h
        exact List.forall_mem_cons.mpr ⟨hc, ih h⟩
      | false =>
        rw [words_cons_solid hc] at h
        cases h
  · intro h
    exact words_of_isGap (List.all_eq_true.mp h)

/-- The first word starts where the blanks in front end. -/
theorem head?_eq_of_mem_head?_words {t w : Text} (h : w ∈ (words t).head?) :
    w.head? = (trimStart t).head? := by
  induction t with
  | nil => simp [words] at h
  | cons c t ih =>
    cases hc : isBlank c with
    | true =>
      rw [words_cons_blank hc] at h
      rw [ih h, trimStart, trimStart, List.dropWhile_cons_of_pos hc]
    | false =>
      rw [words_cons_solid hc] at h
      cases h
      rw [trimStart, List.dropWhile_cons_of_neg (by simp [hc])]
      rfl

/-! ## Words and gaps -/

/-- Words with gaps between them, spelled out from the first character of the first word to the last
of the last one. -/
inductive Spaced : List Text → Text → Prop
  | one {w : Text} : IsSolid w → w ≠ [] → Spaced [w] w
  | cons {w b t : Text} {ws : List Text} : IsSolid w → w ≠ [] → IsGap b → b ≠ [] → Spaced ws t →
      Spaced (w :: ws) (w ++ b ++ t)

namespace Spaced

variable {ws : List Text} {t : Text}

/-- There is a first word, and the text goes on after it. -/
theorem exists_cons (h : Spaced ws t) :
    ∃ w vs s, ws = w :: vs ∧ IsSolid w ∧ w ≠ [] ∧ t = w ++ s := by
  cases h with
  | one hw hne => exact ⟨t, [], [], rfl, hw, hne, by simp⟩
  | @cons w b t ws hw hne hb hb' h => exact ⟨w, ws, b ++ t, rfl, hw, hne, by simp⟩

/-- The words that are spelled out are the words of the text. -/
theorem words_eq (h : Spaced ws t) : words t = ws := by
  induction h with
  | one hw hne => exact words_of_isSolid hw hne
  | cons hw hne hb hb' _ ih => rw [words_solid_gap hw hne hb hb', ih]

/-- A character is a blank or in one of the words. -/
theorem mem (h : Spaced ws t) {c : Char} (hc : c ∈ t) : isBlank c = true ∨ ∃ w ∈ ws, c ∈ w := by
  induction h with
  | one => exact Or.inr ⟨_, by simp, hc⟩
  | @cons w b t ws hw hne hb hb' h ih =>
    rcases List.mem_append.mp hc with hc | hc
    · rcases List.mem_append.mp hc with hc | hc
      · exact Or.inr ⟨w, by simp, hc⟩
      · exact Or.inl (hb c hc)
    · rcases ih hc with hc | ⟨v, hv, hc⟩
      · exact Or.inl hc
      · exact Or.inr ⟨v, List.mem_cons_of_mem _ hv, hc⟩

/-- A character of a word is in the text. -/
theorem mem_of_mem_word (h : Spaced ws t) {w : Text} (hw : w ∈ ws) {c : Char} (hc : c ∈ w) :
    c ∈ t := by
  induction h with
  | one => exact List.mem_singleton.mp hw ▸ hc
  | cons _ _ _ _ _ ih =>
    rcases List.mem_cons.mp hw with rfl | hw
    · exact List.mem_append_left _ (List.mem_append_left _ hc)
    · exact List.mem_append_right _ (ih hw)

/-- The text ends with the last word. -/
theorem getLast?_eq (h : Spaced ws t) : ∀ w ∈ ws.getLast?, w.getLast? = t.getLast? := by
  induction h with
  | one => simp
  | @cons w b t ws _ _ _ _ h ih =>
    obtain ⟨v, vs, s, rfl, -, hv, rfl⟩ := h.exists_cons
    rw [List.getLast?_cons_cons, List.getLast?_append_of_ne_nil _ (by simp [hv])]
    exact ih

end Spaced

/-- Apart from the blanks at its ends, a text that is not blank is its words with gaps between
them. -/
theorem exists_spaced {t : Text} (h : isBlankText t = false) :
    ∃ b s b', IsGap b ∧ Spaced (words t) s ∧ IsGap b' ∧ t = b ++ (s ++ b') := by
  -- each step takes the first word and the gap behind it away
  induction hn : t.length using Nat.strong_induction_on generalizing t with
  | _ n ih =>
    subst hn
    cases t with
    | nil => cases h
    | cons c t =>
      cases hc : isBlank c with
      | true =>
        have ht : isBlankText t = false := by simpa [isBlankText, hc] using h
        obtain ⟨b, s, b', hb, hs, hb', heq⟩ := ih t.length (by simp) ht rfl
        rw [words_cons_blank hc]
        exact ⟨c :: b, s, b', isGap_cons.mpr ⟨hc, hb⟩, hs, hb', by rw [heq]; rfl⟩
      | false =>
        have hw : IsSolid (c :: t.takeWhile fun d => !isBlank d) := by
          refine isSolid_cons.mpr ⟨hc, fun d hd => ?_⟩
          simpa using List.mem_takeWhile_imp hd
        have hcut : c :: t = (c :: t.takeWhile fun d => !isBlank d)
            ++ t.dropWhile fun d => !isBlank d := by
          rw [List.cons_append, List.takeWhile_append_dropWhile]
        rw [words_cons_solid hc]
        by_cases hrest : isBlankText (t.dropWhile fun d => !isBlank d) = true
        · rw [words_eq_nil_iff.mpr hrest]
          exact ⟨[], _, _, isGap_nil, .one hw (by simp), List.all_eq_true.mp hrest, hcut⟩
        · have hlength : (t.dropWhile fun d => !isBlank d).length < (c :: t).length :=
            Nat.lt_succ_of_le (List.dropWhile_sublist _).length_le
          obtain ⟨b, s, b', hb, hs, hb', heq⟩ := ih _ hlength (by simpa using hrest) rfl
          -- what is left starts with a blank, so there is a gap
          have hne : b ≠ [] := by
            rintro rfl
            obtain ⟨w, -, r, -, hsolid, hw', rfl⟩ := hs.exists_cons
            obtain ⟨d, w, rfl⟩ := List.exists_cons_of_ne_nil hw'
            have hd := List.head?_dropWhile_not (fun d => !isBlank d) t
            rw [heq] at hd
            simp [(isSolid_cons.mp hsolid).1] at hd
          refine ⟨[], _, b', isGap_nil, .cons hw (by simp) hb hne hs, hb', ?_⟩
          rw [hcut]
          simp only [heq, List.nil_append, List.append_assoc]

/-- The characters of a text, blanks excepted, are those of its words. -/
theorem mem_iff_exists_words {c : Char} (hc : isBlank c = false) {t : Text} :
    c ∈ t ↔ ∃ w ∈ words t, c ∈ w := by
  by_cases ht : isBlankText t = true
  · rw [words_eq_nil_iff.mpr ht]
    have hmem : c ∉ t := fun hmem => by
      rw [List.all_eq_true.mp ht c hmem] at hc
      cases hc
    simp [hmem]
  · obtain ⟨b, s, b', hb, hs, hb', heq⟩ := exists_spaced (by simpa using ht)
    have hgap : ∀ {g : Text}, IsGap g → c ∉ g := fun hg hmem => by
      rw [hg c hmem] at hc
      cases hc
    constructor
    · intro hmem
      have hs' : c ∈ s := by
        rw [heq, List.mem_append, List.mem_append] at hmem
        exact (hmem.resolve_left (hgap hb)).resolve_right (hgap hb')
      exact (hs.mem hs').resolve_left (by simp [hc])
    · rintro ⟨w, hw, hmem⟩
      rw [heq]
      exact List.mem_append_right _ (List.mem_append_left _ (hs.mem_of_mem_word hw hmem))

/-- The last word goes up to the end of a text that does not end with a blank. -/
theorem getLast?_eq_of_mem_getLast?_words {t w : Text} (h : w ∈ (words t).getLast?) {c : Char}
    (hlast : t.getLast? = some c) (hc : isBlank c = false) : w.getLast? = some c := by
  have ht : isBlankText t = false := by
    rw [← Bool.not_eq_true, ← words_eq_nil_iff]
    intro hnil
    rw [hnil] at h
    cases h
  obtain ⟨b, s, b', -, hs, hb', heq⟩ := exists_spaced ht
  obtain rfl : b' = [] := by
    by_contra hne
    rw [heq, ← List.append_assoc, List.getLast?_append_of_ne_nil _ hne] at hlast
    rw [hb' c (List.mem_of_getLast? hlast)] at hc
    cases hc
  obtain ⟨v, vs, r, -, -, hv, rfl⟩ := hs.exists_cons
  have hne : v ++ r ≠ [] := by simp [hv]
  rw [hs.getLast?_eq w h, ← hlast, heq, List.append_nil, List.getLast?_append_of_ne_nil b hne]

/-! ## Trimming -/

theorem trimStart_gap_append {b : Text} (hb : IsGap b) (t : Text) :
    trimStart (b ++ t) = trimStart t :=
  List.dropWhile_append_of_pos hb

theorem trimStart_of_isGap {b : Text} (hb : IsGap b) : trimStart b = [] := by
  simpa [trimStart] using trimStart_gap_append hb []

theorem trimStart_of_head? {t : Text} (h : ∀ c ∈ t.head?, isBlank c = false) (hne : t ≠ [])
    (s : Text) : trimStart (t ++ s) = t ++ s := by
  obtain ⟨c, t, rfl⟩ := List.exists_cons_of_ne_nil hne
  rw [trimStart, List.cons_append, List.dropWhile_cons_of_neg]
  simp [h c rfl]

theorem trimStart_of_isSolid {t : Text} (ht : IsSolid t) (s : Text) (hne : t ≠ []) :
    trimStart (t ++ s) = t ++ s :=
  trimStart_of_head? (fun c hc => ht c (List.mem_of_head? hc)) hne s

theorem trimEnd_of_getLast? {t : Text} (h : ∀ c ∈ t.getLast?, isBlank c = false) :
    trimEnd t = t := by
  induction t with
  | nil => rfl
  | cons c t ih =>
    rw [trimEnd]
    cases t with
    | nil => simp [trimEnd, h c rfl]
    | cons d t => rw [ih fun e he => h e (by rwa [List.getLast?_cons_cons])]

theorem trimEnd_of_isGap {b : Text} (hb : IsGap b) : trimEnd b = [] := by
  induction b with
  | nil => rfl
  | cons c b ih =>
    obtain ⟨hc, hb⟩ := isGap_cons.mp hb
    simp [trimEnd, ih hb, hc]

theorem trimEnd_append_gap {b : Text} (hb : IsGap b) (t : Text) :
    trimEnd (t ++ b) = trimEnd t := by
  induction t with
  | nil => rw [List.nil_append, trimEnd_of_isGap hb, trimEnd]
  | cons c t ih => rw [List.cons_append, trimEnd, trimEnd, ih]

/-- Gaps at both ends are trimmed away up to the first and the last character that is no blank. -/
theorem trim_between {b b' t : Text} (hb : IsGap b) (hb' : IsGap b')
    (hhead : ∀ c ∈ t.head?, isBlank c = false) (hlast : ∀ c ∈ t.getLast?, isBlank c = false) :
    trim (b ++ t ++ b') = t := by
  rw [trim, List.append_assoc, trimStart_gap_append hb]
  by_cases hne : t = []
  · rw [hne, List.nil_append, trimStart_of_isGap hb', trimEnd]
  · rw [trimStart_of_head? hhead hne, trimEnd_append_gap hb', trimEnd_of_getLast? hlast]

/-- Gaps at both ends are trimmed away from a text without blanks. -/
theorem trim_gaps {b b' t : Text} (hb : IsGap b) (hb' : IsGap b') (ht : IsSolid t) :
    trim (b ++ t ++ b') = t :=
  trim_between hb hb' (fun c hc => ht c (List.mem_of_head? hc))
    fun c hc => ht c (List.mem_of_getLast? hc)

/-- Behind what is left there was a gap. -/
theorem exists_trimEnd_append (t : Text) : ∃ b, IsGap b ∧ t = trimEnd t ++ b := by
  induction t with
  | nil => exact ⟨[], isGap_nil, rfl⟩
  | cons c t ih =>
    obtain ⟨b, hb, ht⟩ := ih
    rw [trimEnd]
    split
    · next hnil =>
      rw [hnil, List.nil_append] at ht
      split
      · next hc => exact ⟨c :: t, isGap_cons.mpr ⟨hc, ht ▸ hb⟩, rfl⟩
      · exact ⟨b, hb, by rw [ht]; rfl⟩
    · next d s hs =>
      rw [hs] at ht
      exact ⟨b, hb, by rw [ht]; rfl⟩

/-- Around what is left there were gaps. -/
theorem exists_gaps_trim (t : Text) : ∃ b b', IsGap b ∧ IsGap b' ∧ t = b ++ trim t ++ b' := by
  obtain ⟨b', hb', hend⟩ := exists_trimEnd_append (trimStart t)
  refine ⟨t.takeWhile isBlank, b', fun c hc => List.mem_takeWhile_imp hc, hb', ?_⟩
  calc t = t.takeWhile isBlank ++ trimStart t := List.takeWhile_append_dropWhile.symm
    _ = t.takeWhile isBlank ++ (trim t ++ b') := by rw [trim, ← hend]
    _ = t.takeWhile isBlank ++ trim t ++ b' := (List.append_assoc ..).symm

/-- Trimming leaves the words alone. -/
theorem words_trim (t : Text) : words (trim t) = words t := by
  obtain ⟨b, b', hb, hb', heq⟩ := exists_gaps_trim t
  calc words (trim t) = words (trim t ++ b') := (words_append_gap_end hb' _).symm
    _ = words (b ++ trim t ++ b') := by rw [List.append_assoc, words_gap_append hb]
    _ = words t := by rw [← heq]

/-- A text without blanks is not trimmed. -/
theorem trim_of_isSolid {t : Text} (ht : IsSolid t) : trim t = t := by
  simpa using trim_gaps isGap_nil isGap_nil ht

/-- A single word is all that is left of its text. -/
theorem trim_of_words {t w : Text} (h : words t = [w]) : trim t = w := by
  have ht : isBlankText t = false := by
    rw [← Bool.not_eq_true, ← words_eq_nil_iff, h]
    exact List.cons_ne_nil _ _
  obtain ⟨b, s, b', hb, hs, hb', heq⟩ := exists_spaced ht
  rw [h] at hs
  cases hs with
  | one hw => rw [heq, ← List.append_assoc, trim_gaps hb hb' hw]
  | cons _ _ _ _ hnil => cases hnil

end Typings.Text
