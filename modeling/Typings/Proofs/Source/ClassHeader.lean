import Typings.Proofs.Source.Layout
import Typings.Proofs.Source.NestedType

/-!
# Class headers

A class header names the class and, behind a colon, its bases, each perhaps with arguments in
brackets. Blanks may stand around the colon and around every comma. The commas draw all bases into
one token. Where no blank is in front of them, the colon is part of that token, and where there is
none in front of the colon either, so is the name of the class.
-/

namespace Typings.Source

open Text

/-! ## Bases -/

/-- What may stand between the brackets of a generic type: names, marks, commas with blanks around
them, and balanced brackets. -/
inductive Arguments where
  | nil
  | char (c : { c : Char // isNameChar c = true ∨ c ∈ ['?', '[', ']'] }) (rest : Arguments)
  | comma (before after : { b : Text // IsGap b }) (rest : Arguments)
  | brackets (inner rest : Arguments)

/-- The characters of a generic type: those of names, marks, and blanks. -/
def IsTypeChar (c : Char) : Prop :=
  isNameChar c = true ∨ c ∈ ',' :: typeMarks ∨ isBlank c = true

instance (c : Char) : Decidable (IsTypeChar c) :=
  inferInstanceAs (Decidable (_ ∨ _ ∨ _))

namespace Arguments

/-- How the arguments are written. -/
def text : Arguments → Text
  | nil => []
  | char c rest => c.1 :: rest.text
  | comma before after rest => before.1 ++ ',' :: after.1 ++ rest.text
  | brackets inner rest => '<' :: (inner.text ++ '>' :: rest.text)

/-- How the arguments are written without blanks. -/
def token : Arguments → Text
  | nil => []
  | char c rest => c.1 :: rest.token
  | comma _ _ rest => ',' :: rest.token
  | brackets inner rest => '<' :: (inner.token ++ '>' :: rest.token)

theorem continues_text (a : Arguments) : Continues a.text a.token := by
  have hsolid : ∀ {c : Char}, isBlank c = false → Continues [c] [c] := fun hc =>
    .of_isSolid (isSolid_cons.mpr ⟨hc, isSolid_nil⟩)
  induction a with
  | nil => exact .of_isSolid isSolid_nil
  | char c rest ih =>
    have hblank : isBlank c.1 = false := by
      rcases c.2 with hname | hmark
      · exact isSolid_of_nameChars (t := [c.1]) (by simpa using hname) c.1 (by simp)
      · have hmarks : IsSolid ['?', '[', ']'] := by decide
        exact hmarks c.1 hmark
    exact (hsolid hblank).append ih
  | comma before after rest ih => exact (Continues.comma before.2 after.2).append ih
  | brackets inner rest ihinner ihrest =>
    have hopen : Continues ['<'] ['<'] := hsolid (by decide)
    have hclose : Continues ['>'] ['>'] := hsolid (by decide)
    simpa [text, token] using hopen.append (ihinner.append (hclose.append ihrest))

theorem token_subset_text (a : Arguments) : a.token ⊆ a.text := by
  induction a with
  | nil => exact List.Subset.refl _
  | char c rest ih => exact List.cons_subset_cons _ ih
  | comma before after rest ih =>
    intro c hc
    simp only [token, text, List.mem_append, List.mem_cons] at hc ⊢
    rcases hc with rfl | hc
    · exact Or.inl (Or.inr (Or.inl rfl))
    · exact Or.inr (ih hc)
  | brackets inner rest ihinner ihrest =>
    intro c hc
    simp only [token, text, List.mem_append, List.mem_cons] at hc ⊢
    exact hc.imp_right fun hc => hc.imp (ihinner ·) fun hc => hc.imp_right (ihrest ·)

theorem isTypeChar_of_mem {a : Arguments} {c : Char} (h : c ∈ a.text) : IsTypeChar c := by
  induction a with
  | nil => cases h
  | char d rest ih =>
    rcases List.mem_cons.mp h with rfl | h
    · have hmarks : ['?', '[', ']'] ⊆ ',' :: typeMarks := by decide
      exact d.2.imp_right fun hmark => Or.inl (hmarks hmark)
    · exact ih h
  | comma before after rest ih =>
    simp only [text, List.mem_append, List.mem_cons] at h
    rcases h with (h | rfl | h) | h
    · exact Or.inr (Or.inr (before.2 c h))
    · exact Or.inr (Or.inl (by decide))
    · exact Or.inr (Or.inr (after.2 c h))
    · exact ih h
  | brackets inner rest ihinner ihrest =>
    simp only [text, List.mem_append, List.mem_cons] at h
    rcases h with rfl | h | rfl | h
    · exact Or.inr (Or.inl (by decide))
    · exact ihinner h
    · exact Or.inr (Or.inl (by decide))
    · exact ihrest h

end Arguments

/-- A base: a name that is no modifier, perhaps with arguments. -/
structure Base where
  name : QualifiedName
  free : name.text ∉ modifiers
  arguments : Option Arguments := none

namespace Base

/-- How the base is written. -/
def text (b : Base) : Text :=
  b.name.text ++ b.arguments.elim [] fun a => '<' :: (a.text ++ ['>'])

/-- How the base is written without blanks. -/
def token (b : Base) : Text :=
  b.name.text ++ b.arguments.elim [] fun a => '<' :: (a.token ++ ['>'])

variable (b : Base)

theorem continues_text : Continues b.text b.token := by
  have hname : Continues b.name.text b.name.text :=
    .of_isSolid (isSolid_of_nameChars b.name.nameChars)
  rw [text, token]
  cases b.arguments with
  | none => exact hname.append (.of_isSolid isSolid_nil)
  | some a =>
    have hopen : Continues ['<'] ['<'] := .of_isSolid (by decide)
    have hclose : Continues ['>'] ['>'] := .of_isSolid (by decide)
    exact hname.append (hopen.append (a.continues_text.append hclose))

theorem isTypeChar_of_mem {b : Base} {c : Char} (h : c ∈ b.text) : IsTypeChar c := by
  rw [text, List.mem_append] at h
  rcases h with h | h
  · exact Or.inl (b.name.nameChars c h)
  · cases harguments : b.arguments with
    | none =>
      rw [harguments] at h
      cases h
    | some a =>
      rw [harguments] at h
      simp only [Option.elim, List.mem_append, List.mem_cons, List.not_mem_nil, or_false] at h
      rcases h with rfl | h | rfl
      · exact Or.inr (Or.inl (by decide))
      · exact Arguments.isTypeChar_of_mem h
      · exact Or.inr (Or.inl (by decide))

theorem token_subset_text : b.token ⊆ b.text := by
  intro c hc
  rw [token, List.mem_append] at hc
  rw [text, List.mem_append]
  refine hc.imp_right fun hc => ?_
  cases harguments : b.arguments with
  | none => rwa [harguments] at hc
  | some a =>
    rw [harguments] at hc
    simp only [Option.elim, List.mem_cons, List.mem_append] at hc ⊢
    exact hc.imp_right fun hc => hc.imp_left (a.token_subset_text ·)

/-- A base ends with a name or a bracket. -/
theorem exists_getLast?_text : ∃ c, b.text.getLast? = some c ∧ isBlank c = false ∧ c ≠ ',' := by
  rw [text]
  cases b.arguments with
  | none =>
    have hlast := List.getLast?_eq_some_getLast b.name.ne_nil
    have hmem := List.mem_of_getLast? hlast
    refine ⟨_, by simpa using hlast, isSolid_of_nameChars b.name.nameChars _ hmem, fun hcomma => ?_⟩
    exact notMem_of_nameChars b.name.nameChars (by simp) (hcomma ▸ hmem)
  | some a => exact ⟨'>', by simp [List.getLast?_cons], by decide⟩

end Base

/-- Bases with commas between them, and blanks around the commas. -/
structure Bases where
  first : Base
  others : List ({ b : Text // IsGap b } × { b : Text // IsGap b } × Base) := []

namespace Bases

/-- All bases, in order. -/
def all (bs : Bases) : List Base := bs.first :: bs.others.map fun other => other.2.2

/-- How the bases are written. -/
def text (bs : Bases) : Text :=
  bs.first.text
    ++ bs.others.flatMap fun other => other.1.1 ++ ',' :: other.2.1.1 ++ other.2.2.text

/-- How the bases are written without blanks. -/
def token (bs : Bases) : Text :=
  bs.first.token ++ bs.others.flatMap fun other => ',' :: other.2.2.token

variable (bs : Bases)

theorem continues_text : Continues bs.text bs.token := by
  refine bs.first.continues_text.append ?_
  induction bs.others with
  | nil => exact .of_isSolid isSolid_nil
  | cons other others ih =>
    rw [List.flatMap_cons, List.flatMap_cons]
    exact ((Continues.comma other.1.2 other.2.1.2).append other.2.2.continues_text).append ih

theorem isTypeChar_of_mem {bs : Bases} {c : Char} (h : c ∈ bs.text) : IsTypeChar c := by
  rw [text, List.mem_append] at h
  rcases h with h | h
  · exact Base.isTypeChar_of_mem h
  · obtain ⟨other, -, h⟩ := List.mem_flatMap.mp h
    simp only [List.mem_append, List.mem_cons] at h
    rcases h with (h | rfl | h) | h
    · exact Or.inr (Or.inr (other.1.2 c h))
    · exact Or.inr (Or.inl (by decide))
    · exact Or.inr (Or.inr (other.2.1.2 c h))
    · exact Base.isTypeChar_of_mem h

/-- The bases end with the last of them. -/
theorem exists_getLast?_text : ∃ c, bs.text.getLast? = some c ∧ isBlank c = false ∧ c ≠ ',' := by
  rw [text]
  rcases List.eq_nil_or_concat bs.others with hnil | ⟨others, other, hconcat⟩
  · simpa [hnil] using bs.first.exists_getLast?_text
  · obtain ⟨c, hlast, hc⟩ := other.2.2.exists_getLast?_text
    refine ⟨c, ?_, hc⟩
    rw [hconcat, List.concat_eq_append, List.flatMap_append, List.flatMap_singleton,
      ← List.append_assoc, ← List.append_assoc, List.getLast?_append, hlast]
    rfl

/-- The bases are one token, together with what no blank keeps apart from them. -/
theorem isDrawn_append_text {s : Text} (hs : IsSolid s) (hcomma : ',' ∉ s) :
    IsDrawn (s ++ bs.text) (s ++ bs.token) := by
  obtain ⟨d, r, hname, hd⟩ := bs.first.name.exists_eq_cons
  have hsolid := isSolid_of_nameChars bs.first.name.nameChars d (by simp [hname])
  have hne : d ≠ ',' := by
    rintro rfl
    exact absurd hd (by decide)
  have hfirst : ∃ c r, s ++ bs.text = c :: r ∧ isBlank c = false ∧ c ≠ ',' := by
    cases s with
    | nil => exact ⟨d, _, by rw [text, Base.text, hname]; rfl, hsolid, hne⟩
    | cons c s => exact ⟨c, _, rfl, (isSolid_cons.mp hs).1, fun h => hcomma (by simp [h])⟩
  obtain ⟨c, hlast, hc⟩ := bs.exists_getLast?_text
  refine ((Continues.of_isSolid hs).append bs.continues_text).isDrawn hfirst ⟨c, ?_, hc⟩
  rw [List.getLast?_append, hlast]
  rfl

/-- With more than one base, there is a comma in their token. -/
theorem notMem_modifiers : bs.token ∉ modifiers := by
  have key : ∀ w ∈ modifiers, ',' ∉ w ∧ '<' ∉ w := by decide
  intro hmem
  cases hothers : bs.others with
  | nil =>
    cases harguments : bs.first.arguments with
    | none => exact bs.first.free (by simpa [token, Base.token, hothers, harguments] using hmem)
    | some a => exact (key _ hmem).2 (by simp [token, Base.token, harguments])
  | cons other others => exact (key _ hmem).1 (by simp [token, hothers])

end Bases

/-! ## Headers -/

/-- A text whose words are drawn into one token is the last token of a line if it stands apart from
what is in front of it. -/
theorem getLast?_tokensOf {x z token b : Text} (hx : ∀ c ∈ x.getLast?, isBlank c = true)
    (hcomma : ',' ∉ x) (hz : IsDrawn z token) (hfree : token ∉ modifiers) (hb : IsGap b) :
    (tokensOf (x ++ (z ++ b))).getLast? = some token := by
  have hlast : ∀ w ∈ (words x).getLast?, w.getLast? ≠ some ',' := by
    intro w hw hget
    exact hcomma ((mem_iff_exists_words (by decide)).mpr
      ⟨w, List.mem_of_getLast? hw, List.mem_of_getLast? hget⟩)
  have hjoin := @IsDrawn.joinAtCommas_eq _ _ hz _ [] hlast (by simp)
  rw [List.append_nil] at hjoin
  have hkept : List.filter (fun w => !modifiers.contains w) [token] = [token] :=
    List.filter_cons_of_pos (by simpa using hfree)
  rw [tokensOf, words_append_of_getLast? hx, words_append_gap_end hb, hjoin, joinAtCommas,
    List.filter_append, hkept, List.getLast?_concat]

/-- The header of a class: everything up to its name, which ends with the keyword, the name, a colon
and the bases, with blanks around the colon and at the end. -/
structure ClassHeader where
  front : Text
  nameChars : ∀ w ∈ words front, ∀ c ∈ w, isNameChar c = true
  keyword : (words front).getLast? = some "class".toList
  apart : ∀ c ∈ front.getLast?, isBlank c = true
  name : QualifiedName
  before : { b : Text // IsGap b }
  after : { b : Text // IsGap b }
  bases : Bases
  closing : { b : Text // IsGap b }

namespace ClassHeader

variable (h : ClassHeader)

/-- How the header is written. -/
def text : Text :=
  h.front ++ (h.name.text ++ h.before.1 ++ ':' :: h.after.1 ++ h.bases.text ++ h.closing.1)

/-- The last token of the header: the bases, with what no blank keeps apart from them. -/
def lastToken : Text :=
  if h.after.1 ≠ [] then h.bases.token
  else if h.before.1 ≠ [] then ':' :: h.bases.token
  else h.name.text ++ ':' :: h.bases.token

theorem isSolid_name : IsSolid h.name.text := isSolid_of_nameChars h.name.nameChars

theorem comma_notMem_front : ',' ∉ h.front := by
  rw [mem_iff_exists_words (by decide)]
  rintro ⟨w, hw, hmem⟩
  exact notMem_of_nameChars (h.nameChars w hw) (by simp) hmem

/-- The commas draw the bases together, and up to the next gap what is in front of them. -/
theorem getLast?_tokensOf_text : (tokensOf h.text).getLast? = some h.lastToken := by
  have hname : ',' ∉ h.name.text := notMem_of_nameChars h.name.nameChars (by simp)
  have hgap : ∀ b : { b : Text // IsGap b }, ',' ∉ b.1 := fun b hmem =>
    absurd (b.2 ',' hmem) (by decide)
  have hlast : ∀ {s : Text} {b : { b : Text // IsGap b }}, b.1 ≠ [] →
      ∀ c ∈ (s ++ b.1).getLast?, isBlank c = true := by
    intro s b hb c hc
    rw [List.getLast?_append_of_ne_nil _ hb] at hc
    exact b.2 c (List.mem_of_getLast? hc)
  have hmarked : ∀ {s : Text}, ':' ∈ s → s ∉ modifiers := by
    have key : ∀ w ∈ modifiers, ':' ∉ w := by decide
    intro s hs hmem
    exact key s hmem hs
  rw [lastToken]
  by_cases hafter : h.after.1 = []
  · by_cases hbefore : h.before.1 = []
    · have hsolid : IsSolid (h.name.text ++ [':']) :=
        isSolid_append.mpr ⟨h.isSolid_name, by decide⟩
      have hdrawn := h.bases.isDrawn_append_text hsolid (by simpa using hname)
      have htext : h.text = h.front ++ ((h.name.text ++ [':'] ++ h.bases.text) ++ h.closing.1) := by
        simp [text, hafter, hbefore]
      rw [if_neg (not_not.mpr hafter), if_neg (not_not.mpr hbefore), htext,
        getLast?_tokensOf h.apart h.comma_notMem_front hdrawn (hmarked (by simp)) h.closing.2,
        List.append_assoc, List.singleton_append]
    · have hdrawn := @Bases.isDrawn_append_text h.bases [':'] (by decide) (by decide)
      have htext : h.text = (h.front ++ h.name.text ++ h.before.1)
          ++ (([':'] ++ h.bases.text) ++ h.closing.1) := by
        simp [text, hafter]
      rw [if_neg (not_not.mpr hafter), if_pos hbefore, htext, getLast?_tokensOf (hlast hbefore)
        (by simp [h.comma_notMem_front, hname, hgap]) hdrawn (hmarked (by simp)) h.closing.2]
      rfl
  · have hdrawn := @Bases.isDrawn_append_text h.bases [] (by decide) (by decide)
    have htext : h.text = (h.front ++ h.name.text ++ h.before.1 ++ [':'] ++ h.after.1)
        ++ (([] ++ h.bases.text) ++ h.closing.1) := by
      simp [text]
    rw [if_pos hafter, htext, getLast?_tokensOf (hlast hafter)
      (by simp [h.comma_notMem_front, hname, hgap]) hdrawn h.bases.notMem_modifiers h.closing.2]
    rfl

/-! ### Kinds -/

/-- No bracket opens a body in the header. -/
theorem brace_notMem_text : '\x7b' ∉ h.text := by
  have hbrace : ¬IsTypeChar '\x7b' := by decide
  have hno : ∀ {t : Text}, (∀ c ∈ t, IsTypeChar c) → '\x7b' ∉ t := fun ht hmem =>
    hbrace (ht _ hmem)
  have hfront : '\x7b' ∉ h.front := by
    rw [mem_iff_exists_words (by decide)]
    rintro ⟨w, hw, hmem⟩
    exact hno (fun c hc => Or.inl (h.nameChars w hw c hc)) hmem
  have hgap : ∀ b : { b : Text // IsGap b }, '\x7b' ∉ b.1 := fun b =>
    hno fun c hc => Or.inr (Or.inr (b.2 c hc))
  have hname : '\x7b' ∉ h.name.text := hno fun c hc => Or.inl (h.name.nameChars c hc)
  have hbases : '\x7b' ∉ h.bases.text := hno fun c hc => Bases.isTypeChar_of_mem hc
  simp [text, hfront, hgap, hname, hbases]

theorem hasWord_class : hasWord "class".toList h.text = true := by
  rw [hasWord_iff (by decide) (by decide), text, words_append_of_getLast? h.apart]
  exact List.mem_append_left _ (List.mem_of_getLast? h.keyword)

theorem isDirective_text : isDirective h.text = false := by
  rw [← Bool.not_eq_true, isDirective_iff, text, words_append_of_getLast? h.apart]
  rintro ⟨c, r, hfirst, -⟩
  cases hfront : words h.front with
  | nil =>
    have hkeyword := h.keyword
    rw [hfront] at hkeyword
    cases hkeyword
  | cons w ws =>
    rw [hfront, List.cons_append, List.head?_cons, Option.some.injEq] at hfirst
    have hname := h.nameChars w (by simp [hfront]) '#' (by simp [hfirst])
    exact absurd hname (by decide)

/-- A header without the other keyword is read with all of its tokens. -/
theorem classify_text {raw : Text} (hraw : stripComment raw = h.text)
    (henum : hasWord "enum".toList h.text = false) :
    Line.classify raw = { kind := .classHeader, text := h.text, tokens := tokensOf h.text } := by
  have hfixed : fixedKind? raw = none := by
    rw [fixedKind?_eq_none_iff, hraw]
    exact ⟨isBlankText_of_hasWord (by decide) (by decide) h.hasWord_class, h.isDirective_text,
      fun hopens => h.brace_notMem_text hopens.2⟩
  have hcolon : h.text.contains ':' = true := by
    rw [List.contains_iff_mem]
    simp [text]
  rw [Line.classify, hfixed, hraw]
  dsimp only
  rw [henum, h.hasWord_class, hcolon]
  rfl

end ClassHeader

end Typings.Source
