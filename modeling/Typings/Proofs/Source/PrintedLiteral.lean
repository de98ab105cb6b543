import Mathlib.Data.Nat.Digits.Lemmas
import Typings.Declaration
import Typings.Proofs.Source.Literal

/-!
# Literals, read and written

A text is read as an integer exactly if it is a literal of that integer with nothing but blanks
around it. What is written for an integer of 32 bits is such a literal: the numeral of a generated
member, and the bits as hexadecimal digits, behind any number of zeros.
-/

namespace Typings.Source

open Text

/-- What a text denotes with blanks around it. -/
def Spells (t : Text) (v : Int) : Prop :=
  ∃ before s after, IsGap before ∧ IsGap after ∧ t = before ++ s ++ after ∧ Denotes s v

/-- How the bits of an integer may be written in hexadecimal: behind any number of zeros, with
letters in either case. -/
inductive HexText (v : Int) : Text → Prop
  | intro {x : Char} {digits : Text} (zeros : Nat) : x = 'x' ∨ x = 'X' →
      List.Forall₂ (fun c d => c = d ∨ c = d.toUpper) digits
        (Nat.toDigits 16 (v % 2 ^ 32).toNat) →
      HexText v ('0' :: x :: (List.replicate zeros '0' ++ digits))

/-! ## Blanks around literals -/

theorem spells_iff {t : Text} {v : Int} : Spells t v ↔ Denotes (trim t) v := by
  constructor
  · rintro ⟨before, s, after, hbefore, hafter, rfl, h⟩
    rwa [trim_gaps hbefore hafter h.isSolid]
  · intro h
    obtain ⟨before, after, hbefore, hafter, ht⟩ := exists_gaps_trim t
    exact ⟨before, trim t, after, hbefore, hafter, ht, h⟩

section Gaps

variable {before s after : Text} (hbefore : IsGap before) (hafter : IsGap after)

include hbefore hafter

theorem readLiteral_gaps (hs : IsSolid s) :
    readLiteral (before ++ s ++ after) = readLiteral s := by
  rw [readLiteral, readLiteral, trim_gaps hbefore hafter hs, trim_of_isSolid hs]

/-- Blanks are neither digits nor letters. -/
theorem isShort_of_gaps (h : IsShort (before ++ s ++ after)) : IsShort s := by
  have hgap : ∀ {b : Text} {c : Char}, IsGap b → c ∈ b → c.isAlphanum = false := by
    intro b c hb hc
    by_contra halphanum
    have hsolid := isBlank_of_isAlphanum (Bool.not_eq_false _ ▸ halphanum)
    rw [hb c hc] at hsolid
    cases hsolid
  have hletter : ∀ {c : Char}, c.isAlphanum = true → c ∈ before ++ s ++ after → c ∈ s := by
    intro c hc hmem
    simp only [List.mem_append] at hmem
    obtain (hmem | hmem) | hmem := hmem
    · exact absurd hc (by simp [hgap hbefore hmem])
    · exact hmem
    · exact absurd hc (by simp [hgap hafter hmem])
  have hdigits : ∀ {b : Text}, IsGap b → b.filter Char.isDigit = [] := by
    intro b hb
    rw [List.filter_eq_nil_iff]
    intro c hc hdigit
    have hnone := hgap hb hc
    rw [Char.isAlphanum, hdigit, Bool.or_true] at hnone
    cases hnone
  obtain hx | hx | hfew := h
  · exact Or.inl (hletter (by decide) hx)
  · exact Or.inr (Or.inl (hletter (by decide) hx))
  · rw [List.filter_append, List.filter_append, hdigits hbefore, hdigits hafter, List.nil_append,
      List.append_nil] at hfew
    exact Or.inr (Or.inr hfew)

end Gaps

/-- What has no more decimal digits than are converted is read exactly if it is a literal. -/
theorem readLiteral_eq_ok_iff {t : Text} (h : IsShort t) {v : Int} :
    readLiteral t = .ok v ↔ Spells t v := by
  constructor
  · intro hread
    exact spells_iff.mpr (denotes_of_readLiteral hread)
  · rintro ⟨before, s, after, hbefore, hafter, rfl, hs⟩
    rw [readLiteral_gaps hbefore hafter hs.isSolid]
    exact readLiteral_of_short hs (isShort_of_gaps hbefore hafter h)

/-- What is no literal is refused. -/
theorem exists_readLiteral_eq_error_iff {t : Text} (h : IsShort t) :
    (∃ e, readLiteral t = .error e) ↔ ∀ v, ¬Spells t v := by
  constructor
  · rintro ⟨e, he⟩ v hv
    rw [(readLiteral_eq_ok_iff h).mpr hv] at he
    cases he
  · intro hnone
    cases hread : readLiteral t with
    | error e => exact ⟨e, rfl⟩
    | ok v => exact absurd ((readLiteral_eq_ok_iff h).mp hread) (hnone v)

/-! ## Decimal numerals -/

/-- The numeral of an integer has a sign, perhaps, and the digits of its absolute value. -/
theorem exists_sign_ofInt (v : Int) : ∃ sign, ofInt v = sign ++ ofNat v.natAbs
    ∧ ((sign = [] ∨ sign = ['+']) ∧ v = Nat.ofDigitChars 10 (ofNat v.natAbs) 0
      ∨ sign = ['-'] ∧ v = -Nat.ofDigitChars 10 (ofNat v.natAbs) 0) := by
  have hvalue : Nat.ofDigitChars 10 (ofNat v.natAbs) 0 = v.natAbs :=
    Nat.ofDigitChars_toDigits (by decide) (by decide)
  rw [hvalue, ofInt]
  split
  · exact ⟨['-'], rfl, Or.inr ⟨rfl, by omega⟩⟩
  · exact ⟨[], rfl, Or.inl ⟨Or.inl rfl, by omega⟩⟩

/-- The numeral of an integer of 32 bits is a literal of it that is read. -/
theorem readLiteral_ofInt {v : Int} (h : IsInt32 v) : readLiteral (ofInt v) = .ok v := by
  obtain ⟨sign, htext, hsign⟩ := exists_sign_ofInt v
  have hdigits : ∀ c ∈ ofNat v.natAbs, c.isDigit = true := fun c hc => isDigit_of_mem_ofNat hc
  have hlength : (ofNat v.natAbs).length ≤ maxDigits := by
    obtain ⟨hlow, hhigh⟩ := h
    have hten : (ofNat v.natAbs).length ≤ 10 :=
      Nat.toDigits_length 10 v.natAbs 10 (by decide) (by omega)
    exact hten.trans (by decide)
  have hdenotes : Denotes (ofInt v) v := by
    rw [htext]
    exact .decimal Nat.toDigits_ne_nil hdigits hsign h
  refine readLiteral_of_short hdenotes ?_
  rw [htext]
  exact (isShort_decimal_iff hdigits (sign_cases hsign)).mpr hlength

/-! ## Hexadecimal numerals -/

/-- The hexadecimal numeral of a number has its digits. -/
theorem exists_digits_toDigits (n : Nat) : ∃ ds : List Nat, Nat.toDigits 16 n = ds.map Nat.digitChar
    ∧ (∀ d ∈ ds, d < 16) ∧ Nat.ofDigits 16 ds.reverse = n := by
  -- the numeral of a sixteenth of the number is the numeral without its last digit
  induction n using Nat.strongRecOn with
  | ind n ih =>
    rcases Nat.lt_or_ge n 16 with hlt | hge
    · exact ⟨[n], Nat.toDigits_of_lt_base hlt, by simpa using hlt, by simp⟩
    · obtain ⟨ds, htext, hds, hvalue⟩ := ih (n / 16) (by omega)
      refine ⟨ds ++ [n % 16], ?_, ?_, ?_⟩
      · rw [Nat.toDigits_of_base_le (by decide) hge, htext, List.map_append, List.map_singleton]
      · simp only [List.mem_append, List.mem_singleton]
        rintro d (hd | rfl)
        · exact hds d hd
        · omega
      · rw [List.reverse_append, List.reverse_singleton, List.singleton_append, Nat.ofDigits_cons,
          hvalue]
        omega

/-- The bits of an integer of 32 bits in hexadecimal are a literal of it. -/
theorem HexText.denotes {v : Int} {t : Text} (h : HexText v t) (hv : IsInt32 v) :
    Denotes t v := by
  obtain @⟨x, digits, zeros, hx, hdigits⟩ := h
  obtain ⟨ds, htext, hds, hvalue⟩ := exists_digits_toDigits (v % 2 ^ 32).toNat
  have hne : digits ≠ [] := by
    rintro rfl
    exact Nat.toDigits_ne_nil (List.forall₂_nil_left_iff.mp hdigits)
  have hread : List.Forall₂ IsHexDigit digits ds := by
    rw [htext, List.forall₂_map_right_iff] at hdigits
    exact List.forall₂_iff_get.mpr ⟨hdigits.length_eq, fun i hi hi' =>
      ⟨hds _ (List.get_mem _ _), hdigits.get hi hi'⟩⟩
  -- the zeros in front are the most significant digits
  have hzeros : List.Forall₂ IsHexDigit (List.replicate zeros '0') (List.replicate zeros 0) := by
    have hzero : IsHexDigit '0' 0 := by decide
    exact List.forall₂_iff_get.mpr ⟨by simp, fun i hi hi' => by simpa using hzero⟩
  have hall : Nat.ofDigits 16 (List.replicate zeros 0 ++ ds).reverse = (v % 2 ^ 32).toNat := by
    rw [List.reverse_append, List.reverse_replicate, Nat.ofDigits_append,
      Nat.ofDigits_replicate_zero, Nat.mul_zero, Nat.add_zero, hvalue]
  refine .hexadecimal hx (by simp [hne]) (List.rel_append hzeros hread) ?_ ?_ hv
  · rw [hall]
    omega
  · rw [hall, Int.ModEq]
    omega

theorem HexText.readLiteral {v : Int} {t : Text} (h : HexText v t) (hv : IsInt32 v) :
    readLiteral t = .ok v := by
  refine readLiteral_of_short (h.denotes hv) ?_
  obtain ⟨_, rfl | rfl, _⟩ := h
  · exact Or.inl (by simp)
  · exact Or.inr (Or.inl (by simp))

/-- A text that is no decimal numeral of more digits than are converted is read as an integer
exactly if it is a literal of that integer with blanks around it, and is refused if it is a literal
of none. The numeral that a member is written with is read as the value of the member, and so are
the bits of an integer of 32 bits in hexadecimal. -/
theorem readLiteral_spells :
    (∀ t, IsShort t → (∀ v, readLiteral t = .ok v ↔ Spells t v)
      ∧ ((∃ e, readLiteral t = .error e) ↔ ∀ v, ¬Spells t v))
    ∧ ∀ v, IsInt32 v →
      (∀ name, ∃ s, Declaration.memberValue .numeric ⟨name, .stated (some v)⟩ = .text s
        ∧ readLiteral s = .ok v)
      ∧ ∀ s, HexText v s → readLiteral s = .ok v := by
  refine ⟨fun t ht => ⟨fun v => readLiteral_eq_ok_iff ht, exists_readLiteral_eq_error_iff ht⟩,
    fun v hv => ⟨fun name => ⟨ofInt v, rfl, readLiteral_ofInt hv⟩, fun s hs => hs.readLiteral hv⟩⟩

/-- A numeral between blanks, one in digits of another script, and the same bits in both cases. -/
theorem readLiteral_spells_edges :
    (IsShort "\u00A0-0042\t".toList ∧ readLiteral "\u00A0-0042\t".toList = .ok (-42))
    ∧ (IsShort "٤٢".toList ∧ ∀ v, ¬Spells "٤٢".toList v)
    ∧ (IsInt32 (-1) ∧ readLiteral "0X00FFffFFff".toList = .ok (-1)) := by
  have hnegative : Denotes "-0042".toList (-42) :=
    @Denotes.decimal ['-'] "0042".toList _ (by decide) (List.all_eq_true.mp (by decide))
      (Or.inr ⟨rfl, by decide⟩) (by decide)
  have hpadded : Spells "\u00A0-0042\t".toList (-42) :=
    ⟨['\u00A0'], "-0042".toList, ['\t'], by decide, by decide, rfl, hnegative⟩
  have hbits : HexText (-1) "0X00FFffFFff".toList := by
    refine @HexText.intro (-1) 'X' "FFffFFff".toList 2 (Or.inr rfl) ?_
    have hdigits : Nat.toDigits 16 ((-1 : Int) % 2 ^ 32).toNat = "ffffffff".toList := by decide
    rw [hdigits]
    simp
  have hblank : IsShort "\u00A0-0042\t".toList := by decide
  have hscript : IsShort "٤٢".toList := by decide
  exact ⟨⟨hblank, ((readLiteral_spells.1 _ hblank).1 _).mpr hpadded⟩,
    ⟨hscript, (readLiteral_spells.1 _ hscript).2.mp ⟨_, rfl⟩⟩,
    ⟨by decide, (readLiteral_spells.2 _ (by decide)).2 _ hbits⟩⟩

end Typings.Source
