import Mathlib.Data.Int.ModEq
import Mathlib.Data.List.Forall2
import Mathlib.Data.Nat.Digits.Defs
import Typings.Proofs.Text.Words
import Typings.Source.Literal

/-!
# What literals denote

The meaning of a literal of a 32-bit integer, said without the function that reads one, and the
literals that are read: all of them but decimal ones with more digits than are converted.
-/

namespace Typings.Source

open Text

/-- A digit of base sixteen, with letters in either case. -/
def IsHexDigit (c : Char) (d : Nat) : Prop :=
  d < 16 ∧ (c = d.digitChar ∨ c = d.digitChar.toUpper)

/-- Whether an integer has 32 bits. -/
def IsInt32 (v : Int) : Prop := -2 ^ 31 ≤ v ∧ v < 2 ^ 31

instance (c : Char) (d : Nat) : Decidable (IsHexDigit c d) :=
  inferInstanceAs (Decidable (d < 16 ∧ (c = d.digitChar ∨ c = d.digitChar.toUpper)))

instance (v : Int) : Decidable (IsInt32 v) :=
  inferInstanceAs (Decidable (-2 ^ 31 ≤ v ∧ v < 2 ^ 31))

/-- What a literal denotes: a decimal one the integer of its digits, with the sign in front of them,
and a hexadecimal one the integer with the bits of its digits, the first of 32 bits being the
sign. -/
inductive Denotes : Text → Int → Prop
  | decimal {sign digits : Text} {v : Int} : digits ≠ [] → (∀ c ∈ digits, c.isDigit = true) →
      ((sign = [] ∨ sign = ['+']) ∧ v = Nat.ofDigitChars 10 digits 0
        ∨ sign = ['-'] ∧ v = -Nat.ofDigitChars 10 digits 0) →
      IsInt32 v → Denotes (sign ++ digits) v
  | hexadecimal {x : Char} {digits : Text} {ds : List Nat} {v : Int} : x = 'x' ∨ x = 'X' →
      digits ≠ [] → List.Forall₂ IsHexDigit digits ds → Nat.ofDigits 16 ds.reverse < 2 ^ 32 →
      v ≡ (Nat.ofDigits 16 ds.reverse : Nat) [ZMOD 2 ^ 32] → IsInt32 v →
      Denotes ('0' :: x :: digits) v

/-- Whether a literal is hexadecimal, or has no more decimal digits than are converted. -/
def IsShort (t : Text) : Prop :=
  'x' ∈ t ∨ 'X' ∈ t ∨ (t.filter Char.isDigit).length ≤ maxDigits

instance (t : Text) : Decidable (IsShort t) :=
  inferInstanceAs (Decidable ('x' ∈ t ∨ 'X' ∈ t ∨ (t.filter Char.isDigit).length ≤ maxDigits))

/-! ## Digits -/

theorem mapM_eq_some {α β : Type} {f : α → Option β} {xs : List α} {ys : List β}
    (h : List.Forall₂ (fun x y => f x = some y) xs ys) : xs.mapM f = some ys := by
  induction h with
  | nil => rfl
  | cons hxy _ ih => rw [List.mapM_cons, hxy, ih]; rfl

theorem hexDigit?_digitChar : ∀ d < 16,
    hexDigit? d.digitChar = some d ∧ hexDigit? d.digitChar.toUpper = some d := by
  decide

theorem hexDigit?_of_isHexDigit {c : Char} {d : Nat} (h : IsHexDigit c d) :
    hexDigit? c = some d := by
  obtain ⟨hd, rfl | rfl⟩ := h
  · exact (hexDigit?_digitChar d hd).1
  · exact (hexDigit?_digitChar d hd).2

theorem isDigit_iff {c : Char} : c.isDigit = true ↔ '0' ≤ c ∧ c ≤ '9' := by
  simp only [Char.isDigit, Bool.and_eq_true, decide_eq_true_iff]
  exact Iff.rfl

theorem isDigit_of_mem_ofNat {n : Nat} {c : Char} (h : c ∈ ofNat n) : c.isDigit = true :=
  Nat.isDigit_of_mem_toDigits (by decide) (by decide) h

/-- Digits are read one by one. -/
theorem unsignedDigits?_of_isDigit {digits : Text} (hne : digits ≠ [])
    (h : ∀ c ∈ digits, c.isDigit = true) :
    unsignedDigits? digits = some (digits.map fun c => c.toNat - '0'.toNat) := by
  have hread : digits.mapM decimalDigit? = some (digits.map fun c => c.toNat - '0'.toNat) := by
    refine mapM_eq_some (List.forall₂_map_right_iff.mpr (List.forall₂_same.mpr fun c hc => ?_))
    rw [decimalDigit?, if_pos (isDigit_iff.mp (h c hc))]
  obtain ⟨c, r, rfl⟩ := List.exists_cons_of_ne_nil hne
  exact hread

theorem valueOf_eq_ofDigitChars (digits : Text) :
    valueOf 10 (digits.map fun c => c.toNat - '0'.toNat) = Nat.ofDigitChars 10 digits 0 := by
  rw [valueOf, List.foldl_map, Nat.ofDigitChars_eq_foldl]
  simp only [Nat.mul_comm]

theorem valueOf_eq_ofDigits (ds : List Nat) : valueOf 16 ds = Nat.ofDigits 16 ds.reverse := by
  rw [valueOf, Nat.ofDigits_eq_foldr, List.foldr_reverse]
  simp only [Nat.cast_id, Nat.mul_comm, Nat.add_comm]

/-! ## The characters of literals -/

theorem isAlphanum_hexDigit : ∀ d < 16,
    d.digitChar.isAlphanum = true ∧ d.digitChar.toUpper.isAlphanum = true := by
  decide

/-- Every hexadecimal digit has a value, and is a letter or a digit. -/
theorem isAlphanum_of_forall₂ {digits : Text} {ds : List Nat}
    (h : List.Forall₂ IsHexDigit digits ds) : ∀ c ∈ digits, c.isAlphanum = true := by
  induction h with
  | nil => simp
  | @cons c d digits ds hcd _ ih =>
    refine List.forall_mem_cons.mpr ⟨?_, ih⟩
    obtain ⟨hd, rfl | rfl⟩ := hcd
    · exact (isAlphanum_hexDigit d hd).1
    · exact (isAlphanum_hexDigit d hd).2

/-- Literals are made of letters, digits and signs. -/
theorem Denotes.mem {t : Text} {v : Int} (h : Denotes t v) {c : Char} (hc : c ∈ t) :
    c.isAlphanum = true ∨ c = '+' ∨ c = '-' := by
  cases h with
  | decimal _ hdigits hsign _ =>
    rcases List.mem_append.mp hc with hc | hc
    · rcases hsign with ⟨rfl | rfl, -⟩ | ⟨rfl, -⟩
      · simp at hc
      · exact Or.inr (Or.inl (List.mem_singleton.mp hc))
      · exact Or.inr (Or.inr (List.mem_singleton.mp hc))
    · exact Or.inl (by simp [Char.isAlphanum, hdigits c hc])
  | hexadecimal hx _ hdigits _ _ _ =>
    left
    rcases List.mem_cons.mp hc with rfl | hc
    · decide
    · rcases List.mem_cons.mp hc with rfl | hc
      · rcases hx with rfl | rfl <;> decide
      · exact isAlphanum_of_forall₂ hdigits c hc

/-- A literal starts with a digit or a sign. -/
theorem Denotes.head {t : Text} {v : Int} (h : Denotes t v) :
    ∃ c r, t = c :: r ∧ (c.isDigit = true ∨ c = '+' ∨ c = '-') := by
  cases h with
  | @decimal sign digits _ hne hdigits hsign _ =>
    obtain ⟨c, r, rfl⟩ := List.exists_cons_of_ne_nil hne
    rcases hsign with ⟨rfl | rfl, -⟩ | ⟨rfl, -⟩
    · exact ⟨c, r, rfl, Or.inl (hdigits c List.mem_cons_self)⟩
    · exact ⟨'+', c :: r, rfl, by simp⟩
    · exact ⟨'-', c :: r, rfl, by simp⟩
  | hexadecimal => exact ⟨'0', _, rfl, by decide⟩

theorem isBlank_of_isAlphanum {c : Char} (h : c.isAlphanum = true) : isBlank c = false := by
  have key : ∀ n ∈ blankCodes, (Char.ofNat n).isAlphanum = false := by decide
  by_contra hblank
  have hfalse := key _ (toNat_mem_blankCodes (Bool.not_eq_false _ ▸ hblank))
  rw [Char.ofNat_toNat, h] at hfalse
  cases hfalse

theorem Denotes.isSolid {t : Text} {v : Int} (h : Denotes t v) : IsSolid t := by
  intro c hc
  rcases h.mem hc with hc | rfl | rfl
  · exact isBlank_of_isAlphanum hc
  · decide
  · decide

/-! ## Reading -/

theorem wrap32_eq {n : Nat} {v : Int} (hn : n < 2 ^ 32) (hv : IsInt32 v)
    (h : v ≡ n [ZMOD 2 ^ 32]) : wrap32 n = v := by
  rw [Int.ModEq] at h
  obtain ⟨hlow, hhigh⟩ := hv
  rw [wrap32, signBit]
  split <;> omega

/-- The signs of decimal literals. -/
theorem sign_cases {sign : Text} {P Q : Prop}
    (h : (sign = [] ∨ sign = ['+']) ∧ P ∨ sign = ['-'] ∧ Q) :
    sign = [] ∨ sign = ['+'] ∨ sign = ['-'] := by
  rcases h with ⟨h | h, -⟩ | ⟨h, -⟩ <;> simp [h]

section Decimal

variable {sign digits : Text} (hne : digits ≠ []) (hdigits : ∀ c ∈ digits, c.isDigit = true)
  (hsign : sign = [] ∨ sign = ['+'] ∨ sign = ['-'])

include hdigits hsign

/-- A decimal literal has no letter that would make it hexadecimal, and its digits are those behind
the sign. -/
theorem isShort_decimal_iff : IsShort (sign ++ digits) ↔ digits.length ≤ maxDigits := by
  have hx : ∀ x : Char, x = 'x' ∨ x = 'X' → x ∉ sign ++ digits := by
    intro x hx hmem
    rcases List.mem_append.mp hmem with hmem | hmem
    · rcases hsign with rfl | rfl | rfl <;> rcases hx with rfl | rfl <;> simp at hmem
    · have := hdigits x hmem
      rcases hx with rfl | rfl <;> revert this <;> decide
  have hfilter : (sign ++ digits).filter Char.isDigit = digits := by
    rw [List.filter_append, List.filter_eq_self.mpr hdigits]
    rcases hsign with rfl | rfl | rfl <;> rfl
  rw [IsShort, hfilter]
  simp only [hx 'x' (Or.inl rfl), hx 'X' (Or.inr rfl), false_or]

include hne

theorem hexDigits?_decimal : hexDigits? (sign ++ digits) = none := by
  rcases hsign with rfl | rfl | rfl
  · rw [List.nil_append, hexDigits?.eq_def]
    split
    · next x d r =>
      have hx : x.isDigit = true := hdigits x (by simp)
      rw [if_neg]
      rintro (rfl | rfl) <;> revert hx <;> decide
    · rfl
  · rfl
  · rfl

theorem decimalDigits?_decimal : decimalDigits? (sign ++ digits)
    = some (sign == ['-'], digits.map fun c => c.toNat - '0'.toNat) := by
  have hread := unsignedDigits?_of_isDigit hne hdigits
  rcases hsign with rfl | rfl | rfl
  · rw [List.nil_append, decimalDigits?.eq_def]
    split
    · exact absurd (hdigits '-' (by simp)) (by decide)
    · exact absurd (hdigits '+' (by simp)) (by decide)
    · rw [hread]
      rfl
  · rw [List.cons_append, List.nil_append, decimalDigits?, hread]
    rfl
  · rw [List.cons_append, List.nil_append, decimalDigits?, hread]
    rfl

end Decimal

/-- A literal that is short is read as what it denotes. -/
theorem readLiteral_of_short {t : Text} {v : Int} (h : Denotes t v) (hshort : IsShort t) :
    readLiteral t = .ok v := by
  rw [readLiteral, trim_of_isSolid h.isSolid]
  cases h with
  | @decimal sign digits _ hne hdigits hsign hv =>
    have hsign' := sign_cases hsign
    have hlength := (isShort_decimal_iff hdigits hsign').mp hshort
    have hvalue : (if (sign == ['-']) = true then
        -((valueOf 10 (digits.map fun c => c.toNat - '0'.toNat) : Nat) : Int)
        else (valueOf 10 (digits.map fun c => c.toNat - '0'.toNat) : Nat)) = v := by
      rw [valueOf_eq_ofDigitChars]
      rcases hsign with ⟨rfl | rfl, rfl⟩ | ⟨rfl, rfl⟩ <;> rfl
    dsimp only
    rw [hexDigits?_decimal hne hdigits hsign', decimalDigits?_decimal hne hdigits hsign']
    dsimp only
    rw [List.length_map, if_neg (by omega), hvalue, if_pos]
    exact hv
  | @hexadecimal x digits ds _ hx hne hdigits hn hmod hv =>
    have hread : hexDigits? ('0' :: x :: digits) = some ds := by
      obtain ⟨d, r, rfl⟩ := List.exists_cons_of_ne_nil hne
      rw [hexDigits?, if_pos hx]
      exact mapM_eq_some (hdigits.imp fun _ _ => hexDigit?_of_isHexDigit)
    dsimp only
    rw [hread]
    have hbits : Nat.ofDigits 16 ds.reverse < 2 * signBit := hn
    dsimp only
    rw [valueOf_eq_ofDigits, if_pos hbits, wrap32_eq hn hv hmod]

/-- A decimal literal with more digits is refused, whatever it denotes. -/
theorem readLiteral_of_not_short {t : Text} {v : Int} (h : Denotes t v) (hlong : ¬IsShort t) :
    ∃ e, readLiteral t = .error e := by
  rw [readLiteral, trim_of_isSolid h.isSolid]
  cases h with
  | @decimal sign digits _ hne hdigits hsign hv =>
    have hsign' := sign_cases hsign
    have hlength := (isShort_decimal_iff hdigits hsign').not.mp hlong
    dsimp only
    rw [hexDigits?_decimal hne hdigits hsign', decimalDigits?_decimal hne hdigits hsign']
    dsimp only
    rw [List.length_map, if_pos (by omega)]
    exact ⟨_, rfl⟩
  | hexadecimal hx => exact absurd (by rcases hx with rfl | rfl <;> simp [IsShort]) hlong

/-! ## What is read -/

theorem forall₂_of_mapM {α β : Type} {f : α → Option β} {xs : List α} {ys : List β}
    (h : xs.mapM f = some ys) : List.Forall₂ (fun x y => f x = some y) xs ys := by
  induction xs generalizing ys with
  | nil =>
    cases h
    exact .nil
  | cons x xs ih =>
    rw [List.mapM_cons] at h
    obtain ⟨y, hy, h⟩ := Option.bind_eq_some_iff.mp h
    obtain ⟨zs, hzs, h⟩ := Option.bind_eq_some_iff.mp h
    cases h
    exact .cons hy (ih hzs)

/-- What has a hexadecimal value is a digit of base sixteen. -/
theorem isHexDigit_of_hexDigit? {c : Char} {d : Nat} (h : hexDigit? c = some d) :
    IsHexDigit c d := by
  have key : ∀ n < 0x80, ∀ d ∈ hexDigit? (Char.ofNat n), IsHexDigit (Char.ofNat n) d := by
    decide +kernel
  -- the three runs of digits lie in ASCII
  have hascii : c.toNat < 0x80 := by
    by_contra hlarge
    have hnot : ∀ e : Char, e.toNat < 0x80 → ¬c ≤ e := fun e he hle =>
      hlarge (Nat.lt_of_le_of_lt hle he)
    rw [hexDigit?, if_neg fun hc => hnot '9' (by decide) hc.2,
      if_neg fun hc => hnot 'f' (by decide) hc.2, if_neg fun hc => hnot 'F' (by decide) hc.2] at h
    cases h
  have hc := key c.toNat hascii d
  rw [Char.ofNat_toNat] at hc
  exact hc h

/-- A text that is read as a numeral is made of digits. -/
theorem of_unsignedDigits? {t : Text} {digits : List Nat} (h : unsignedDigits? t = some digits) :
    t ≠ [] ∧ (∀ c ∈ t, c.isDigit = true) ∧ digits = t.map fun c => c.toNat - '0'.toNat := by
  have hread : ∀ {c : Char} {n : Nat}, decimalDigit? c = some n →
      c.isDigit = true ∧ n = c.toNat - '0'.toNat := by
    intro c n hc
    rw [decimalDigit?] at hc
    split at hc
    · next hrange =>
      cases hc
      exact ⟨isDigit_iff.mpr hrange, rfl⟩
    · cases hc
  have hall : ∀ {s : Text} {ns : List Nat},
      List.Forall₂ (fun c n => decimalDigit? c = some n) s ns →
      (∀ c ∈ s, c.isDigit = true) ∧ ns = s.map fun c => c.toNat - '0'.toNat := by
    intro s ns hs
    induction hs with
    | nil => simp
    | cons hc _ ih =>
      obtain ⟨hdigit, rfl⟩ := hread hc
      exact ⟨List.forall_mem_cons.mpr ⟨hdigit, ih.1⟩, by rw [ih.2, List.map_cons]⟩
  cases t with
  | nil => cases h
  | cons c r => exact ⟨by simp, hall (forall₂_of_mapM h)⟩

/-- A text that is read as a decimal literal is a sign, perhaps, and digits. -/
theorem of_decimalDigits? {t : Text} {negative : Bool} {digits : List Nat}
    (h : decimalDigits? t = some (negative, digits)) : ∃ sign s, t = sign ++ s ∧ s ≠ []
      ∧ (∀ c ∈ s, c.isDigit = true) ∧ (digits = s.map fun c => c.toNat - '0'.toNat)
      ∧ ((sign = [] ∨ sign = ['+']) ∧ negative = false ∨ sign = ['-'] ∧ negative = true) := by
  rw [decimalDigits?.eq_def] at h
  split at h
  · next r =>
    obtain ⟨ds, hds, heq⟩ := Option.map_eq_some_iff.mp h
    cases heq
    obtain ⟨hne, hdigits, hvalues⟩ := of_unsignedDigits? hds
    exact ⟨['-'], r, rfl, hne, hdigits, hvalues, by simp⟩
  · next r =>
    obtain ⟨ds, hds, heq⟩ := Option.map_eq_some_iff.mp h
    cases heq
    obtain ⟨hne, hdigits, hvalues⟩ := of_unsignedDigits? hds
    exact ⟨['+'], r, rfl, hne, hdigits, hvalues, by simp⟩
  · obtain ⟨ds, hds, heq⟩ := Option.map_eq_some_iff.mp h
    cases heq
    obtain ⟨hne, hdigits, hvalues⟩ := of_unsignedDigits? hds
    exact ⟨[], _, rfl, hne, hdigits, hvalues, by simp⟩

/-- A text that is read as a hexadecimal literal is a prefix and hexadecimal digits. -/
theorem of_hexDigits? {t : Text} {ds : List Nat} (h : hexDigits? t = some ds) :
    ∃ x digits, t = '0' :: x :: digits ∧ (x = 'x' ∨ x = 'X') ∧ digits ≠ []
      ∧ List.Forall₂ IsHexDigit digits ds := by
  rw [hexDigits?.eq_def] at h
  split at h
  · next x d r =>
    split at h
    · next hx =>
      have hdigits := (forall₂_of_mapM h).imp fun _ _ => isHexDigit_of_hexDigit?
      exact ⟨x, d :: r, rfl, hx, by simp, hdigits⟩
    · cases h
  · cases h

/-- The residue among the integers of 32 bits. -/
theorem wrap32_spec {n : Nat} (h : n < 2 ^ 32) :
    IsInt32 (wrap32 n) ∧ wrap32 n ≡ n [ZMOD 2 ^ 32] := by
  rw [IsInt32, Int.ModEq, wrap32, signBit]
  split <;> omega

/-- What is read is what the literal denotes. -/
theorem denotes_of_readLiteral {t : Text} {v : Int} (h : readLiteral t = .ok v) :
    Denotes (trim t) v := by
  rw [readLiteral] at h
  dsimp only at h
  split at h
  · next ds hds =>
    obtain ⟨x, digits, htrim, hx, hne, hdigits⟩ := of_hexDigits? hds
    rw [valueOf_eq_ofDigits] at h
    split at h
    · next hlt =>
      cases h
      obtain ⟨hbits, hmod⟩ := wrap32_spec hlt
      rw [htrim]
      exact .hexadecimal hx hne hdigits hlt hmod hbits
    · cases h
  · split at h
    · cases h
    · next negative ds hds =>
      obtain ⟨sign, digits, htrim, hne, hdigits, rfl, hsign⟩ := of_decimalDigits? hds
      -- the digits are few enough, and the integer has 32 bits
      rw [valueOf_eq_ofDigitChars] at h
      by_cases hmany : maxDigits < (digits.map fun c => c.toNat - '0'.toNat).length
      · rw [if_pos hmany] at h
        cases h
      · rw [if_neg hmany] at h
        generalize hi : (if negative = true then -((Nat.ofDigitChars 10 digits 0 : Nat) : Int)
          else (Nat.ofDigitChars 10 digits 0 : Nat)) = i at h
        by_cases hrange : -(signBit : Int) ≤ i ∧ i < signBit
        · rw [if_pos hrange] at h
          cases h
          rw [htrim]
          refine .decimal hne hdigits ?_ hrange
          rcases hsign with ⟨hsign, rfl⟩ | ⟨hsign, rfl⟩
          · exact Or.inl ⟨hsign, hi.symm⟩
          · exact Or.inr ⟨hsign, hi.symm⟩
        · rw [if_neg hrange] at h
          cases h

end Typings.Source
