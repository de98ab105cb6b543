import Typings.Text.Encoding

/-!
# Bytes and texts

Reading UTF-8 undoes writing it, and succeeds on nothing else. For each width of a character, the
bytes that are read as its code point are those that it is written as. A byte order mark is the
UTF-8 form of a character, so it makes no bytes valid or invalid.
-/

namespace Typings.Text

variable {a b c d : UInt8} {n : Nat} {x : Char}

/-! ## Characters of each width -/

theorem toNat_toUInt8 (h : n < 0x100) : n.toUInt8.toNat = n := UInt8.toNat_ofNat_of_lt' h

theorem toUInt8_eq_iff (h : n < 0x100) : n.toUInt8 = b ↔ b.toNat = n := by
  rw [← UInt8.toNat_inj, toNat_toUInt8 h, eq_comm]

theorem tail?_eq_some_iff : tail? b = some n ↔ n < 0x40 ∧ b.toNat = 0x80 + n := by
  rw [tail?]
  split
  · rw [Option.some.injEq]
    omega
  · refine iff_of_false (by simp) ?_
    omega

theorem pair?_eq_some_iff : pair? a b = some n ↔ 0x80 ≤ n ∧ n < 0x800
    ∧ a.toNat = 0xC0 + n / 0x40 ∧ b.toNat = 0x80 + n % 0x40 := by
  rw [pair?]
  split
  · simp only [Option.map_eq_some_iff, tail?_eq_some_iff]
    constructor
    · rintro ⟨m, ⟨hm, hb⟩, rfl⟩
      omega
    · rintro ⟨hlow, hhigh, ha, hb⟩
      exact ⟨n % 0x40, by omega, by omega⟩
  · refine iff_of_false (by simp) ?_
    omega

theorem triple?_eq_some_iff : triple? a b c = some n ↔ 0x800 ≤ n ∧ n < 0x10000
    ∧ ¬(0xD800 ≤ n ∧ n < 0xE000) ∧ a.toNat = 0xE0 + n / 0x1000
    ∧ b.toNat = 0x80 + n / 0x40 % 0x40 ∧ c.toNat = 0x80 + n % 0x40 := by
  rw [triple?]
  split
  · simp only [Option.bind_eq_bind, Option.bind_eq_some_iff, tail?_eq_some_iff,
      Option.ite_none_left_eq_some, Option.some.injEq]
    constructor
    · rintro ⟨m, ⟨hm, hb⟩, k, ⟨hk, hc⟩, hvalid, rfl⟩
      omega
    · rintro ⟨hlow, hhigh, hvalid, ha, hb, hc⟩
      exact ⟨n / 0x40 % 0x40, by omega, n % 0x40, by omega, by omega, by omega⟩
  · refine iff_of_false (by simp) ?_
    omega

theorem quadruple?_eq_some_iff : quadruple? a b c d = some n ↔ 0x10000 ≤ n ∧ n ≤ 0x10FFFF
    ∧ a.toNat = 0xF0 + n / 0x40000 ∧ b.toNat = 0x80 + n / 0x1000 % 0x40
    ∧ c.toNat = 0x80 + n / 0x40 % 0x40 ∧ d.toNat = 0x80 + n % 0x40 := by
  rw [quadruple?]
  split
  · simp only [Option.bind_eq_bind, Option.bind_eq_some_iff, tail?_eq_some_iff,
      Option.ite_none_left_eq_some, Option.some.injEq]
    constructor
    · rintro ⟨m, ⟨hm, hb⟩, k, ⟨hk, hc⟩, l, ⟨hl, hd⟩, hvalid, rfl⟩
      omega
    · rintro ⟨hlow, hhigh, ha, hb, hc, hd⟩
      exact ⟨n / 0x1000 % 0x40, by omega, n / 0x40 % 0x40, by omega, n % 0x40, by omega, by omega,
        by omega⟩
  · refine iff_of_false (by simp) ?_
    omega

/-- What a character is written as, by its width. -/
theorem encodeChar_cases (x : Char) :
    (∃ a : UInt8, a.toNat < 0x80 ∧ a.toNat = x.toNat ∧ encodeChar x = [a])
    ∨ (∃ a b, pair? a b = some x.toNat ∧ encodeChar x = [a, b])
    ∨ (∃ a b c, triple? a b c = some x.toNat ∧ encodeChar x = [a, b, c])
    ∨ ∃ a b c d, quadruple? a b c d = some x.toNat ∧ encodeChar x = [a, b, c, d] := by
  have hvalid : x.toNat < 0xD800 ∨ 0xDFFF < x.toNat ∧ x.toNat < 0x110000 := x.valid
  rw [encodeChar]
  split
  · refine .inl ⟨_, ?_, ?_, rfl⟩ <;> rw [toNat_toUInt8 (by omega)]
    omega
  split
  · refine .inr (.inl ⟨_, _, pair?_eq_some_iff.mpr ?_, rfl⟩)
    rw [toNat_toUInt8 (by omega), toNat_toUInt8 (by omega)]
    omega
  split
  · refine .inr (.inr (.inl ⟨_, _, _, triple?_eq_some_iff.mpr ?_, rfl⟩))
    rw [toNat_toUInt8 (by omega), toNat_toUInt8 (by omega), toNat_toUInt8 (by omega)]
    omega
  · refine .inr (.inr (.inr ⟨_, _, _, _, quadruple?_eq_some_iff.mpr ?_, rfl⟩))
    rw [toNat_toUInt8 (by omega), toNat_toUInt8 (by omega), toNat_toUInt8 (by omega),
      toNat_toUInt8 (by omega)]
    omega

theorem toNat_ofNat (h : n < 0xD800 ∨ 0xDFFF < n ∧ n < 0x110000) : (Char.ofNat n).toNat = n := by
  rw [Char.ofNat, dif_pos h]
  rfl

theorem encodeChar_of_single (h : a.toNat < 0x80) : encodeChar (Char.ofNat a.toNat) = [a] := by
  rw [encodeChar, toNat_ofNat (by omega), if_pos h]
  congr 1
  exact (toUInt8_eq_iff (by omega)).mpr rfl

theorem encodeChar_of_pair (h : pair? a b = some n) : encodeChar (Char.ofNat n) = [a, b] := by
  obtain ⟨hlow, hhigh, ha, hb⟩ := pair?_eq_some_iff.mp h
  rw [encodeChar, toNat_ofNat (by omega), if_neg (by omega), if_pos hhigh]
  rw [(toUInt8_eq_iff (by omega)).mpr ha, (toUInt8_eq_iff (by omega)).mpr hb]

theorem encodeChar_of_triple (h : triple? a b c = some n) :
    encodeChar (Char.ofNat n) = [a, b, c] := by
  obtain ⟨hlow, hhigh, hvalid, ha, hb, hc⟩ := triple?_eq_some_iff.mp h
  rw [encodeChar, toNat_ofNat (by omega), if_neg (by omega), if_neg (by omega), if_pos hhigh]
  rw [(toUInt8_eq_iff (by omega)).mpr ha, (toUInt8_eq_iff (by omega)).mpr hb,
    (toUInt8_eq_iff (by omega)).mpr hc]

theorem encodeChar_of_quadruple (h : quadruple? a b c d = some n) :
    encodeChar (Char.ofNat n) = [a, b, c, d] := by
  obtain ⟨hlow, hhigh, ha, hb, hc, hd⟩ := quadruple?_eq_some_iff.mp h
  rw [encodeChar, toNat_ofNat (by omega), if_neg (by omega), if_neg (by omega),
    if_neg (by omega)]
  rw [(toUInt8_eq_iff (by omega)).mpr ha, (toUInt8_eq_iff (by omega)).mpr hb,
    (toUInt8_eq_iff (by omega)).mpr hc, (toUInt8_eq_iff (by omega)).mpr hd]

/-- Characters are written as the standard library writes them. -/
theorem encodeChar_eq (x : Char) : encodeChar x = String.utf8EncodeChar x := by
  have hvalid : x.toNat < 0xD800 ∨ 0xDFFF < x.toNat ∧ x.toNat < 0x110000 := x.valid
  have hval : x.val.toNat = x.toNat := rfl
  simp only [encodeChar, String.utf8EncodeChar, hval]
  by_cases hone : x.toNat < 0x80
  · rw [if_pos hone, if_pos (by omega)]
  rw [if_neg hone, if_neg (c := x.toNat ≤ 0x7F) (by omega)]
  by_cases htwo : x.toNat < 0x800
  · rw [if_pos htwo, if_pos (by omega)]
    simp only [List.cons.injEq, and_true]
    exact ⟨congrArg _ (by omega), congrArg _ (by omega)⟩
  rw [if_neg htwo, if_neg (c := x.toNat ≤ 0x7FF) (by omega)]
  by_cases hthree : x.toNat < 0x10000
  · rw [if_pos hthree, if_pos (by omega)]
    simp only [List.cons.injEq, and_true]
    exact ⟨congrArg _ (by omega), congrArg _ (by omega), congrArg _ (by omega)⟩
  · rw [if_neg hthree, if_neg (c := x.toNat ≤ 0xFFFF) (by omega)]
    simp only [List.cons.injEq, and_true]
    exact ⟨congrArg _ (by omega), congrArg _ (by omega), congrArg _ (by omega),
      congrArg _ (by omega)⟩

/-! ## Texts -/

theorem encode_cons (x : Char) (t : Text) : encode (x :: t) = encodeChar x ++ encode t :=
  List.flatMap_cons

theorem pair?_eq_none (h : 0xE0 ≤ a.toNat) : pair? a b = none := by
  rw [pair?, if_neg (by omega)]

theorem triple?_eq_none (h : 0xF0 ≤ a.toNat) : triple? a b c = none := by
  rw [triple?, if_neg (by omega)]

/-- A character is read back in front of any bytes. -/
theorem utf8?_encodeChar_append (x : Char) (rest : Bytes) :
    utf8? (encodeChar x ++ rest) = (utf8? rest).map (x :: ·) := by
  -- the width is told by the first byte, which starts no shorter character
  rcases encodeChar_cases x with ⟨a, ha, hx, h⟩ | ⟨a, b, hx, h⟩ | ⟨a, b, c, hx, h⟩
    | ⟨a, b, c, d, hx, h⟩
  all_goals
    rw [h]
    simp only [List.cons_append, List.nil_append]
    rw [utf8?.eq_def]
    dsimp only
  · rw [if_pos ha, hx, Char.ofNat_toNat]
  · have ha := pair?_eq_some_iff.mp hx
    rw [if_neg (by omega)]
    simp only [hx, Char.ofNat_toNat]
  · have ha := triple?_eq_some_iff.mp hx
    rw [if_neg (by omega)]
    simp only [pair?_eq_none (a := a) (by omega), hx, Char.ofNat_toNat]
  · have ha := quadruple?_eq_some_iff.mp hx
    rw [if_neg (by omega)]
    simp only [pair?_eq_none (a := a) (by omega), triple?_eq_none (a := a) (by omega), hx,
      Char.ofNat_toNat]

/-- A text is read back in front of any bytes. -/
theorem utf8?_encode_append (t : Text) (rest : Bytes) :
    utf8? (encode t ++ rest) = (utf8? rest).map (t ++ ·) := by
  induction t with
  | nil => simp [encode]
  | cons x t ih =>
    rw [encode_cons, List.append_assoc, utf8?_encodeChar_append, ih, Option.map_map]
    rfl

/-- Only the UTF-8 form of a text is read as it. -/
theorem utf8?_eq_some_iff {bytes : Bytes} {t : Text} : utf8? bytes = some t ↔ bytes = encode t := by
  refine ⟨fun h => ?_, ?_⟩
  -- each case takes one character off the front, by its width
  · fun_induction utf8? bytes generalizing t with
    | case1 =>
      cases h
      rfl
    | case2 a rest ha ih =>
      obtain ⟨t, ht, rfl⟩ := Option.map_eq_some_iff.mp h
      rw [encode_cons, encodeChar_of_single ha, ← ih ht, List.singleton_append]
    | case3 => cases h
    | case4 a ha b rest n hn ih =>
      obtain ⟨t, ht, rfl⟩ := Option.map_eq_some_iff.mp h
      rw [encode_cons, encodeChar_of_pair hn, ← ih ht]
      rfl
    | case5 => cases h
    | case6 a ha b hb c rest n hn ih =>
      obtain ⟨t, ht, rfl⟩ := Option.map_eq_some_iff.mp h
      rw [encode_cons, encodeChar_of_triple hn, ← ih ht]
      rfl
    | case7 => cases h
    | case8 a ha b hb c hc d rest n hn ih =>
      obtain ⟨t, ht, rfl⟩ := Option.map_eq_some_iff.mp h
      rw [encode_cons, encodeChar_of_quadruple hn, ← ih ht]
      rfl
    | case9 => cases h
  · rintro rfl
    have hread := utf8?_encode_append t []
    rwa [List.append_nil, utf8?, Option.map_some, List.append_nil] at hread

theorem toByteArray_encode (t : Text) : (encode t).toByteArray = t.utf8Encode := by
  rw [encode, List.utf8Encode, funext encodeChar_eq]

/-- Bytes are read exactly if they are valid. -/
theorem isSome_utf8?_iff {bytes : Bytes} :
    (utf8? bytes).isSome ↔ bytes.toByteArray.IsValidUTF8 := by
  rw [Option.isSome_iff_exists]
  constructor
  · rintro ⟨t, ht⟩
    rw [utf8?_eq_some_iff.mp ht]
    exact ⟨t, toByteArray_encode t⟩
  · rintro ⟨t, ht⟩
    rw [← toByteArray_encode, List.toByteArray_inj] at ht
    exact ⟨t, utf8?_eq_some_iff.mpr ht⟩

/-! ## The byte order mark -/

/-- The character that is a mark at the start of a file. -/
def markChar : Char := Char.ofNat 0xFEFF

theorem encode_markChar : encode [markChar] = byteOrderMark := by decide

theorem withoutMark_append (bytes : Bytes) : withoutMark (byteOrderMark ++ bytes) = bytes := by
  rw [withoutMark, if_pos (List.isPrefixOf_iff_prefix.mpr (List.prefix_append _ _))]
  rfl

/-- A mark makes no bytes valid or invalid. -/
theorem isSome_utf8?_withoutMark (bytes : Bytes) :
    (utf8? (withoutMark bytes)).isSome = (utf8? bytes).isSome := by
  rw [withoutMark]
  split
  · next hmark =>
    obtain ⟨rest, rfl⟩ := List.isPrefixOf_iff_prefix.mp hmark
    rw [show (byteOrderMark ++ rest).drop 3 = rest from rfl, ← encode_markChar,
      utf8?_encode_append, Option.isSome_map]
  · rfl

/-- Only a text that starts with the character of the mark seems to have a mark. -/
theorem withoutMark_encode {t : Text} (h : t.head? ≠ some markChar) :
    withoutMark (encode t) = encode t := by
  rw [withoutMark, if_neg]
  rw [List.isPrefixOf_iff_prefix]
  rintro ⟨rest, hrest⟩
  have hread : utf8? (encode t) = some t := utf8?_eq_some_iff.mpr rfl
  rw [← hrest, ← encode_markChar, utf8?_encode_append] at hread
  obtain ⟨t', -, rfl⟩ := Option.map_eq_some_iff.mp hread
  exact h rfl

/-! ## The code page -/

/-- The bytes that have no meaning in code page 1252. -/
def meaningless : Bytes := [0x81, 0x8D, 0x8F, 0x90, 0x9D]

theorem windowsChar?_eq_none_iff (b : UInt8) : windowsChar? b = none ↔ b ∈ meaningless := by
  have hall : ∀ n < 0x100, windowsChar? n.toUInt8 = none ↔ n.toUInt8 ∈ meaningless := by
    decide +kernel
  have hb := hall b.toNat b.toNat_lt
  rwa [(toUInt8_eq_iff b.toNat_lt).mpr rfl] at hb

theorem mapM_eq_none_iff {α β : Type} {f : α → Option β} {xs : List α} :
    xs.mapM f = none ↔ ∃ x ∈ xs, f x = none := by
  induction xs with
  | nil => simp
  | cons x xs ih =>
    rw [List.mapM_cons]
    cases hx : f x with
    | none => simp [hx]
    | some y => cases hxs : xs.mapM f <;> simp_all

/-- Bytes have no text exactly if they are not valid and one of them has no meaning. -/
theorem decode?_eq_none_iff {bytes : Bytes} : decode? bytes = none ↔
    ¬bytes.toByteArray.IsValidUTF8 ∧ ∃ b ∈ bytes, b ∈ meaningless := by
  rw [decode?, Option.orElse_eq_orElse, Option.orElse_eq_or, Option.or_eq_none_iff,
    mapM_eq_none_iff, ← isSome_utf8?_iff, ← isSome_utf8?_withoutMark, Option.not_isSome_iff_eq_none]
  simp only [windowsChar?_eq_none_iff]

end Typings.Text
