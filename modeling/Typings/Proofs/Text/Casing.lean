import Mathlib.Data.List.Basic
import Typings.Text.Case

/-!
# Characters without case under the case mappings

Digits and the common marks, such as the slash, the dot and the hyphen, stand below all letters. No
other character is mapped to one of them, so a case mapping neither makes nor loses a mark.
-/

namespace Typings.Text

/-- Whether a character stands below all letters, zero excepted. -/
def IsLow (c : Char) : Prop := 0 < c.toNat ∧ c.toNat < 0x40

instance (c : Char) : Decidable (IsLow c) :=
  inferInstanceAs (Decidable (0 < c.toNat ∧ c.toNat < 0x40))

/-- A number that gives a low character is the number of that character: those that are no
character at all give zero. -/
theorem IsLow.eq_toNat {c : Char} (h : IsLow c) {n : Nat} (hn : Char.ofNat n = c) :
    n = c.toNat := by
  by_cases hvalid : n.isValidChar
  · rw [Char.ofNat, dif_pos hvalid] at hn
    rw [← hn]
    rfl
  · rw [Char.ofNat, dif_neg hvalid] at hn
    rw [← hn] at h
    exact absurd h (by decide)

/-- Shifts that only lead above a bound leave what is above it there. -/
theorem lt_shifted {shifts : List Shift} {bound n : Nat}
    (h : ∀ s ∈ shifts, (bound : Int) < s.first + s.distance) (hn : bound < n) :
    bound < shifted shifts n := by
  rw [shifted]
  split
  · next s hs =>
    have hmem := h s (List.mem_of_find?_eq_some hs)
    have hfirst : s.first ≤ n := by
      have := List.find?_some hs
      simp only [Shift.run, Run.has, Bool.and_eq_true] at this
      exact of_decide_eq_true this.1.1
    omega
  · exact hn

/-- What the tables of the case mappings lead to. Lowering leads above all low characters. Raising
does too, and never among the small letters of ASCII. What a character is expanded to has something
in it, nothing low, and no small letter of ASCII at the front. -/
theorem tables_bounds : (∀ s ∈ lowerShifts, ((0x40 : Nat) : Int) < s.first + s.distance)
    ∧ (∀ s ∈ upperShifts, ((0x40 : Nat) : Int) < s.first + s.distance
      ∧ (s.last + s.distance < ((0x61 : Nat) : Int)
        ∨ ((0x7A : Nat) : Int) < s.first + s.distance))
    ∧ ∀ e ∈ upperExpansions, e.2 ≠ [] ∧ (∀ n ∈ e.2, 0x40 ≤ n ∧ n.isValidChar)
      ∧ ∀ n ∈ e.2.head?, n < 0x61 ∨ 0x7A < n := by
  decide +kernel

/-- In ASCII, case mappings move letters to letters and nothing else, the case properties are those
of the letters, and raising and lowering undo each other. -/
theorem ascii_case : ∀ n < 0x80,
    ((Char.ofNat n).toLower = Char.ofNat n ∨ ¬IsLow (Char.ofNat n).toLower)
      ∧ ((Char.ofNat n).toUpper = Char.ofNat n ∨ ¬IsLow (Char.ofNat n).toUpper)
      ∧ isLowerLetter (Char.ofNat n) = (Char.ofNat n).isLower
      ∧ (Char.ofNat n).toLower.isUpper = false ∧ (Char.ofNat n).toUpper.isLower = false
      ∧ ((Char.ofNat n).isLower = false → (Char.ofNat n).toLower.toUpper = Char.ofNat n)
      ∧ ((Char.ofNat n).isUpper = false → (Char.ofNat n).toUpper.toLower = Char.ofNat n) := by
  decide +kernel

/-- What the case mappings of ASCII do to a character. -/
theorem ascii_case_char {c : Char} (h : c.toNat < 0x80) :
    (c.toLower = c ∨ ¬IsLow c.toLower) ∧ (c.toUpper = c ∨ ¬IsLow c.toUpper)
      ∧ isLowerLetter c = c.isLower ∧ c.toLower.isUpper = false ∧ c.toUpper.isLower = false
      ∧ (c.isLower = false → c.toLower.toUpper = c)
      ∧ (c.isUpper = false → c.toUpper.toLower = c) := by
  have := ascii_case c.toNat h
  rwa [Char.ofNat_toNat] at this

/-- Only a low character itself is lowered to it. -/
theorem eq_of_mem_lowerChar {c d : Char} (hd : IsLow d) (h : d ∈ lowerChar c) : c = d := by
  rw [lowerChar] at h
  split at h
  · next hc =>
    rw [List.mem_singleton] at h
    have key := (ascii_case_char hc).1
    rw [← h] at key
    exact (key.resolve_right fun hlow => hlow hd).symm
  · next hc =>
    split at h
    · -- the one letter that is lowered to two characters
      rw [List.mem_cons, List.mem_singleton] at h
      rcases h with rfl | rfl <;> exact absurd hd (by decide)
    · rw [List.mem_singleton] at h
      have hn := hd.eq_toNat h.symm
      have hhigh := lt_shifted (n := c.toNat) tables_bounds.1 (by omega)
      have := hd.2
      omega

/-- Only a low character itself is raised to it. -/
theorem eq_of_mem_upperChar {c d : Char} (hd : IsLow d) (h : d ∈ upperChar c) : c = d := by
  rw [upperChar] at h
  split at h
  · next hc =>
    rw [List.mem_singleton] at h
    have key := (ascii_case_char hc).2.1
    rw [← h] at key
    exact (key.resolve_right fun hlow => hlow hd).symm
  · next hc =>
    split at h
    · next codes hfind =>
      obtain ⟨n, hn, rfl⟩ := List.mem_map.mp h
      obtain ⟨-, hcodes, -⟩ := tables_bounds.2.2 _ (List.mem_of_find?_eq_some hfind)
      have hhigh := (hcodes n hn).1
      have := hd.eq_toNat rfl
      have := hd.2
      omega
    · rw [List.mem_singleton] at h
      have hn := hd.eq_toNat h.symm
      have hhigh := lt_shifted (fun s hs => (tables_bounds.2.1 s hs).1) (n := c.toNat) (by omega)
      have := hd.2
      omega

/-- No character is lowered to nothing. -/
theorem lowerChar_ne_nil (c : Char) : lowerChar c ≠ [] := by
  rw [lowerChar]
  split
  · simp
  · split <;> simp

/-- No character is raised to nothing. -/
theorem upperChar_ne_nil (c : Char) : upperChar c ≠ [] := by
  rw [upperChar]
  split
  · simp
  · split
    · next codes hfind =>
      simpa using (tables_bounds.2.2 _ (List.mem_of_find?_eq_some hfind)).1
    · simp

/-! ## Texts -/

/-- What a lowered text has in low characters, the text had. -/
theorem mem_of_mem_lowerAfter {d : Char} (hd : IsLow d) {t : Text} {cased : Bool}
    (h : d ∈ lowerAfter cased t) : d ∈ t := by
  induction t generalizing cased with
  | nil => simp [lowerAfter] at h
  | cons c r ih =>
    rw [lowerAfter, List.mem_append] at h
    rcases h with h | h
    · have hc : c = d := by
        split at h
        · -- neither small sigma is a low character
          rw [List.mem_singleton] at h
          subst h
          exact absurd hd (by split <;> decide)
        · exact eq_of_mem_lowerChar hd h
      simp [hc]
    · exact List.mem_cons_of_mem _ (ih h)

theorem mem_of_mem_lower {d : Char} (hd : IsLow d) {t : Text} (h : d ∈ lower t) : d ∈ t :=
  mem_of_mem_lowerAfter hd h

theorem lower_ne_nil {t : Text} (h : t ≠ []) : lower t ≠ [] := by
  obtain ⟨c, r, rfl⟩ := List.exists_cons_of_ne_nil h
  rw [lower, lowerAfter]
  split
  · simp
  · simp [lowerChar_ne_nil]

/-- A text that is lowered to nothing but dots had nothing but dots. -/
theorem lowerAfter_eq_self_of_dots {t : Text} {cased : Bool}
    (h : ∀ d ∈ lowerAfter cased t, d = '.') : lowerAfter cased t = t := by
  induction t generalizing cased with
  | nil => rfl
  | cons c r ih =>
    rw [lowerAfter] at h ⊢
    have hc : c = '.' := by
      split at h
      · exact absurd (h _ (List.mem_append_left _ (List.mem_singleton_self _)))
          (by split <;> decide)
      · obtain ⟨d, ds, hds⟩ := List.exists_cons_of_ne_nil (lowerChar_ne_nil c)
        have hd : d ∈ lowerChar c := by simp [hds]
        have hdot : d = '.' := h d (List.mem_append_left _ hd)
        exact eq_of_mem_lowerChar (by decide) (hdot ▸ hd)
    rw [ih fun d hd => h d (List.mem_append_right _ hd), hc]
    rfl

/-! ## The final sigma -/

/-- A small sigma in the form that it has inside of words; any other character as it is. -/
def medial (c : Char) : Char := if c = 'ς' then 'σ' else c

theorem eq_of_toNat_sigma {c : Char} (h : c.toNat = 0x3A3) : c = 'Σ' := by
  rw [← Char.ofNat_toNat c, h]

theorem lowerChar_of_toNat_sigma {c : Char} (h : c.toNat = 0x3A3) : lowerChar c = ['σ'] := by
  rw [eq_of_toNat_sigma h]
  decide

/-- Where a word ends only matters to the form of a small sigma. -/
theorem map_medial_lowerAfter (cased : Bool) (t : Text) :
    (lowerAfter cased t).map medial = (t.flatMap lowerChar).map medial := by
  induction t generalizing cased with
  | nil => rfl
  | cons c r ih =>
    have hc : (if c.toNat = 0x3A3 then [if cased && !casedAhead r then 'ς' else 'σ']
        else lowerChar c).map medial = (lowerChar c).map medial := by
      split
      · next hsigma =>
        rw [lowerChar_of_toNat_sigma hsigma]
        split <;> decide
      · rfl
    rw [lowerAfter, List.flatMap_cons, List.map_append, List.map_append, hc, ih]

section Needle

variable {needle : Text} (h : 'σ' ∉ needle) (h' : 'ς' ∉ needle)

include h h'

/-- A needle without sigmas does not tell their forms apart. -/
theorem infix_map_medial_iff {t : Text} : needle <:+: t.map medial ↔ needle <:+: t := by
  constructor
  · intro hrun
    obtain ⟨p, q, hpq⟩ := hrun
    obtain ⟨s, q', rfl, hs, -⟩ := List.map_eq_append_iff.mp hpq.symm
    obtain ⟨p', n, rfl, -, hn⟩ := List.map_eq_append_iff.mp hs
    have hmap : n.map medial = n := by
      refine (List.map_congr_left fun c hc => ?_).trans (List.map_id n)
      have hmem : medial c ∈ needle := hn ▸ List.mem_map_of_mem hc
      rw [medial] at hmem ⊢
      split
      · next hfinal =>
        rw [if_pos hfinal] at hmem
        exact absurd hmem h
      · rfl
    rw [← hn, hmap]
    exact ⟨p', q', rfl⟩
  · intro hrun
    have hmap : needle.map medial = needle := by
      refine (List.map_congr_left fun c hc => ?_).trans (List.map_id needle)
      rw [medial, if_neg fun (hfinal : c = 'ς') => h' (hfinal ▸ hc)]
      rfl
    rw [← hmap]
    exact hrun.map medial

/-- A needle without sigmas is found in a lowered text where it is found when each character is
lowered on its own. -/
theorem infix_lower_iff {t : Text} : needle <:+: lower t ↔ needle <:+: t.flatMap lowerChar := by
  rw [← infix_map_medial_iff h h', lower, map_medial_lowerAfter, infix_map_medial_iff h h']

end Needle

/-! ## ASCII -/

section Ascii

variable {c : Char} (h : c.toNat < 0x80)

include h

theorem isUpper_of_ascii : isUpper c = c.isUpper := if_pos h

theorem isLower_of_ascii : isLower c = c.isLower := if_pos h

theorem isLowerLetter_of_ascii : isLowerLetter c = c.isLower := (ascii_case_char h).2.2.1

theorem isUpper_toLower : c.toLower.isUpper = false := (ascii_case_char h).2.2.2.1

theorem isLower_toUpper : c.toUpper.isLower = false := (ascii_case_char h).2.2.2.2.1

theorem toUpper_toLower (hc : c.isLower = false) : c.toLower.toUpper = c :=
  (ascii_case_char h).2.2.2.2.2.1 hc

theorem toLower_toUpper (hc : c.isUpper = false) : c.toUpper.toLower = c :=
  (ascii_case_char h).2.2.2.2.2.2 hc

end Ascii

theorem toUpper_of_not_isLower {c : Char} (h : c.isLower = false) : c.toUpper = c := by
  have hdec : (decide (c.val ≥ 'a'.val) && decide (c.val ≤ 'z'.val)) = false := h
  have hc : ¬(c.val ≥ 'a'.val ∧ c.val ≤ 'z'.val) := by simpa using hdec
  exact dif_neg hc

theorem toLower_of_not_isUpper {c : Char} (h : c.isUpper = false) : c.toLower = c := by
  have hc : ¬(c.val ≥ 'A'.val ∧ c.val ≤ 'Z'.val) := of_decide_eq_false h
  exact dif_neg hc

/-- In ASCII, a text is lowered character by character. -/
theorem lower_of_ascii {t : Text} (h : ∀ c ∈ t, c.toNat < 0x80) : lower t = t.map Char.toLower := by
  have key : ∀ (t : Text), (∀ c ∈ t, c.toNat < 0x80) → ∀ cased,
      lowerAfter cased t = t.map Char.toLower := by
    intro t
    induction t with
    | nil => exact fun _ _ => rfl
    | cons c r ih =>
      intro h cased
      have hc : c.toNat < 0x80 := h c (by simp)
      have hsigma : c.toNat ≠ 0x3A3 := by omega
      rw [lowerAfter, if_neg hsigma, ih (fun d hd => h d (by simp [hd])), lowerChar, if_pos hc]
      rfl
  exact key t h false

/-- Raising undoes lowering where there was no small letter. -/
theorem map_toUpper_map_toLower {t : Text} (h : ∀ c ∈ t, c.toNat < 0x80)
    (hlower : ∀ c ∈ t, c.isLower = false) : (t.map Char.toLower).map Char.toUpper = t := by
  rw [List.map_map]
  refine (List.map_congr_left fun c hc => ?_).trans (List.map_id t)
  exact toUpper_toLower (h c hc) (hlower c hc)

/-- Lowering undoes raising where there was no capital. -/
theorem map_toLower_map_toUpper {t : Text} (h : ∀ c ∈ t, c.toNat < 0x80)
    (hupper : ∀ c ∈ t, c.isUpper = false) : (t.map Char.toUpper).map Char.toLower = t := by
  rw [List.map_map]
  refine (List.map_congr_left fun c hc => ?_).trans (List.map_id t)
  exact toLower_toUpper (h c hc) (hupper c hc)

/-- What has been raised has no small letter. -/
theorem isLower_of_mem_map_toUpper {t : Text} (h : ∀ c ∈ t, c.toNat < 0x80) {d : Char}
    (hd : d ∈ t.map Char.toUpper) : d.isLower = false := by
  obtain ⟨c, hc, rfl⟩ := List.mem_map.mp hd
  exact isLower_toUpper (h c hc)

/-- What has been lowered has no capital. -/
theorem isUpper_of_mem_map_toLower {t : Text} (h : ∀ c ∈ t, c.toNat < 0x80) {d : Char}
    (hd : d ∈ t.map Char.toLower) : d.isUpper = false := by
  obtain ⟨c, hc, rfl⟩ := List.mem_map.mp hd
  exact isUpper_toLower (h c hc)

/-! ## Capitals -/

theorem isLower_iff {c : Char} : c.isLower = true ↔ 0x61 ≤ c.toNat ∧ c.toNat ≤ 0x7A := by
  show (decide (c.val ≥ 'a'.val) && decide (c.val ≤ 'z'.val)) = true ↔ _
  simp [UInt32.le_iff_toNat_le, ← Char.toNat_val]

theorem isUpper_iff {c : Char} : c.isUpper = true ↔ 0x41 ≤ c.toNat ∧ c.toNat ≤ 0x5A := by
  show decide (c.val ≥ 'A'.val ∧ c.val ≤ 'Z'.val) = true ↔ _
  simp [UInt32.le_iff_toNat_le, ← Char.toNat_val]

/-- A capital of ASCII is no small letter. -/
theorem isLower_of_isUpper {c : Char} (h : c.isUpper = true) : c.isLower = false := by
  rw [isUpper_iff] at h
  rw [← Bool.not_eq_true, isLower_iff]
  omega

/-- A number beside those of the small letters gives no small letter: what is no character at all
gives zero. -/
theorem isLower_ofNat {n : Nat} (h : n < 0x61 ∨ 0x7A < n) : (Char.ofNat n).isLower = false := by
  rw [← Bool.not_eq_true, isLower_iff]
  by_cases hvalid : n.isValidChar
  · have hn : (Char.ofNat n).toNat = n := by
      rw [Char.ofNat, dif_pos hvalid]
      rfl
    omega
  · rw [Char.ofNat, dif_neg hvalid]
    decide

/-- What a character beyond ASCII is raised to starts with no small letter of ASCII. -/
theorem shifted_small {n : Nat} (hn : 0x80 ≤ n) :
    shifted upperShifts n < 0x61 ∨ 0x7A < shifted upperShifts n := by
  rw [shifted]
  split
  · next s hs =>
    have hsmall := (tables_bounds.2.1 s (List.mem_of_find?_eq_some hs)).2
    have hrun := List.find?_some hs
    simp only [Shift.run, Run.has, Bool.and_eq_true] at hrun
    have hfirst : s.first ≤ n := of_decide_eq_true hrun.1.1
    have hlast : n ≤ s.last := of_decide_eq_true hrun.1.2
    omega
  · omega

/-- A raised character starts with no small letter of ASCII. -/
theorem isLower_of_mem_head_upperChar {c d : Char} (h : d ∈ (upperChar c).head?) :
    d.isLower = false := by
  rw [upperChar] at h
  split at h
  · next hc =>
    cases h
    exact isLower_toUpper hc
  · next hc =>
    split at h
    · next codes hfind =>
      rw [List.head?_map] at h
      obtain ⟨n, hn, rfl⟩ := Option.map_eq_some_iff.mp h
      obtain ⟨-, -, hsmall⟩ := tables_bounds.2.2 _ (List.mem_of_find?_eq_some hfind)
      exact isLower_ofNat (hsmall n hn)
    · cases h
      exact isLower_ofNat (shifted_small (by omega))

/-! ## Lowering twice -/

/-- The code points that a shift leads to. -/
def Shift.image (s : Shift) : Run :=
  ⟨(s.first + s.distance).toNat, (s.last + s.distance).toNat, s.step⟩

/-- Whether a run lies beside another one: below it, above it, or between its members. -/
def Run.beside (r r' : Run) : Bool :=
  Nat.blt r.last r'.first || Nat.blt r'.last r.first
    || (Nat.beq r'.step 2 && (Nat.beq r.step 2 || Nat.beq r.first r.last)
      && Nat.beq ((r.first + r'.first) % 2) 1)

/-- Lowering leads above the capitals of ASCII, beside the one letter that is lowered to two
characters, and beside everything that is lowered. -/
theorem beside_lowerShifts : (lowerShifts.map Shift.image).all (fun r =>
    Nat.blt 0x5A r.first && r.beside ⟨0x130, 0x130, 1⟩
      && lowerShifts.all fun s => r.beside s.run) = true := by
  decide +kernel

theorem Run.has_iff {r : Run} {n : Nat} :
    r.has n = true ↔ r.first ≤ n ∧ n ≤ r.last ∧ (n - r.first) % r.step = 0 := by
  rw [Run.has, Bool.and_eq_true, Bool.and_eq_true, beq_iff_eq, and_assoc]
  exact and_congr decide_eq_true_iff (and_congr decide_eq_true_iff Iff.rfl)

/-- Runs that lie beside each other have no member in common. -/
theorem Run.has_of_beside {r r' : Run} (h : r.beside r' = true) {n : Nat} (hn : r.has n = true) :
    r'.has n = false := by
  obtain ⟨hfirst, hlast, hstep⟩ := Run.has_iff.mp hn
  rw [← Bool.not_eq_true, Run.has_iff]
  rintro ⟨hfirst', hlast', hstep'⟩
  simp only [beside, Bool.or_eq_true, Bool.and_eq_true, Nat.blt_eq, Nat.beq_eq] at h
  rcases h with (h | h) | ⟨⟨htwo, hone⟩, hodd⟩
  · omega
  · omega
  · rw [htwo] at hstep'
    rcases hone with hs | hs
    · rw [hs] at hstep
      omega
    · omega

/-- A member of the run of a shift is moved to a member of its image. -/
theorem Shift.has_image {s : Shift} (habove : 0 < s.image.first) {n : Nat}
    (hn : s.run.has n = true) : s.image.has (n + s.distance).toNat = true := by
  obtain ⟨hfirst, hlast, hstep⟩ := Run.has_iff.mp hn
  dsimp only [run, image] at hfirst hlast hstep habove
  have hsame : (n + s.distance).toNat - (s.first + s.distance).toNat = n - s.first := by omega
  rw [Run.has_iff]
  dsimp only [image]
  rw [hsame]
  exact ⟨by omega, by omega, hstep⟩

/-- A code point that is moved is moved above the capitals of ASCII, and not any further. -/
theorem shifted_lowerShifts {n m : Nat} (h : shifted lowerShifts n = m) :
    m = n ∨ 0x5A < m ∧ m ≠ 0x130 ∧ shifted lowerShifts m = m := by
  rcases hfind : lowerShifts.find? fun s => s.run.has n with - | s
  · rw [shifted, hfind] at h
    exact Or.inl h.symm
  · right
    rw [shifted, hfind] at h
    have hbeside := List.all_eq_true.mp beside_lowerShifts s.image
      (List.mem_map_of_mem (List.mem_of_find?_eq_some hfind))
    simp only [Bool.and_eq_true, Nat.blt_eq, List.all_eq_true] at hbeside
    obtain ⟨⟨habove, hdot⟩, hruns⟩ := hbeside
    have hhas := List.find?_some hfind
    have himage : s.image.has m = true := h ▸ Shift.has_image (by omega) hhas
    refine ⟨Nat.lt_of_lt_of_le habove (Run.has_iff.mp himage).1, ?_, ?_⟩
    · rintro rfl
      exact absurd (Run.has_of_beside hdot himage) (by decide)
    · have hnone : (lowerShifts.find? fun s => s.run.has m) = none := by
        rw [List.find?_eq_none]
        intro s' hs'
        rw [Run.has_of_beside (hruns s' hs') himage]
        exact Bool.false_ne_true
      rw [shifted, hnone]

/-- A character above the capitals of ASCII is not lowered if it is not moved, except for the one
letter that is lowered to two characters. -/
theorem lowerChar_of_shifted {c : Char} (h : 0x5A < c.toNat) (hdot : c.toNat ≠ 0x130)
    (hshifted : shifted lowerShifts c.toNat = c.toNat) : lowerChar c = [c] := by
  rw [lowerChar]
  split
  · have hupper : c.isUpper = false := by
      rw [← Bool.not_eq_true, isUpper_iff]
      omega
    rw [toLower_of_not_isUpper hupper]
  · rw [hshifted, Char.ofNat_toNat]

/-- What is lowered is not lowered any further. -/
theorem lowerChar_of_mem_lowerChar {c d : Char} (h : d ∈ lowerChar c) : lowerChar d = [d] := by
  have hascii : ∀ n < 0x80, lowerChar (Char.ofNat n).toLower = [(Char.ofNat n).toLower] := by
    decide +kernel
  rw [lowerChar] at h
  split at h
  · next hc =>
    have hlower := hascii c.toNat hc
    rw [Char.ofNat_toNat] at hlower
    rw [List.mem_singleton.mp h, hlower]
  · next hc =>
    split at h
    · rw [List.mem_cons, List.mem_singleton] at h
      rcases h with rfl | rfl <;> decide +kernel
    · next hc' =>
      -- a code point that is no character becomes NUL, which is not lowered either
      rw [List.mem_singleton] at h
      generalize hm : shifted lowerShifts c.toNat = m at h
      rcases shifted_lowerShifts hm with rfl | ⟨habove, hdot, hfixed⟩
      · rw [Char.ofNat_toNat] at h
        subst h
        exact lowerChar_of_shifted (by omega) hc' hm
      · by_cases hvalid : m.isValidChar
        · obtain rfl : d.toNat = m := by
            rw [h, Char.ofNat, dif_pos hvalid]
            rfl
          exact lowerChar_of_shifted habove hdot hfixed
        · rw [Char.ofNat, dif_neg hvalid] at h
          subst h
          decide +kernel

/-- Without a capital sigma, a text is lowered character by character. -/
theorem lowerAfter_eq_flatMap {t : Text} (h : ∀ c ∈ t, c.toNat ≠ 0x3A3) (cased : Bool) :
    lowerAfter cased t = t.flatMap lowerChar := by
  induction t generalizing cased with
  | nil => rfl
  | cons c t ih =>
    rw [lowerAfter, if_neg (h c List.mem_cons_self), ih fun d hd => h d (List.mem_cons_of_mem _ hd),
      List.flatMap_cons]

/-- A text of characters that are lowered already is lowered already. -/
theorem flatMap_lowerChar_of_lowered {t : Text} (h : ∀ d ∈ t, lowerChar d = [d]) :
    t.flatMap lowerChar = t := by
  rw [List.flatMap_congr h]
  exact List.flatMap_singleton' _

/-- A character that is lowered already is no capital sigma. -/
theorem ne_sigma_of_lowerChar {d : Char} (h : lowerChar d = [d]) : d.toNat ≠ 0x3A3 := by
  intro hsigma
  rw [eq_of_toNat_sigma hsigma] at h
  exact absurd h (by decide)

/-- What a text is lowered to is not lowered any further. -/
theorem lowerChar_of_mem_lowerAfter {cased : Bool} {t : Text} {d : Char}
    (h : d ∈ lowerAfter cased t) : lowerChar d = [d] := by
  induction t generalizing cased with
  | nil => simp [lowerAfter] at h
  | cons c t ih =>
    rw [lowerAfter, List.mem_append] at h
    rcases h with h | h
    · split at h
      · -- both forms of the small sigma are lowered
        rw [List.mem_singleton] at h
        subst h
        split <;> decide +kernel
      · exact lowerChar_of_mem_lowerChar h
    · exact ih h

/-- Lowering a text twice is lowering it once. -/
@[simp] theorem lower_lower (t : Text) : lower (lower t) = lower t := by
  have hfixed : ∀ d ∈ lower t, lowerChar d = [d] := fun d hd => lowerChar_of_mem_lowerAfter hd
  calc lower (lower t) = (lower t).flatMap lowerChar :=
        lowerAfter_eq_flatMap (fun d hd => ne_sigma_of_lowerChar (hfixed d hd)) false
    _ = lower t := flatMap_lowerChar_of_lowered hfixed

/-- A capital sigma is lowered to a small one, at the front of a text as well as on its own. -/
theorem lower_cons {c : Char} {t : Text} (h : ∀ d ∈ t, d.toNat ≠ 0x3A3) :
    lower (c :: t) = lowerChar c ++ t.flatMap lowerChar := by
  rw [lower, lowerAfter, lowerAfter_eq_flatMap h]
  split
  · next hsigma =>
    rw [lowerChar_of_toNat_sigma hsigma]
    rfl
  · rfl

/-- Lowering the first character of a text does not change what the text is lowered to, if that is
its only capital sigma. -/
theorem lower_lowerChar_append {c : Char} {t : Text} (h : ∀ d ∈ t, d.toNat ≠ 0x3A3) :
    lower (lowerChar c ++ t) = lower (c :: t) := by
  have hlowered : (lowerChar c).flatMap lowerChar = lowerChar c :=
    flatMap_lowerChar_of_lowered fun d hd => lowerChar_of_mem_lowerChar hd
  have hsigma : ∀ d ∈ lowerChar c ++ t, d.toNat ≠ 0x3A3 := by
    intro d hd
    rcases List.mem_append.mp hd with hd | hd
    · exact ne_sigma_of_lowerChar (lowerChar_of_mem_lowerChar hd)
    · exact h d hd
  rw [lower, lowerAfter_eq_flatMap hsigma, List.flatMap_append, hlowered, lower_cons h]

/-- No capital comes behind the first character that another one is lowered to. -/
theorem exists_lowerChar_eq_cons (c : Char) :
    ∃ d r, lowerChar c = d :: r ∧ ∀ e ∈ r, isUpper e = false := by
  rw [lowerChar]
  split
  · exact ⟨_, [], rfl, by simp⟩
  · split
    · have hdot : isUpper (Char.ofNat 0x307) = false := by decide
      exact ⟨'i', [Char.ofNat 0x307], rfl, List.forall_mem_singleton.mpr hdot⟩
    · exact ⟨_, [], rfl, by simp⟩

/-! ## Endings -/

theorem toNat_toLower_of_ascii {c : Char} (h : c.toNat < 0x80) : c.toLower.toNat < 0x80 := by
  have hall : ∀ n < 0x80, (Char.ofNat n).toLower.toNat < 0x80 := by decide +kernel
  have hc := hall c.toNat h
  rwa [Char.ofNat_toNat] at hc

end Typings.Text
