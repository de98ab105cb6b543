import Typings.Proofs.Source.Line

/-!
# Tokens with commas

A comma draws the words on its sides into one token. What a text adds to the token in the making can
be said of its parts, so the token of a long text is put together along its structure.
-/

namespace Typings.Source

open Text

/-- Whether the words of a text are drawn together into one token, with no comma at either end that
would draw in more. -/
structure IsDrawn (t token : Text) : Prop where
  drawn : joinAtCommas (words t) = [token]
  first : ∀ w ∈ (words t).head?, w.head? ≠ some ','
  last : ∀ w ∈ (words t).getLast?, w.getLast? ≠ some ','

/-- The tokens of a line when one of them is in the making: it goes on up to the next blank, and
commas may draw in more. -/
def tokensFrom (u r : Text) : List Text :=
  joinAtCommas ((u ++ r.takeWhile fun c => !isBlank c) :: words (r.dropWhile fun c => !isBlank c))

/-- Whether a text adds to the token in the making, and what it adds to it. -/
def Continues (t token : Text) : Prop := ∀ u r, tokensFrom u (t ++ r) = tokensFrom (u ++ token) r

theorem tokensFrom_nil (u : Text) : tokensFrom u [] = [u] := by
  simp [tokensFrom, words, joinAtCommas]

theorem tokensFrom_nil_cons {c : Char} (hc : isBlank c = false) (r : Text) :
    tokensFrom [] (c :: r) = joinAtCommas (words (c :: r)) := by
  rw [tokensFrom, words_cons_solid hc, List.takeWhile_cons_of_pos (by simp [hc]),
    List.dropWhile_cons_of_pos (by simp [hc])]
  rfl

/-- A gap behind a comma adds nothing. -/
theorem tokensFrom_gap {u b : Text} (hb : IsGap b) (hu : u.getLast? = some ',') (r : Text) :
    tokensFrom u (b ++ r) = tokensFrom u r := by
  -- a blank ends the token, so the comma draws the next word in
  have hcons : ∀ {c : Char} (r : Text), isBlank c = true →
      tokensFrom u (c :: r) = joinAtCommas (u :: words r) := by
    intro c r hc
    rw [tokensFrom, List.takeWhile_cons_of_neg (by simp [hc]),
      List.dropWhile_cons_of_neg (by simp [hc]), List.append_nil, words_cons_blank hc]
  cases b with
  | nil => rfl
  | cons d b =>
    obtain ⟨hd, hb⟩ := isGap_cons.mp hb
    rw [List.cons_append, hcons _ hd, words_gap_append hb]
    cases r with
    | nil => rw [tokensFrom_nil]; rfl
    | cons c r =>
      cases hc : isBlank c with
      | true => rw [hcons _ hc, words_cons_blank hc]
      | false =>
        rw [words_cons_solid hc, joinAtCommas_drawn (by simp) (Or.inl hu), tokensFrom,
          List.takeWhile_cons_of_pos (by simp [hc]), List.dropWhile_cons_of_pos (by simp [hc])]

/-- So does a gap in front of one. -/
theorem tokensFrom_gap_comma {b : Text} (hb : IsGap b) (u r : Text) :
    tokensFrom u (b ++ ',' :: r) = tokensFrom u (',' :: r) := by
  cases b with
  | nil => rfl
  | cons d b =>
    have hd : (!isBlank d) = false := by rw [(isGap_cons.mp hb).1]; rfl
    have hcomma : isBlank ',' = false := by decide
    rw [List.cons_append, tokensFrom, List.takeWhile_cons_of_neg (by simp [hd]),
      List.dropWhile_cons_of_neg (by simp [hd]), List.append_nil, ← List.cons_append,
      words_gap_append hb, words_cons_solid hcomma, joinAtCommas_drawn (by simp) (Or.inr rfl),
      tokensFrom, List.takeWhile_cons_of_pos (by simp [hcomma]),
      List.dropWhile_cons_of_pos (by simp [hcomma])]

namespace Continues

variable {s s' t t' : Text}

theorem of_isSolid (ht : IsSolid t) : Continues t t := by
  have hall : ∀ d ∈ t, (!isBlank d) = true := fun d hd => by rw [ht d hd]; rfl
  intro u r
  rw [tokensFrom, tokensFrom, List.takeWhile_append_of_pos hall, List.dropWhile_append_of_pos hall,
    List.append_assoc]

theorem append (hs : Continues s s') (ht : Continues t t') : Continues (s ++ t) (s' ++ t') := by
  intro u r
  rw [List.append_assoc, hs, ht, List.append_assoc]

/-- A comma adds itself, whatever blanks there are around it. -/
theorem comma {b b' : Text} (hb : IsGap b) (hb' : IsGap b') : Continues (b ++ ',' :: b') [','] := by
  have hcomma : IsSolid [','] := by decide
  intro u r
  calc tokensFrom u (b ++ ',' :: b' ++ r) = tokensFrom u (b ++ ',' :: (b' ++ r)) := by simp
    _ = tokensFrom u ([','] ++ (b' ++ r)) := tokensFrom_gap_comma hb u _
    _ = tokensFrom (u ++ [',']) (b' ++ r) := of_isSolid hcomma u _
    _ = tokensFrom (u ++ [',']) r := tokensFrom_gap hb' List.getLast?_concat r

/-- Two arguments in brackets, with blanks around their comma, add what they add without blanks. -/
theorem arguments {head b b' : Text} (hhead : IsSolid head) (hb : IsGap b) (hb' : IsGap b')
    (hs : Continues s s') (ht : Continues t t') :
    Continues (head ++ '<' :: (s ++ (b ++ ',' :: (b' ++ (t ++ ['>'])))))
      (head ++ '<' :: (s' ++ ',' :: (t' ++ ['>']))) := by
  have hopen : Continues (head ++ ['<']) (head ++ ['<']) :=
    of_isSolid (isSolid_append.mpr ⟨hhead, by decide⟩)
  have hclose : Continues ['>'] ['>'] := of_isSolid (by decide)
  simpa using hopen.append (hs.append ((comma hb hb').append (ht.append hclose)))

/-- What adds a token adds it to an empty one, unless a comma stands at one of its ends. -/
theorem isDrawn (h : Continues t t') (hfirst : ∃ c r, t = c :: r ∧ isBlank c = false ∧ c ≠ ',')
    (hlast : ∃ c, t.getLast? = some c ∧ isBlank c = false ∧ c ≠ ',') : IsDrawn t t' := by
  obtain ⟨c, r, rfl, hc, hcomma⟩ := hfirst
  obtain ⟨d, hd, hd', hcomma'⟩ := hlast
  constructor
  · have hall := h [] []
    rwa [List.append_nil, tokensFrom_nil_cons hc, tokensFrom_nil, List.nil_append] at hall
  · intro w hw
    rw [head?_eq_of_mem_head?_words hw, trimStart, List.dropWhile_cons_of_neg (by simp [hc])]
    simpa using hcomma
  · intro w hw
    rw [getLast?_eq_of_mem_getLast?_words hw hd hd']
    simpa using hcomma'

end Continues

/-- Between words that no comma draws together with it, a text keeps its token to itself. -/
theorem IsDrawn.joinAtCommas_eq {t token : Text} (h : IsDrawn t token) {xs ws : List Text}
    (hxs : ∀ x ∈ xs.getLast?, x.getLast? ≠ some ',')
    (hws : ∀ w ∈ ws.head?, w ≠ [] ∧ w.head? ≠ some ',') :
    joinAtCommas (xs ++ (words t ++ ws)) = joinAtCommas xs ++ token :: joinAtCommas ws := by
  have hdrawn := h.drawn
  have htoken : joinAtCommas (words t ++ ws) = token :: joinAtCommas ws := by
    cases ws with
    | nil => rw [List.append_nil, hdrawn]; rfl
    | cons w ws =>
      obtain ⟨hw, hw'⟩ := hws w rfl
      rw [joinAtCommas_append h.last hw hw', hdrawn]
      rfl
  cases hwords : words t with
  | nil =>
    rw [hwords] at hdrawn
    cases hdrawn
  | cons y ys =>
    have hy : y ≠ [] := (isSolid_of_mem_words (hwords ▸ by simp : y ∈ words t)).2
    have hy' : y.head? ≠ some ',' := h.first y (by simp [hwords])
    rw [hwords] at htoken
    rw [List.cons_append, joinAtCommas_append hxs hy hy', ← List.cons_append, htoken]

end Typings.Source
