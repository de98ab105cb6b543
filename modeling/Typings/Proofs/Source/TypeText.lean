import Typings.Proofs.Source.Line
import Typings.Proofs.Text.Casing
import Typings.Proofs.Text.Pieces
import Typings.Source.TypeText

/-!
# The text of a declared type

What the functions that look for marks in the text of a type, and cut it, do to texts that are put
together from names and marks.
-/

namespace Typings.Source

open Text

/-! ## Names and marks -/

/-- Whether a text has no mark of a collection, in any case. -/
def IsUnmarked (t : Text) : Prop := ∀ m ∈ arrayMarkers, holds m (lower t) = false

instance (t : Text) : Decidable (IsUnmarked t) :=
  List.decidableBAll (fun m => holds m (lower t) = false) arrayMarkers

/-- The marks between the names of a declared type, and the dot inside of names. -/
def typeMarks : List Char := ['?', '[', ']', '<', '>', '.']

theorem not_isNameChar_of_mem {c : Char} (h : c ∈ ['?', '[', ']', '<', '>', ',', '\n']) :
    isNameChar c = false := by
  have key : ['?', '[', ']', '<', '>', ',', '\n'].all (fun d => !isNameChar d) = true := by decide
  simpa using List.all_eq_true.mp key c h

theorem notMem_of_nameChars {t : Text} (ht : ∀ c ∈ t, isNameChar c = true) {c : Char}
    (hc : c ∈ ['?', '[', ']', '<', '>', ',', '\n']) : c ∉ t := by
  intro hmem
  have hname := ht c hmem
  rw [not_isNameChar_of_mem hc] at hname
  cases hname

/-- The characters of names are no blanks. -/
theorem isSolid_of_nameChars {t : Text} (ht : ∀ c ∈ t, isNameChar c = true) : IsSolid t := by
  intro c hc
  by_contra hblank
  rw [Bool.not_eq_false] at hblank
  have hname := ht c hc
  rw [isNameChar, isWordChar_of_isBlank hblank, Bool.false_or, beq_iff_eq] at hname
  subst hname
  exact absurd hblank (by decide)

theorem isUnmarked_iff {t : Text} :
    IsUnmarked t ↔ ∀ m ∈ arrayMarkers, ¬m <:+: t.flatMap lowerChar := by
  have hsigma : ∀ m ∈ arrayMarkers, 'σ' ∉ m ∧ 'ς' ∉ m := by decide
  refine forall_congr' fun m => forall_congr' fun hm => ?_
  rw [← Bool.not_eq_true, holds_iff, infix_lower_iff (hsigma m hm).1 (hsigma m hm).2]

theorem isUnmarked_iff_any {t : Text} :
    IsUnmarked t ↔ arrayMarkers.any (holds · (lower t)) = false := by
  simp [IsUnmarked, List.any_eq_false]

theorem any_arrayMarkers_congr {s t : Text} (h : IsUnmarked s ↔ IsUnmarked t) :
    arrayMarkers.any (holds · (lower s)) = arrayMarkers.any (holds · (lower t)) := by
  rwa [isUnmarked_iff_any, isUnmarked_iff_any, ← Bool.not_eq_true, ← Bool.not_eq_true,
    not_iff_not, ← Bool.eq_iff_iff] at h

/-- A mark between two texts makes no mark of a collection. -/
theorem isUnmarked_append_cons {c : Char} (hc : c ∈ ',' :: typeMarks) {s t : Text} :
    IsUnmarked (s ++ c :: t) ↔ IsUnmarked s ∧ IsUnmarked t := by
  have key : (',' :: typeMarks).all
      (fun c => lowerChar c == [c] && arrayMarkers.all (!·.contains c)) = true := by
    decide
  obtain ⟨hlower, hfree⟩ : lowerChar c = [c] ∧ ∀ m ∈ arrayMarkers, c ∉ m := by
    simpa using List.all_eq_true.mp key c hc
  simp only [isUnmarked_iff]
  rw [← forall_and]
  refine forall_congr' fun m => ?_
  rw [← forall_and]
  refine forall_congr' fun hm => ?_
  rw [List.flatMap_append, List.flatMap_cons, hlower, List.singleton_append,
    infix_append_cons_iff (hfree m hm), not_or]

/-! ## Marks, suffixes and wrappers -/

@[simp] theorem withoutMarks_append (s t : Text) :
    withoutMarks (s ++ t) = withoutMarks s ++ withoutMarks t :=
  List.filter_append ..

theorem withoutMarks_cons {c : Char} (hc : c ≠ '?') (t : Text) :
    withoutMarks (c :: t) = c :: withoutMarks t :=
  List.filter_cons_of_pos (by simpa using hc)

@[simp] theorem withoutMarks_withoutMarks (t : Text) :
    withoutMarks (withoutMarks t) = withoutMarks t := by
  simp [withoutMarks, List.filter_filter]

/-- A text without nullable marks is left as it is. -/
theorem withoutMarks_of_notMem {t : Text} (h : '?' ∉ t) : withoutMarks t = t := by
  rw [withoutMarks, List.filter_eq_self]
  exact bne_of_notMem h

/-- Up to its first bracket, a text has no array suffix. -/
theorem withoutSuffixes_append {s : Text} (h : '[' ∉ s) (r : Text) :
    withoutSuffixes (s ++ r) = s ++ withoutSuffixes r := by
  induction s with
  | nil => rfl
  | cons c s ih =>
    have hc : c ≠ '[' := fun h' => h (by simp [h'])
    have ih := ih fun h' => h (List.mem_cons_of_mem _ h')
    rw [List.cons_append, withoutSuffixes, ih]
    · rfl
    · rintro r rfl -
      exact hc rfl

/-- A suffix is not made by what two texts have at the place where they meet, unless the second one
closes it. -/
theorem withoutSuffixes_append_cons {c : Char} (hc : c ≠ ']') (s t : Text) :
    withoutSuffixes (s ++ c :: t) = withoutSuffixes s ++ withoutSuffixes (c :: t) := by
  induction s using withoutSuffixes.induct with
  | case1 => rfl
  | case2 s ih => exact ih
  | case3 d s hopen ih =>
    have hopen' : ∀ r, d = '[' → s ++ c :: t = ']' :: r → False := by
      intro r hd hs
      cases s with
      | nil => exact hc (List.cons.inj hs).1
      | cons e s => exact hopen s hd (by rw [(List.cons.inj hs).1])
    rw [List.cons_append, withoutSuffixes.eq_3 _ _ hopen', withoutSuffixes.eq_3 _ _ hopen, ih]
    rfl

theorem withoutSuffixes_subset (t : Text) : withoutSuffixes t ⊆ t := by
  induction t using withoutSuffixes.induct with
  | case1 => exact List.Subset.refl _
  | case2 t ih => exact fun c hc => List.mem_cons_of_mem _ (List.mem_cons_of_mem _ (ih hc))
  | case3 c t hopen ih =>
    rw [withoutSuffixes.eq_3 _ _ hopen]
    exact List.cons_subset_cons c ih

/-- A generic type is taken apart into its name and what is between its brackets. -/
theorem generic?_eq_some {head inner : Text} (hne : head ≠ [])
    (hhead : ∀ c ∈ head, isNameChar c = true) (hinner : '\n' ∉ inner) :
    generic? (head ++ '<' :: (inner ++ ['>'])) = some (head, inner) := by
  have hopen : isNameChar '<' = false := by decide
  have hdrop :
      (head ++ '<' :: (inner ++ ['>'])).dropWhile isNameChar = '<' :: (inner ++ ['>']) := by
    rw [List.dropWhile_append_of_pos hhead, List.dropWhile_cons_of_neg (by simp [hopen])]
  have htake : (head ++ '<' :: (inner ++ ['>'])).takeWhile isNameChar = head := by
    rw [List.takeWhile_append_of_pos hhead, List.takeWhile_cons_of_neg (by simp [hopen]),
      List.append_nil]
  rw [generic?, hdrop, htake]
  simp [hne, hinner]

/-- What is taken apart is a name with brackets behind it. -/
theorem generic?_eq_some_iff {t head inner : Text} : generic? t = some (head, inner)
    ↔ head ≠ [] ∧ (∀ c ∈ head, isNameChar c = true) ∧ '\n' ∉ inner
      ∧ t = head ++ '<' :: (inner ++ ['>']) := by
  constructor
  · intro h
    rw [generic?] at h
    split at h
    · next r hr =>
      split at h
      · cases h
      · next hfits =>
        cases h
        simp only [Bool.or_eq_true, List.isEmpty_iff, bne_iff_ne, ne_eq, List.contains_iff_mem,
          not_or, Decidable.not_not] at hfits
        obtain ⟨⟨hne, hlast⟩, hline⟩ := hfits
        obtain ⟨inner, rfl⟩ := List.getLast?_eq_some_iff.mp hlast
        refine ⟨hne, fun c hc => List.mem_takeWhile_imp hc, hline, ?_⟩
        rw [List.dropLast_concat, ← hr, List.takeWhile_append_dropWhile]
    · cases h
  · rintro ⟨hne, hhead, hinner, rfl⟩
    exact generic?_eq_some hne hhead hinner

/-- A name is not generic. -/
theorem generic?_of_nameChars {t : Text} (ht : ∀ c ∈ t, isNameChar c = true) :
    generic? t = none := by
  rw [generic?, List.dropWhile_eq_nil_iff.mpr ht]

theorem unwrapped_of_none {t : Text} (h : generic? t = none) : unwrapped t = t := by
  rw [unwrapped]
  split
  · next h' => rw [h] at h'; cases h'
  · rfl

theorem unwrapped_of_some {t head inner : Text} (h : generic? t = some (head, inner)) :
    unwrapped t = if isWrapper head then unwrapped (trim inner) else t := by
  rw [unwrapped]
  split
  · next h' => rw [h] at h'; cases h'; rfl
  · next h' => rw [h] at h'; cases h'

theorem wrapsCollection_of_none {t : Text} (h : generic? t = none) : wrapsCollection t = false := by
  rw [wrapsCollection]
  split
  · next h' => rw [h] at h'; cases h'
  · rfl

theorem wrapsCollection_of_some {t head inner : Text} (h : generic? t = some (head, inner)) :
    wrapsCollection t = if !isWrapper head then false
      else if afterLast '.' head = nullable then wrapsCollection (trim inner) else true := by
  rw [wrapsCollection]
  split
  · next h' => rw [h] at h'; cases h'; rfl
  · next h' => rw [h] at h'; cases h'

/-! ## Dictionaries -/

/-- The generic types that are dictionaries. -/
def dictionaryNames : List Text := ["Dictionary".toList, "IDictionary".toList]

theorem splitTopLevel_ne_nil (depth : Int) (t : Text) : splitTopLevel depth t ≠ [] := by
  cases t with
  | nil => simp [splitTopLevel]
  | cons c t =>
    rw [splitTopLevel]
    split
    · simp
    · dsimp only
      split <;> simp

/-- Every character but an outer comma goes to the front of the first piece, and a bracket changes
the depth at which the rest is cut. -/
theorem splitTopLevel_cons {c : Char} {depth : Int} (hc : ¬(c = ',' ∧ depth = 0)) (t : Text) :
    splitTopLevel depth (c :: t)
      = (splitTopLevel (if c = '<' then depth + 1 else if c = '>' then depth - 1 else depth)
          t).modifyHead (c :: ·) := by
  rw [splitTopLevel, if_neg hc]
  dsimp only
  split
  · next h => exact absurd h (splitTopLevel_ne_nil _ _)
  · next h => rw [h]; rfl

/-- How many more brackets a text opens than it closes. -/
def nesting (t : Text) : Int := (t.count '<' : Int) - t.count '>'

@[simp] theorem nesting_nil : nesting [] = 0 := rfl

theorem nesting_cons (c : Char) (t : Text) :
    nesting (c :: t) = (if c = '<' then 1 else if c = '>' then -1 else 0) + nesting t := by
  simp only [nesting, List.count_cons, beq_iff_eq]
  split
  · next h =>
    subst h
    rw [if_neg (by decide)]
    omega
  · split <;> omega

theorem nesting_of_notMem {t : Text} (hopen : '<' ∉ t) (hclose : '>' ∉ t) : nesting t = 0 := by
  rw [nesting, List.count_eq_zero.mpr hopen, List.count_eq_zero.mpr hclose]
  rfl

/-- A text none of whose commas is an outer one goes to the front of the first piece, and the rest
is cut at the depth that its brackets lead to. -/
theorem splitTopLevel_nested {s : Text} {depth : Int}
    (hs : ∀ p, p ++ [','] <+: s → depth + nesting p ≠ 0) (t : Text) :
    splitTopLevel depth (s ++ t)
      = (splitTopLevel (depth + nesting s) t).modifyHead (s ++ ·) := by
  induction s generalizing depth with
  | nil =>
    rw [nesting_nil, Int.add_zero]
    exact (congrFun List.modifyHead_id _).symm
  | cons c s ih =>
    have hc : ¬(c = ',' ∧ depth = 0) := by
      rintro ⟨rfl, rfl⟩
      exact hs [] (by simp) (by simp)
    have hinside : (if c = '<' then depth + 1 else if c = '>' then depth - 1 else depth)
        = depth + nesting [c] := by
      rw [nesting_cons, nesting_nil]
      split
      · omega
      · split <;> omega
    have hrest : ∀ p, p ++ [','] <+: s → depth + nesting [c] + nesting p ≠ 0 := by
      intro p hp
      have hcons := hs (c :: p) (List.cons_prefix_cons.mpr ⟨rfl, hp⟩)
      rw [nesting_cons] at hcons ⊢
      rwa [nesting_nil, Int.add_zero, Int.add_assoc]
    have hdepth : depth + nesting [c] + nesting s = depth + nesting (c :: s) := by
      rw [nesting_cons, nesting_cons c s, nesting_nil, Int.add_zero, Int.add_assoc]
    rw [List.cons_append, splitTopLevel_cons hc, hinside, ih hrest, List.modifyHead_modifyHead,
      hdepth]
    rfl

/-- A text without commas and brackets goes to the front of the first piece. -/
theorem splitTopLevel_append {s : Text} (hs : ∀ c ∈ s, c ∉ [',', '<', '>']) (depth : Int)
    (t : Text) : splitTopLevel depth (s ++ t) = (splitTopLevel depth t).modifyHead (s ++ ·) := by
  have hplain : nesting s = 0 :=
    nesting_of_notMem (fun h => hs _ h (by simp)) fun h => hs _ h (by simp)
  have hcut := @splitTopLevel_nested s depth
    (fun p hp => absurd (hp.subset (by simp)) fun h => hs ',' h (by simp)) t
  rwa [hplain, Int.add_zero] at hcut

/-- The arguments are the pieces of what stands between the first and the last bracket. -/
theorem typeArguments_brackets {head r : Text} (hhead : '<' ∉ head) (hr : '>' ∉ r) (inner : Text) :
    typeArguments (head ++ '<' :: (inner ++ '>' :: r)) = (splitTopLevel 0 inner).map trim := by
  have hbody : ((head ++ '<' :: (inner ++ '>' :: r)).dropWhile (· != '<')).drop 1
      = inner ++ '>' :: r := by
    rw [List.dropWhile_append_of_pos (bne_of_notMem hhead), List.dropWhile_cons_of_neg (by simp)]
    rfl
  have hclosed : (inner ++ '>' :: r).contains '>' = true := by
    rw [List.contains_iff_mem]
    simp
  have hinner : (((inner ++ '>' :: r).reverse.dropWhile (· != '>')).drop 1).reverse = inner := by
    have hreverse : (inner ++ '>' :: r).reverse = r.reverse ++ '>' :: inner.reverse := by simp
    have hr' : '>' ∉ r.reverse := by simpa using hr
    rw [hreverse, List.dropWhile_append_of_pos (bne_of_notMem hr'),
      List.dropWhile_cons_of_neg (by simp), List.drop_one, List.tail_cons, List.reverse_reverse]
  rw [typeArguments, hbody, if_pos hclosed, hinner]

end Typings.Source
