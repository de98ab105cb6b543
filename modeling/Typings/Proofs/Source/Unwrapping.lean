import Mathlib.Logic.Relation
import Typings.Proofs.Source.TypeText

/-!
# Unwrapping

Two loops take wrappers off the text of a type. One takes off all that there are and leaves the bare
name; the other takes off nullable ones and looks whether a collection is below. They go in step
until the second finds a collection, so a type that is not taken for an array loses no layer but
nullable ones.
-/

namespace Typings.Source

open Relation Text

/-- Whether a text is a wrapper of one of the given names, perhaps taken from a namespace, around
another text. -/
def Wraps (names : List Text) (t inner : Text) : Prop :=
  ∃ head, head ≠ [] ∧ (∀ c ∈ head, isNameChar c = true) ∧ afterLast '.' head ∈ names
    ∧ t = head ++ '<' :: (inner ++ ['>'])

/-- One turn of a loop that takes off wrappers of the given names: what is inside is gone on with,
unless it has more than one line, and without the blanks around it. -/
def Unwraps (names : List Text) (t u : Text) : Prop :=
  ∃ inner, '\n' ∉ inner ∧ Wraps names t inner ∧ u = trim inner

/-- Whether a loop that takes off wrappers of the given names ends with a text: it gets there, and
no turn is left. -/
def EndsWith (names : List Text) (t u : Text) : Prop :=
  ReflTransGen (Unwraps names) t u ∧ ∀ v, ¬Unwraps names u v

/-! ## Turns -/

/-- A turn takes a generic type apart. -/
theorem unwraps_iff {names : List Text} {t u : Text} : Unwraps names t u
    ↔ ∃ head inner, generic? t = some (head, inner) ∧ afterLast '.' head ∈ names
      ∧ u = trim inner := by
  constructor
  · rintro ⟨inner, hline, ⟨head, hne, hhead, hname, ht⟩, hu⟩
    exact ⟨head, inner, generic?_eq_some_iff.mpr ⟨hne, hhead, hline, ht⟩, hname, hu⟩
  · rintro ⟨head, inner, hgeneric, hname, hu⟩
    obtain ⟨hne, hhead, hline, ht⟩ := generic?_eq_some_iff.mp hgeneric
    exact ⟨inner, hline, ⟨head, hne, hhead, hname, ht⟩, hu⟩

theorem not_unwraps_of_none {t : Text} (h : generic? t = none) (names : List Text) (u : Text) :
    ¬Unwraps names t u := by
  rw [unwraps_iff]
  rintro ⟨head, inner, hgeneric, -⟩
  rw [h] at hgeneric
  cases hgeneric

theorem unwraps_iff_of_some {t head inner : Text} (h : generic? t = some (head, inner))
    {names : List Text} {u : Text} :
    Unwraps names t u ↔ afterLast '.' head ∈ names ∧ u = trim inner := by
  rw [unwraps_iff]
  constructor
  · rintro ⟨_, _, hgeneric, hname, hu⟩
    rw [h] at hgeneric
    cases hgeneric
    exact ⟨hname, hu⟩
  · rintro ⟨hname, hu⟩
    exact ⟨head, inner, h, hname, hu⟩

/-- Every turn leaves less to unwrap, so that no loop goes on for ever. -/
theorem wellFounded_unwraps (names : List Text) : WellFounded fun u t => Unwraps names t u := by
  refine Subrelation.wf ?_ (measure List.length).wf
  rintro u t h
  obtain ⟨head, inner, hgeneric, -, rfl⟩ := unwraps_iff.mp h
  exact Nat.lt_of_le_of_lt (length_trim_le inner) (length_lt_of_generic? hgeneric)

theorem rightUnique_unwraps (names : List Text) : Relator.RightUnique (Unwraps names) := by
  intro t u v hu hv
  obtain ⟨head, inner, hgeneric, -, rfl⟩ := unwraps_iff.mp hu
  exact ((unwraps_iff_of_some hgeneric).mp hv).2.symm

/-! ## Loops -/

theorem isWrapper_iff {head : Text} : isWrapper head = true ↔ afterLast '.' head ∈ wrappers :=
  List.contains_iff_mem

/-- A loop has one end. -/
theorem EndsWith.unique {names : List Text} {t u v : Text} (hu : EndsWith names t u)
    (hv : EndsWith names t v) : u = v := by
  have hstays : ∀ {u v : Text}, (∀ w, ¬Unwraps names u w) → ReflTransGen (Unwraps names) u v →
      u = v := by
    intro u v hend hrun
    rcases hrun.cases_head with heq | ⟨w, hturn, -⟩
    · exact heq
    · exact absurd hturn (hend w)
  rcases hu.1.total_of_right_unique (rightUnique_unwraps names) hv.1 with hrun | hrun
  · exact hstays hu.2 hrun
  · exact (hstays hv.2 hrun).symm

/-- What is left by the loop that takes off all wrappers is where it ends. -/
theorem endsWith_unwrapped (t : Text) : EndsWith wrappers t (unwrapped t) := by
  induction t using unwrapped.induct with
  | case1 t head inner h hwrapper ih =>
    have hturn : Unwraps wrappers t (trim inner) :=
      (unwraps_iff_of_some h).mpr ⟨isWrapper_iff.mp hwrapper, rfl⟩
    rw [unwrapped_of_some h, if_pos hwrapper]
    exact ⟨.head hturn ih.1, ih.2⟩
  | case2 t head inner h hwrapper =>
    rw [unwrapped_of_some h, if_neg hwrapper]
    refine ⟨.refl, fun v hturn => hwrapper ?_⟩
    exact isWrapper_iff.mpr ((unwraps_iff_of_some h).mp hturn).1
  | case3 t h =>
    rw [unwrapped_of_none h]
    exact ⟨.refl, not_unwraps_of_none h wrappers⟩

/-- The loop that takes off nullable wrappers ends, and finds a collection exactly if there is a
wrapper around what is left. -/
theorem exists_endsWith_nullable (t : Text) : ∃ u, EndsWith [nullable] t u
    ∧ (wrapsCollection t = true ↔ ∃ v, Unwraps wrappers u v) := by
  have hmem : nullable ∈ wrappers := by decide
  induction t using wrapsCollection.induct with
  | case1 t head inner h hother =>
    have hnone : ∀ names ⊆ wrappers, ∀ v, ¬Unwraps names t v := by
      intro names hnames v hturn
      have hwrapper := isWrapper_iff.mpr (hnames ((unwraps_iff_of_some h).mp hturn).1)
      rw [hwrapper] at hother
      cases hother
    refine ⟨t, ⟨.refl, hnone _ (by simpa using hmem)⟩, ?_⟩
    rw [wrapsCollection_of_some h, if_pos hother]
    exact iff_of_false Bool.false_ne_true fun ⟨v, hturn⟩ => hnone _ (List.Subset.refl _) v hturn
  | case2 t head inner h hwrapper hnullable ih =>
    obtain ⟨u, ⟨hrun, hend⟩, hfound⟩ := ih
    have hturn : Unwraps [nullable] t (trim inner) :=
      (unwraps_iff_of_some h).mpr ⟨by simpa using hnullable, rfl⟩
    refine ⟨u, ⟨.head hturn hrun, hend⟩, ?_⟩
    rw [wrapsCollection_of_some h, if_neg hwrapper, if_pos hnullable]
    exact hfound
  | case3 t head inner h hwrapper hcollection =>
    have hturn : Unwraps wrappers t (trim inner) :=
      (unwraps_iff_of_some h).mpr ⟨isWrapper_iff.mp (by simpa using hwrapper), rfl⟩
    refine ⟨t, ⟨.refl, fun v hv => hcollection ?_⟩, ?_⟩
    · simpa using ((unwraps_iff_of_some h).mp hv).1
    · rw [wrapsCollection_of_some h, if_neg hwrapper, if_neg hcollection]
      exact iff_of_true rfl ⟨_, hturn⟩
  | case4 t h =>
    refine ⟨t, ⟨.refl, not_unwraps_of_none h _⟩, ?_⟩
    rw [wrapsCollection_of_none h]
    exact iff_of_false Bool.false_ne_true fun ⟨v, hturn⟩ => not_unwraps_of_none h _ v hturn

theorem Unwraps.mono {names names' : List Text} (h : names ⊆ names') {t u : Text}
    (hturn : Unwraps names t u) : Unwraps names' t u := by
  obtain ⟨inner, hline, ⟨head, hne, hhead, hname, ht⟩, hu⟩ := hturn
  exact ⟨inner, hline, ⟨head, hne, hhead, h hname, ht⟩, hu⟩

/-- Where no collection is found, the loop that takes off all wrappers takes off nullable ones
only. -/
theorem unwrapped_of_not_wrapsCollection {t : Text} (h : wrapsCollection t = false) :
    ReflTransGen (Unwraps [nullable]) t (unwrapped t) := by
  have hmem : [nullable] ⊆ wrappers := by decide
  obtain ⟨u, ⟨hrun, -⟩, hfound⟩ := exists_endsWith_nullable t
  -- the loop for nullable wrappers is in step with the other one, and stops with it
  have hend : EndsWith wrappers t u := by
    refine ⟨hrun.lift id fun _ _ hturn => hturn.mono hmem, fun v hturn => ?_⟩
    rw [hfound.mpr ⟨v, hturn⟩] at h
    cases h
  rwa [← hend.unique (endsWith_unwrapped t)]

/-! ## Texts without blanks -/

theorem Wraps.isSolid {names : List Text} {t inner : Text} (h : Wraps names t inner)
    (ht : IsSolid t) : IsSolid inner := by
  obtain ⟨head, -, -, -, rfl⟩ := h
  exact fun c hc => ht c (by simp [hc])

/-- In a text without blanks a turn takes off a wrapper and nothing else. -/
theorem unwraps_iff_wraps {names : List Text} {t u : Text} (ht : IsSolid t) :
    Unwraps names t u ↔ Wraps names t u := by
  constructor
  · rintro ⟨inner, -, hwraps, rfl⟩
    rwa [trim_of_isSolid (hwraps.isSolid ht)]
  · intro hwraps
    have hu := hwraps.isSolid ht
    have hline : '\n' ∉ u := fun hmem => absurd (hu _ hmem) (by decide)
    exact ⟨u, hline, hwraps, (trim_of_isSolid hu).symm⟩

theorem run_wraps_of_unwraps {names : List Text} {t u : Text} (ht : IsSolid t)
    (h : ReflTransGen (Unwraps names) t u) : ReflTransGen (Wraps names) t u ∧ IsSolid u := by
  induction h with
  | refl => exact ⟨.refl, ht⟩
  | tail _ hturn ih =>
    have hwraps := (unwraps_iff_wraps ih.2).mp hturn
    exact ⟨ih.1.tail hwraps, hwraps.isSolid ih.2⟩

/-! ## Marks and suffixes -/

/-- A text without array suffixes is left as it is. -/
theorem withoutSuffixes_of_not_infix {t : Text} (h : ¬['[', ']'] <:+: t) :
    withoutSuffixes t = t := by
  induction t using withoutSuffixes.induct with
  | case1 => rfl
  | case2 t => exact absurd (List.prefix_append ['[', ']'] t).isInfix h
  | case3 c t hopen ih =>
    rw [withoutSuffixes.eq_3 _ _ hopen, ih fun hrun => h (hrun.trans (List.suffix_cons c t).isInfix)]

/-- An array suffix that is left by nullable marks had nothing but marks in it. -/
theorem exists_infix_of_withoutMarks {t : Text} (h : ['[', ']'] <:+: withoutMarks t) :
    ∃ n, '[' :: (List.replicate n '?' ++ [']']) <:+: t := by
  -- the filter is taken apart at both brackets: what it has dropped between them is all marks
  obtain ⟨before, after, h⟩ := h
  rw [withoutMarks, List.append_assoc, eq_comm, List.filter_eq_append_iff] at h
  obtain ⟨s, rest, rfl, -, h⟩ := h
  obtain ⟨s', rest, rfl, -, -, h⟩ := List.filter_eq_cons_iff.mp h
  obtain ⟨marks, rest, rfl, hmarks, -, -⟩ := List.filter_eq_cons_iff.mp h
  have hall : marks = List.replicate marks.length '?' :=
    List.eq_replicate_of_mem fun c hc => by simpa using hmarks c hc
  refine ⟨marks.length, s ++ s', rest, ?_⟩
  rw [← hall]
  simp

/-- A type that is not taken for an array has no suffix and no wrapper that is a collection taken
off to reach its bare name: without nullable marks it is what is left, inside of nullable wrappers.
The loops that take wrappers off end on every text: the one leaves what no wrapper is around, and
the other finds a collection exactly if a wrapper is left that is not nullable. -/
theorem cleanType_of_not_isArray :
    (∀ t : Text, IsSolid t → (∀ n, ¬ '[' :: (List.replicate (n + 1) '?' ++ [']']) <:+: t) →
      isArray t = false → ∃ u, ReflTransGen (Wraps [nullable]) (t.filter (· != '?')) u
        ∧ (∀ v, ¬Wraps wrappers u v) ∧ cleanType t = u.filter fun c => c != '<' && c != '>')
    ∧ (∀ t, EndsWith wrappers t (unwrapped t))
    ∧ (∀ t, ∃ u, EndsWith [nullable] t u
      ∧ (wrapsCollection t = true ↔ ∃ v, Unwraps wrappers u v))
    ∧ ∀ names, WellFounded fun u t => Unwraps names t u := by
  refine ⟨fun t hsolid hmarks harray => ?_, endsWith_unwrapped, exists_endsWith_nullable,
    wellFounded_unwraps⟩
  rw [isArray, Bool.or_eq_false_iff, Bool.or_eq_false_iff] at harray
  obtain ⟨⟨hsuffix, -⟩, hwraps⟩ := harray
  have hunmarked : IsSolid (withoutMarks t) := fun c hc => hsolid c (List.mem_of_mem_filter hc)
  have hcut : withoutSuffixes (withoutMarks t) = withoutMarks t := by
    refine withoutSuffixes_of_not_infix fun hrun => ?_
    obtain ⟨n, hrun⟩ := exists_infix_of_withoutMarks hrun
    cases n with
    | zero =>
      have hheld : holds "[]".toList t = true := holds_iff.mpr hrun
      rw [hheld] at hsuffix
      cases hsuffix
    | succ n => exact hmarks n hrun
  rw [trim_of_isSolid hunmarked] at hwraps
  obtain ⟨hrun, hleft⟩ := run_wraps_of_unwraps hunmarked (unwrapped_of_not_wrapsCollection hwraps)
  refine ⟨unwrapped (withoutMarks t), hrun, fun v hv => ?_, ?_⟩
  · exact (endsWith_unwrapped (withoutMarks t)).2 v ((unwraps_iff_wraps hleft).mpr hv)
  · rw [cleanType, hcut, trim_of_isSolid hunmarked]

/-- A nullable wrapper from a namespace, around a type with square brackets that are no suffix. -/
def grid : Text := "System.Nullable<Grid[,]?>".toList

/-- Only the wrapper is taken off to reach the bare name of `grid`, which is no array. -/
theorem cleanType_of_not_isArray_grid : isArray grid = false ∧ ∃ u,
    ReflTransGen (Wraps [nullable]) "System.Nullable<Grid[,]>".toList u
      ∧ (∀ v, ¬Wraps wrappers u v)
      ∧ "Grid[,]".toList = u.filter fun c => c != '<' && c != '>' := by
  have hmarks : ∀ n, ¬ '[' :: (List.replicate (n + 1) '?' ++ [']']) <:+: grid := by
    intro n hrun
    have hstart : ['[', '?'] <+: '[' :: (List.replicate (n + 1) '?' ++ [']']) :=
      ⟨List.replicate n '?' ++ [']'], by rw [List.replicate_succ]; rfl⟩
    have hheld : holds ['[', '?'] grid = true := holds_iff.mpr (hstart.isInfix.trans hrun)
    exact absurd hheld (by decide)
  have harray : isArray grid = false := by decide +kernel
  have hclean : cleanType grid = "Grid[,]".toList := by decide +kernel
  obtain ⟨u, hrun, hleft, hu⟩ := cleanType_of_not_isArray.1 grid (by decide) hmarks harray
  exact ⟨harray, u, hrun, hleft, hclean.symm.trans hu⟩

end Typings.Source
