import Mathlib.Data.List.Infix
import Typings.Proofs.Source.TypeText

/-!
# Generic arguments

The arguments of a generic type are read back from its text, however deep brackets are nested in
them. What has been scanned of the text matters through its nesting alone: a comma ends an argument
where as many brackets are closed as were opened.
-/

namespace Typings.Source

open Text

/-- What a generic argument is as a text: it closes as many brackets as it opens, has its commas
inside of brackets, and has no blank at either end. -/
structure IsArgument (a : Text) : Prop where
  closed : nesting a = 0
  nested : ∀ p, p ++ [','] <+: a → nesting p ≠ 0
  head : ∀ c ∈ a.head?, isBlank c = false
  last : ∀ c ∈ a.getLast?, isBlank c = false

instance (a : Text) : Decidable (IsArgument a) :=
  have := List.decidableBAll (fun p => p ++ [','] <+: a → nesting p ≠ 0) a.inits
  decidable_of_iff (nesting a = 0 ∧ (∀ p ∈ a.inits, p ++ [','] <+: a → nesting p ≠ 0)
      ∧ a.head?.all (fun c => !isBlank c) = true
      ∧ a.getLast?.all (fun c => !isBlank c) = true) <| by
    simp only [Option.all_eq_true, Bool.not_eq_true']
    constructor
    · rintro ⟨hclosed, hnested, hhead, hlast⟩
      refine ⟨hclosed, fun p hp => hnested p ?_ hp, hhead, hlast⟩
      exact (List.mem_inits p a).mpr ((List.prefix_append p _).trans hp)
    · intro h
      exact ⟨h.closed, fun p _ => h.nested p, h.head, h.last⟩

/-- Arguments with a comma between neighbours, around which there may be blanks. -/
inductive Separated : List Text → Text → Prop
  | one {a : Text} : Separated [a] a
  | cons {a before after t : Text} {args : List Text} : IsGap before → IsGap after →
      Separated args t → Separated (a :: args) (a ++ before ++ ',' :: (after ++ t))

/-- Blanks go to the front of the first piece. -/
theorem splitTopLevel_gap {b : Text} (hb : IsGap b) (depth : Int) (t : Text) :
    splitTopLevel depth (b ++ t) = (splitTopLevel depth t).modifyHead (b ++ ·) := by
  refine splitTopLevel_append (fun c hc hmark => ?_) depth t
  have hsolid : IsSolid [',', '<', '>'] := by decide
  have hblank := hb c hc
  rw [hsolid c hmark] at hblank
  cases hblank

/-- An argument goes to the front of the first piece, and leads back to the depth it starts at. -/
theorem IsArgument.splitTopLevel {a : Text} (ha : IsArgument a) (t : Text) :
    splitTopLevel 0 (a ++ t) = (splitTopLevel 0 t).modifyHead (a ++ ·) := by
  have hcommas : ∀ p, p ++ [','] <+: a → 0 + nesting p ≠ 0 := by
    intro p hp
    rw [Int.zero_add]
    exact ha.nested p hp
  have hcut := splitTopLevel_nested hcommas t
  rwa [ha.closed, Int.add_zero] at hcut

/-- Outside of all brackets a comma starts a new piece. -/
theorem splitTopLevel_comma (t : Text) :
    splitTopLevel 0 (',' :: t) = [] :: splitTopLevel 0 t := by
  rw [splitTopLevel, if_pos ⟨rfl, rfl⟩]

/-- Separated arguments are the pieces at the outer commas, but for the blanks around them. -/
theorem Separated.map_trim_splitTopLevel {args : List Text} {inner : Text}
    (h : Separated args inner) (hargs : ∀ a ∈ args, IsArgument a) {b : Text} (hb : IsGap b) :
    (splitTopLevel 0 (b ++ inner)).map trim = args := by
  -- the blanks behind a comma stand in front of all that is left, so they are carried along
  induction h generalizing b with
  | @one a =>
    have ha := hargs a List.mem_cons_self
    have hpieces : splitTopLevel 0 (b ++ a) = [b ++ a] := by
      rw [splitTopLevel_gap hb, ← List.append_nil a, ha.splitTopLevel, Source.splitTopLevel]
      rfl
    have htrim : trim (b ++ a) = a := by
      simpa using trim_between hb isGap_nil ha.head ha.last
    rw [hpieces, List.map_singleton, htrim]
  | @cons a before after t args hbefore hafter _ ih =>
    have ha := hargs a List.mem_cons_self
    have hpieces : splitTopLevel 0 (b ++ (a ++ before ++ ',' :: (after ++ t)))
        = (b ++ a ++ before) :: splitTopLevel 0 (after ++ t) := by
      rw [splitTopLevel_gap hb, List.append_assoc a, ha.splitTopLevel, splitTopLevel_gap hbefore,
        splitTopLevel_comma]
      simp
    rw [hpieces, List.map_cons, trim_between hb hbefore ha.head ha.last,
      ih (fun c hc => hargs c (List.mem_cons_of_mem _ hc)) hafter]

/-- The arguments of a generic type are read back from its text, whatever blanks there are around
the commas between them. -/
theorem typeArguments_of_separated {head inner : Text} {args : List Text} (hhead : '<' ∉ head)
    (hargs : ∀ a ∈ args, IsArgument a) (h : Separated args inner) :
    typeArguments (head ++ '<' :: (inner ++ ['>'])) = args := by
  have hinner := h.map_trim_splitTopLevel hargs isGap_nil
  rw [List.nil_append] at hinner
  rw [typeArguments_brackets hhead List.not_mem_nil, hinner]

/-- A dictionary whose value has a dictionary in it, with blanks around its comma. -/
theorem typeArguments_of_separated_nested :
    (∀ a ∈ ["string".toList, "List<Map<int, long>>".toList], IsArgument a)
    ∧ Separated ["string".toList, "List<Map<int, long>>".toList]
      "string\t, List<Map<int, long>>".toList
    ∧ typeArguments "Dictionary<string\t, List<Map<int, long>>>".toList
      = ["string".toList, "List<Map<int, long>>".toList] := by
  have hargs : ∀ a ∈ ["string".toList, "List<Map<int, long>>".toList], IsArgument a := by
    decide +kernel
  have hseparated : Separated ["string".toList, "List<Map<int, long>>".toList]
      "string\t, List<Map<int, long>>".toList :=
    @Separated.cons "string".toList ['\t'] [' '] _ _ (by decide) (by decide) .one
  have hhead : '<' ∉ "Dictionary".toList := by decide
  exact ⟨hargs, hseparated, typeArguments_of_separated hhead hargs hseparated⟩

end Typings.Source
