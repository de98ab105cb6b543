import Mathlib.Data.List.Forall2
import Typings.Discovery.Roots
import Typings.Proofs.Path.Places

/-!
# Normal paths

Once a path was normalised, its double dots come before all of its names. Such a path goes through
nothing but what holds its place. All roots that settings name are normal; only a base directory
need not be.
-/

namespace Typings

open Typings.Path Text

namespace Path

/-- Whether double dots come first and names after them. -/
def Climbs {α : Type} (up : α) (segments : List α) : Prop :=
  ∃ count names, segments = List.replicate count up ++ names ∧ up ∉ names

/-- Whether a path has double dots only at its start. -/
def IsNormal (p : Path) : Prop := Climbs dotDot p.segments

section Resolve

variable {α : Type} [DecidableEq α] (up : α) (relative : Bool)

/-- Resolved segments have double dots only at their start. -/
theorem climbs_resolveFrom {above : List α} (h : Climbs up above.reverse) (xs : List α) :
    Climbs up (resolveFrom up relative above xs) := by
  induction xs generalizing above with
  | nil => rwa [resolveFrom_nil]
  | cons x xs ih =>
    obtain ⟨count, names, heq, hnames⟩ := h
    have habove : above = names.reverse ++ List.replicate count up := by
      rw [← List.reverse_reverse above, heq]
      simp
    by_cases hx : x = up
    · subst hx
      rcases List.eq_nil_or_concat names with rfl | ⟨init, last, rfl⟩
      · -- there are only double dots so far, and at most one more is added to them
        have hmore : ∀ n, Climbs x (List.replicate n x).reverse := fun n =>
          ⟨n, [], by simp, by simp⟩
        cases count with
        | zero =>
          obtain rfl : above = [] := by simpa using habove
          rw [resolveFrom, if_pos rfl]
          cases relative with
          | true => exact ih (hmore 1)
          | false => exact ih (hmore 0)
        | succ n =>
          obtain rfl : above = x :: List.replicate n x := by
            rw [habove, List.replicate_succ]
            rfl
          rw [resolveFrom, if_pos rfl, if_pos rfl]
          exact ih (hmore (n + 2))
      · have hlast : last ≠ x := fun heq => hnames (by simp [heq])
        have hinit : x ∉ init := fun hmem => hnames (by simp [hmem])
        obtain rfl : above = last :: (init.reverse ++ List.replicate count x) := by
          simpa using habove
        rw [resolveFrom_up relative hlast]
        exact ih ⟨count, init, by simp, hinit⟩
    · rw [resolveFrom_cons relative hx]
      refine ih ⟨count, names ++ [x], by simp [heq], ?_⟩
      simp [hnames, Ne.symm hx]

end Resolve

theorem isNormal_normalise (p : Path) : p.normalise.IsNormal :=
  climbs_resolveFrom dotDot _ ⟨0, [], rfl, by simp⟩ p.segments

/-- What is read member by member is what it was written from, if each member is. -/
theorem eq_map_of_mapM {α β : Type} {f : α → Option β} {g : β → α}
    (hfg : ∀ a b, f a = some b → a = g b) {xs : List α} {ys : List β} (h : xs.mapM f = some ys) :
    xs = ys.map g := by
  induction xs generalizing ys with
  | nil =>
    cases h
    rfl
  | cons x xs ih =>
    rw [List.mapM_cons, Option.bind_eq_bind, Option.bind_eq_some_iff] at h
    obtain ⟨y, hy, h⟩ := h
    obtain ⟨rest, hrest, h⟩ := Option.bind_eq_some_iff.mp h
    cases h
    rw [List.map_cons, ← hfg x y hy, ← ih hrest]

/-- Texts climb if they do as raw text. -/
theorem climbs_of_mapM {raw : List RawText} {names : List Text}
    (h : raw.mapM RawText.text? = some names) (hraw : Climbs (RawText.ofText dotDot) raw) :
    Climbs dotDot names := by
  have hchar : ∀ (p : CodePoint) (c : Char), p.char? = some c → p = .char c := by
    rintro (d | n) c hc
    · cases hc
      rfl
    · cases hc
  have hinj : Function.Injective RawText.ofText :=
    List.map_injective_iff.mpr fun c d hcd => CodePoint.char.inj hcd
  obtain ⟨count, rest, heq, hrest⟩ := hraw
  rw [eq_map_of_mapM (fun _ _ htext => eq_map_of_mapM hchar htext) h] at heq
  obtain ⟨climb, below, rfl, hclimb, rfl⟩ := List.map_eq_append_iff.mp heq
  have hall : ∀ s ∈ climb, s = dotDot := fun s hs =>
    hinj (List.eq_of_mem_replicate (hclimb ▸ List.mem_map_of_mem hs))
  refine ⟨climb.length, below, ?_, fun hmem => hrest (List.mem_map_of_mem hmem)⟩
  rw [← List.eq_replicate_of_mem hall]

/-- A path that raw text stands for is normal. -/
theorem isNormal_ofRaw {p q : Path} {s : RawText} (h : p.ofRaw s = .ok q) : q.IsNormal := by
  rw [ofRaw] at h
  dsimp only at h
  split at h
  · next names hnames =>
    cases h
    exact climbs_of_mapM hnames (climbs_resolveFrom _ _ ⟨0, [], rfl, by simp⟩ _)
  · cases h

namespace IsNormal

variable {p : Path} (h : p.IsNormal)

include h

/-- A normal path is its place after double dots. -/
theorem exists_climb : ∃ count, p.segments = List.replicate count dotDot ++ p.place := by
  obtain ⟨count, names, heq, hnames⟩ := h
  refine ⟨count, ?_⟩
  rw [place, resolve, heq, resolveFrom_replicate, resolveFrom_of_notMem false _ hnames]
  rfl

/-- A normal path goes through what holds its place and through that place, and through nothing
else. -/
theorem goesThrough_iff {q : List Text} : p.GoesThrough q ↔ q <+: p.place := by
  obtain ⟨count, heq⟩ := h.exists_climb
  have hplace : dotDot ∉ p.place := isPlain_resolve p
  have hclimb : ∀ {names}, dotDot ∉ names →
      resolveFrom dotDot false [] (List.replicate count dotDot ++ names) = names := by
    intro names hnames
    rw [resolveFrom_replicate, resolveFrom_of_notMem false _ hnames]
    rfl
  constructor
  · rintro ⟨before, hbefore, rfl⟩
    rw [heq] at hbefore
    rcases List.prefix_or_prefix_of_prefix hbefore (List.prefix_append _ p.place) with
      hin | ⟨rest, rfl⟩
    · have hall : before = List.replicate before.length dotDot :=
        List.eq_replicate_of_mem fun s hs => List.eq_of_mem_replicate (hin.subset hs)
      have hroot := resolveFrom_replicate dotDot before.length []
      rw [List.append_nil, ← hall] at hroot
      rw [hroot]
      exact List.nil_prefix
    · have hrest : rest <+: p.place := (List.prefix_append_right_inj _).mp hbefore
      rw [hclimb fun hmem => hplace (hrest.subset hmem)]
      exact hrest
  · intro hq
    refine ⟨List.replicate count dotDot ++ q, ?_, (hclimb fun hmem => ?_).symm⟩
    · rw [heq]
      exact (List.prefix_append_right_inj _).mpr hq
    · exact hplace (hq.subset hmem)

/-- A normal path goes through nothing but what holds its place, and that place. -/
theorem prefix_place {q : List Text} (hq : p.GoesThrough q) : q <+: p.place :=
  h.goesThrough_iff.mp hq

/-- What holds a normal path is the path of what holds its place, and is normal. -/
theorem parent : p.parent.IsNormal ∧ p.parent.place = p.place.dropLast := by
  obtain ⟨count, heq⟩ := h.exists_climb
  have hplace : dotDot ∉ p.place.dropLast :=
    fun hmem => isPlain_resolve p ((List.dropLast_prefix _).subset hmem)
  obtain ⟨fewer, hfewer⟩ :
      ∃ fewer, p.parent.segments = List.replicate fewer dotDot ++ p.place.dropLast := by
    rw [Path.parent, heq]
    rcases eq_or_ne p.place [] with hnil | hne
    · exact ⟨count - 1, by simp [hnil]⟩
    · exact ⟨count, List.dropLast_append_of_ne_nil hne⟩
  refine ⟨⟨fewer, _, hfewer, hplace⟩, ?_⟩
  rw [place, resolve, hfewer, resolveFrom_replicate, resolveFrom_of_notMem false _ hplace]
  rfl

/-- What holds a normal path below the root of all goes through all that is above the place of the
path. -/
theorem parent_goesThrough_iff (hne : p.place ≠ []) {q : List Text} :
    p.parent.GoesThrough q ↔ q <+: p.place ∧ q ≠ p.place := by
  rw [h.parent.1.goesThrough_iff, h.parent.2, List.dropLast_eq_take]
  rw [List.prefix_take_iff]
  refine and_congr_right fun hq => ⟨?_, fun hdiff => ?_⟩
  · rintro hlength rfl
    have := List.length_pos_iff.mpr hne
    omega
  · have := hq.length_le
    have : q.length ≠ p.place.length := fun heq => hdiff (hq.eq_of_length heq)
    omega

end IsNormal

end Path

/-- The roots that settings name are normal. -/
theorem Discovery.isNormal_rootOf {base root : Path} {item : RawText}
    (h : rootOf base item = .ok root) : root.IsNormal := by
  rw [rootOf] at h
  split at h
  · cases h
    exact isNormal_normalise _
  · exact isNormal_ofRaw h

end Typings
