import Mathlib.Data.List.Chain
import Mathlib.Data.List.TakeWhile
import Mathlib.Tactic.SplitIfs
import Typings.Console.Markup
import Typings.Proofs.Text.Pieces

/-!
# Lines that can be printed

A text in which no opening bracket starts a tag can be printed, and so can a line that puts such
texts between a tag for a color and the tag that closes it. A backslash before the closing tag makes
it text, and the color then goes on to the end.
-/

namespace Typings.Console.Markup

open Text

variable {t u r tag color : Text} {p q : Progress}

/-! ## Texts without tags -/

/-- Whether no opening bracket of a text starts a tag, unless by what comes behind the text. -/
def IsTagless (t : Text) : Prop := t.IsChain fun a b => a = '[' → startsTag b = false

instance (t : Text) : Decidable (IsTagless t) :=
  inferInstanceAs (Decidable (t.IsChain fun a b => a = '[' → startsTag b = false))

theorem isTagless_of_notMem (h : '[' ∉ t) : IsTagless t := by
  induction t with
  | nil => exact .nil
  | cons c t ih =>
    rw [List.mem_cons, not_or] at h
    exact List.isChain_cons.mpr ⟨fun _ _ hc => absurd hc.symm h.1, ih h.2⟩

theorem isTagless_append (ht : IsTagless t) (hu : IsTagless u)
    (h : t.getLast? = some '[' → ∀ c ∈ u.head?, startsTag c = false) : IsTagless (t ++ u) := by
  refine List.isChain_append.mpr ⟨ht, hu, ?_⟩
  rintro a ha b hb rfl
  exact h ha b hb

theorem isTagless_behind (ht : IsTagless t) (hlast : t.getLast? ≠ some '[') (hu : IsTagless u) :
    IsTagless (t ++ u) := isTagless_append ht hu fun h => absurd h hlast

theorem isTagless_joinWith {lines : List Text} (h : ∀ l ∈ lines, IsTagless l) :
    IsTagless (joinWith ['\n'] lines) := by
  induction lines with
  | nil => exact .nil
  | cons l lines ih =>
    obtain ⟨hl, hlines⟩ := List.forall_mem_cons.mp h
    by_cases hnil : lines = []
    · simpa [hnil, joinWith] using hl
    · rw [joinWith_cons _ _ hnil, List.append_assoc]
      refine isTagless_append hl ?_ fun _ c hc => ?_
      · exact isTagless_append (by decide) (ih hlines) (by simp)
      · obtain rfl : '\n' = c := by simpa using hc
        decide

/-- The tag at the start of a text, after its backslashes. -/
def tagHere? (t : Text) : Option (Text × Text) :=
  match t.drop (t.takeWhile (· == '\\')).length with
  | '[' :: inner => tag? inner
  | _ => none

theorem firstTag?_cons (c : Char) (r : Text) : firstTag? (c :: r)
    = match tagHere? (c :: r) with
      | some (tag, rest) =>
        some { before := [], slashes := ((c :: r).takeWhile (· == '\\')).length, tag, rest }
      | none => (firstTag? r).map fun found => { found with before := c :: found.before } := rfl

theorem tag?_eq_none (h : ∀ c ∈ r.head?, startsTag c = false) : tag? r = none := by
  cases r with
  | nil => rfl
  | cons c r => rw [tag?, if_neg (by simp [h c rfl])]

theorem exists_solid (h : ∃ d ∈ t, d ≠ '\\') :
    ∃ s d v, t = s ++ d :: v ∧ (∀ e ∈ s, (e == '\\') = true) ∧ d ≠ '\\' := by
  have hrest : t.dropWhile (· == '\\') ≠ [] := by
    rw [Ne, List.dropWhile_eq_nil_iff]
    obtain ⟨d, hd, hne⟩ := h
    intro hall
    exact hne (by simpa using hall d hd)
  have hslashes : ∀ e ∈ t.takeWhile (· == '\\'), (e == '\\') = true :=
    fun e he => List.mem_takeWhile_imp (p := (· == '\\')) he
  refine ⟨t.takeWhile (· == '\\'), (t.dropWhile (· == '\\')).head hrest,
    (t.dropWhile (· == '\\')).tail, ?_, hslashes, ?_⟩
  · rw [List.cons_head_tail, List.takeWhile_append_dropWhile]
  · simpa using List.head_dropWhile_not (· == '\\') hrest

theorem tagHere?_append {s v : Text} {d : Char} (hs : ∀ e ∈ s, (e == '\\') = true)
    (hd : d ≠ '\\') : tagHere? (s ++ d :: v) = if d = '[' then tag? v else none := by
  have hslashes : (s ++ d :: v).takeWhile (· == '\\') = s := by
    rw [List.takeWhile_append_of_pos hs, List.takeWhile_cons_of_neg (by simpa using hd),
      List.append_nil]
  rw [tagHere?, hslashes, List.drop_left]
  split_ifs with hbracket
  · subst hbracket
    rfl
  · split
    · next heq => exact absurd (List.cons.inj heq).1 hbracket
    · rfl

/-- Within a text without tags there is no tag at a place in front of anything but backslashes, if
only a bracket may follow the text. -/
theorem tagHere?_eq_none (hu : IsTagless u) (hsolid : ∃ d ∈ u, d ≠ '\\')
    (hr : ∀ c ∈ r.head?, c = '[') : tagHere? (u ++ r) = none := by
  obtain ⟨s, d, v, rfl, hs, hd⟩ := exists_solid hsolid
  rw [List.append_assoc, List.cons_append, tagHere?_append hs hd]
  split_ifs with hbracket
  · refine tag?_eq_none fun c hc => ?_
    cases v with
    | nil =>
      rw [hr c hc]
      decide
    | cons e v =>
      obtain rfl : e = c := by simpa using hc
      have hchain := (List.isChain_append.mp hu).2.1
      exact (List.isChain_cons_cons.mp hchain).1 hbracket
  · rfl

theorem firstTag?_of_isTagless (h : IsTagless t) : firstTag? t = none := by
  induction t with
  | nil => rfl
  | cons c t ih =>
    have hhere : tagHere? (c :: t) = none := by
      by_cases hsolid : ∃ d ∈ c :: t, d ≠ '\\'
      · simpa using tagHere?_eq_none h hsolid (r := []) (by simp)
      · push Not at hsolid
        have hall : (c :: t).takeWhile (· == '\\') = c :: t :=
          List.takeWhile_eq_self_iff.mpr fun d hd => by simpa using hsolid d hd
        rw [tagHere?, hall, List.drop_length]
    rw [firstTag?_cons, hhere, ih h.tail]
    rfl

/-! ## The next tag -/

/-- Whether a text in brackets is a tag. -/
def IsTag (tag : Text) : Prop :=
  tag.head?.any startsTag = true ∧ tag.all (fun c => c != '[' && c != ']') = true

instance (tag : Text) : Decidable (IsTag tag) :=
  inferInstanceAs (Decidable (tag.head?.any startsTag = true
    ∧ tag.all (fun c => c != '[' && c != ']') = true))

theorem tag?_append (h : IsTag tag) (r : Text) : tag? (tag ++ ']' :: r) = some (tag, r) := by
  obtain ⟨hstart, hinner⟩ := h
  obtain ⟨c, hhead, hc⟩ := Option.any_eq_true _ _ |>.mp hstart
  obtain ⟨inner, rfl⟩ := List.head?_eq_some_iff.mp hhead
  have hwhile : (inner ++ ']' :: r).takeWhile (fun d => d != '[' && d != ']') = inner := by
    rw [List.takeWhile_append_of_pos, List.takeWhile_cons_of_neg (by decide), List.append_nil]
    intro d hd
    exact List.all_eq_true.mp hinner d (List.mem_cons_of_mem c hd)
  rw [List.cons_append, tag?, if_pos hc, hwhile]
  dsimp only
  rw [List.drop_left]
  rfl

/-- The first tag behind a text without tags. What is left of the text are the backslashes before
the tag. -/
theorem firstTag?_append (hu : IsTagless u) (htag : IsTag tag) (r : Text) :
    ∃ before slashes, firstTag? (u ++ '[' :: (tag ++ ']' :: r)) = some ⟨before, slashes, tag, r⟩
      ∧ u = before ++ List.replicate slashes '\\' := by
  induction u with
  | nil =>
    refine ⟨[], 0, ?_, rfl⟩
    have hhere : tagHere? ('[' :: (tag ++ ']' :: r)) = some (tag, r) := tag?_append htag r
    rw [List.nil_append, firstTag?_cons, hhere]
    rfl
  | cons c u ih =>
    by_cases hsolid : ∃ d ∈ c :: u, d ≠ '\\'
    · have hhere : tagHere? (c :: (u ++ '[' :: (tag ++ ']' :: r))) = none :=
        tagHere?_eq_none hu hsolid (by simp)
      obtain ⟨before, slashes, hfirst, rfl⟩ := ih hu.tail
      refine ⟨c :: before, slashes, ?_, rfl⟩
      rw [List.cons_append, firstTag?_cons, hhere, hfirst]
      rfl
    · push Not at hsolid
      have hall : ∀ d ∈ c :: u, (d == '\\') = true := fun d hd => by simpa using hsolid d hd
      have hhere : tagHere? (c :: u ++ '[' :: (tag ++ ']' :: r)) = some (tag, r) := by
        rw [tagHere?_append hall (by decide), if_pos rfl, tag?_append htag]
      have hslashes : (c :: u ++ '[' :: (tag ++ ']' :: r)).takeWhile (· == '\\') = c :: u := by
        rw [List.takeWhile_append_of_pos hall, List.takeWhile_cons_of_neg (by decide),
          List.append_nil]
      refine ⟨[], (c :: u).length, ?_, List.eq_replicate_iff.mpr ⟨rfl, hsolid⟩⟩
      rw [List.cons_append] at hhere hslashes ⊢
      rw [firstTag?_cons, hhere, hslashes]

/-! ## Printing -/

/-- The colors of marked lines. -/
def tagColors : List Text := ["red".toList, "green".toList, "yellow".toList, "cyan".toList]

theorem isTag_color : ∀ color ∈ tagColors, IsTag color ∧ IsTag ('/' :: color) := by decide

theorem styleError?_color : ∀ color ∈ tagColors, styleError? color = none := by decide +kernel

theorem step_color (hcolor : color ∈ tagColors) : p.step (.tag color)
    = .ok { p with opened := ⟨color, none, p.printed.length⟩ :: p.opened } := by
  simp only [tagColors, List.mem_cons, List.not_mem_nil, or_false] at hcolor
  rcases hcolor with rfl | rfl | rfl | rfl <;> rfl

theorem step_close (hcolor : color ∈ tagColors) {start : Nat} {below : List Opening}
    (hopened : p.opened = ⟨color, none, start⟩ :: below) : p.step (.tag ('/' :: color))
    = .ok { p with
        opened := below, spans := ⟨color, start, p.printed.length⟩ :: p.spans } := by
  obtain ⟨printed, opened, spans⟩ := p
  obtain rfl : opened = _ := hopened
  simp only [tagColors, List.mem_cons, List.not_mem_nil, or_false] at hcolor
  rcases hcolor with rfl | rfl | rfl | rfl <;> rfl

/-- How far a line was printed that has tags for colors only. -/
structure IsColored (p : Progress) : Prop where
  opened : ∀ o ∈ p.opened, o.parameters = none ∧ o.style ∈ tagColors
  spans : ∀ s ∈ p.spans, s.description ∈ tagColors

/-- Plain text in front of other pieces is printed, and changes nothing else. -/
theorem IsColored.afterPlain (hp : IsColored p) (t : Text) (ps : List Piece) :
    ∃ q, IsColored q ∧ q.opened = p.opened
      ∧ (afterPlain t ps).foldlM Progress.step p = ps.foldlM Progress.step q := by
  rw [Markup.afterPlain]
  split_ifs
  · exact ⟨p, hp, rfl, rfl⟩
  · exact ⟨{ p with printed := p.printed ++ shown t }, ⟨hp.opened, hp.spans⟩, rfl, rfl⟩

/-- The pieces up to the first tag behind a text without tags: the tag counts unless an odd number
of backslashes stands before it. -/
theorem IsColored.pieces_append (hp : IsColored p) (hu : IsTagless u) (htag : IsTag tag)
    (r : Text) (fuel : Nat) : ∃ q, IsColored q ∧ q.opened = p.opened
      ∧ ((pieces (fuel + 1) (u ++ '[' :: (tag ++ ']' :: r))).foldlM Progress.step p
          = (.tag tag :: pieces fuel r).foldlM Progress.step q
        ∨ (u.getLast? = some '\\'
          ∧ (pieces (fuel + 1) (u ++ '[' :: (tag ++ ']' :: r))).foldlM Progress.step p
            = (pieces fuel r).foldlM Progress.step q)) := by
  obtain ⟨before, slashes, hfirst, heq⟩ := firstTag?_append hu htag r
  rw [pieces, hfirst]
  dsimp only
  obtain ⟨p₁, hp₁, hopened₁, hfold₁⟩ := hp.afterPlain before (Markup.afterPlain
    (List.replicate (slashes / 2) '\\') ((if slashes % 2 = 0 then Piece.tag tag
      else .plain ('[' :: tag ++ [']'])) :: pieces fuel r))
  obtain ⟨p₂, hp₂, hopened₂, hfold₂⟩ := hp₁.afterPlain (List.replicate (slashes / 2) '\\')
    ((if slashes % 2 = 0 then Piece.tag tag else .plain ('[' :: tag ++ [']'])) :: pieces fuel r)
  rw [hfold₁, hfold₂]
  by_cases heven : slashes % 2 = 0
  · exact ⟨p₂, hp₂, hopened₂.trans hopened₁, Or.inl (by rw [if_pos heven])⟩
  · refine ⟨{ p₂ with printed := p₂.printed ++ shown ('[' :: tag ++ [']']) },
      ⟨hp₂.opened, hp₂.spans⟩, hopened₂.trans hopened₁, Or.inr ⟨?_, by rw [if_neg heven]; rfl⟩⟩
    obtain ⟨n, rfl⟩ := Nat.exists_eq_add_one_of_ne_zero (n := slashes) (by omega)
    rw [heq, List.replicate_succ', ← List.append_assoc, List.getLast?_concat]

theorem IsColored.open_color (hp : IsColored p) (hcolor : color ∈ tagColors) :
    IsColored { p with opened := ⟨color, none, p.printed.length⟩ :: p.opened } :=
  ⟨List.forall_mem_cons.mpr ⟨⟨rfl, hcolor⟩, hp.opened⟩, hp.spans⟩

theorem IsColored.close_color (hp : IsColored p) (hcolor : color ∈ tagColors) {start : Nat}
    {below : List Opening} (hopened : p.opened = ⟨color, none, start⟩ :: below) :
    IsColored { p with
      opened := below, spans := ⟨color, start, p.printed.length⟩ :: p.spans } :=
  ⟨fun o ho => hp.opened o (hopened ▸ List.mem_cons_of_mem _ ho),
    List.forall_mem_cons.mpr ⟨hcolor, hp.spans⟩⟩

/-- Lines whose tags are pairs for colors around texts without tags. What stands before a pair does
not end in a backslash. -/
inductive IsTame : Text → Prop
  | tagless {t : Text} (h : IsTagless t) : IsTame t
  | pair {before color inner rest : Text} (hbefore : IsTagless before)
    (hlast : before.getLast? ≠ some '\\') (hcolor : color ∈ tagColors) (hinner : IsTagless inner)
    (hrest : IsTame rest) : IsTame (before ++ '[' :: (color ++ ']'
      :: (inner ++ '[' :: ('/' :: color ++ ']' :: rest))))

/-- A tame line is gone through without an error. -/
theorem IsTame.foldlM (h : IsTame t) (hp : IsColored p) {fuel : Nat} (hfuel : t.length < fuel) :
    ∃ q, IsColored q ∧ (pieces fuel t).foldlM Progress.step p = .ok q := by
  induction h generalizing p fuel with
  | tagless h =>
    obtain ⟨fuel, rfl⟩ := Nat.exists_eq_add_one_of_ne_zero (Nat.ne_zero_of_lt hfuel)
    rw [pieces, firstTag?_of_isTagless h]
    obtain ⟨q, hq, -, hfold⟩ := hp.afterPlain _ []
    exact ⟨q, hq, hfold⟩
  | @pair before color inner rest hbefore hlast hcolor hinner hrest ih =>
    obtain ⟨fuel, rfl⟩ : ∃ n, fuel = n + 1 + 1 := ⟨fuel - 2, by simp at hfuel; omega⟩
    obtain ⟨hopen, hclose⟩ := isTag_color color hcolor
    obtain ⟨p₁, hp₁, -, hfold | ⟨hslash, -⟩⟩ := hp.pieces_append hbefore hopen
      (inner ++ '[' :: ('/' :: color ++ ']' :: rest)) (fuel + 1)
    · obtain ⟨p₂, hp₂, hopened, hfold₂⟩ :=
        (hp₁.open_color hcolor).pieces_append hinner hclose rest fuel
      rw [hfold, List.foldlM_cons, step_color hcolor]
      change ∃ q, IsColored q ∧ (pieces (fuel + 1) _).foldlM Progress.step _ = .ok q
      rcases hfold₂ with hfold₂ | ⟨-, hfold₂⟩
      · rw [hfold₂, List.foldlM_cons, step_close hcolor hopened]
        exact ih (hp₂.close_color hcolor hopened) (by simp at hfuel; omega)
      · rw [hfold₂]
        exact ih hp₂ (by simp at hfuel; omega)
    · exact absurd hslash hlast

/-- A tame line can be printed. -/
theorem IsTame.exists_render (h : IsTame t) : ∃ shown, render t = .ok shown := by
  have hstart : IsColored {} := ⟨by simp, by simp⟩
  obtain ⟨q, hq, hfold⟩ := h.foldlM hstart (Nat.lt_succ_self _)
  have hspans : ∀ s ∈ q.allSpans, styleError? s.description = none := by
    intro s hs
    refine styleError?_color _ ?_
    rw [Progress.allSpans, List.mem_mergeSort, List.mem_append, List.mem_reverse,
      List.mem_map] at hs
    rcases hs with ⟨o, ho, rfl⟩ | hs
    · obtain ⟨hparameters, hcolor⟩ := hq.opened o ho
      rw [Opening.description, hparameters]
      exact hcolor
    · exact hq.spans s hs
  have hnone : (q.allSpans.filter (Span.isLeft · q.printed)).findSome?
      (fun s => styleError? s.description) = none :=
    List.findSome?_eq_none_iff.mpr fun s hs => hspans s (List.mem_of_mem_filter hs)
  refine ⟨expandTabs q.printed, ?_⟩
  rw [render, hfold]
  simp only [bind, Except.bind, hnone]

end Typings.Console.Markup
