import Typings.Path
import Typings.Proofs.Text.Pieces

/-!
# Places

The place that a path leads to is found by its text alone: a name goes down, and double dots go up
again. A path goes through the places of its beginnings. Where a path has no double dots, these are
the beginnings themselves.
-/

namespace Typings.Path

open Text

/-! ## Double dots -/

section Resolve

variable {α : Type} [DecidableEq α] (up : α) (relative : Bool)

@[simp] theorem resolveFrom_nil (above : List α) :
    resolveFrom up relative above [] = above.reverse := by
  simp [resolveFrom]

variable {up}

/-- A name goes down. -/
theorem resolveFrom_cons {s : α} (h : s ≠ up) (above rest : List α) :
    resolveFrom up relative above (s :: rest) = resolveFrom up relative (s :: above) rest := by
  cases above <;> simp [resolveFrom, h]

/-- Double dots go up from a name. -/
theorem resolveFrom_up {top : α} (h : top ≠ up) (below rest : List α) :
    resolveFrom up relative (top :: below) (up :: rest) = resolveFrom up relative below rest := by
  simp [resolveFrom, h]

/-- A name goes down from a place, whose names stand from the top to the bottom. -/
theorem resolveFrom_concat {s : α} (h : s ≠ up) (here rest : List α) :
    resolveFrom up relative (here ++ [s]).reverse rest
      = resolveFrom up relative here.reverse (s :: rest) := by
  rw [List.reverse_append, List.reverse_singleton, List.singleton_append,
    resolveFrom_cons relative h]

variable (up)

/-- Nothing is above the root of all. -/
theorem resolveFrom_up_root (rest : List α) :
    resolveFrom up false [] (up :: rest) = resolveFrom up false [] rest := by
  simp [resolveFrom]

/-- From the root of all no number of double dots leads anywhere else. -/
theorem resolveFrom_replicate (count : Nat) (rest : List α) :
    resolveFrom up false [] (List.replicate count up ++ rest) = resolveFrom up false [] rest := by
  induction count with
  | zero => rfl
  | succ count ih => rw [List.replicate_succ, List.cons_append, resolveFrom_up_root, ih]

/-- What has been read first is all that the rest of the segments depends on. -/
theorem resolveFrom_append (above xs ys : List α) :
    resolveFrom up relative above (xs ++ ys)
      = resolveFrom up relative (resolveFrom up relative above xs).reverse ys := by
  induction xs generalizing above with
  | nil => simp
  | cons x xs ih =>
    rw [List.cons_append]
    by_cases hx : x = up
    · subst hx
      cases above with
      | nil =>
        simp only [resolveFrom, if_true]
        exact ih _
      | cons top below =>
        simp only [resolveFrom, if_true]
        split <;> exact ih _
    · rw [resolveFrom_cons relative hx, resolveFrom_cons relative hx, ih]

variable {up}

/-- Double dots take the last name off a place. At the root of all there is none to take off. -/
theorem resolveFrom_dropLast {here : List α} (h : up ∉ here) (rest : List α) :
    resolveFrom up false here.dropLast.reverse rest
      = resolveFrom up false here.reverse (up :: rest) := by
  rcases List.eq_nil_or_concat here with rfl | ⟨init, last, rfl⟩
  · exact (resolveFrom_up_root up rest).symm
  · have hlast : last ≠ up := fun heq => h (by simp [heq])
    rw [List.concat_eq_append, List.dropLast_concat, List.reverse_append, List.reverse_singleton,
      List.singleton_append, resolveFrom_up false hlast]

/-- Segments without double dots only go down. -/
theorem resolveFrom_of_notMem (above : List α) {xs : List α} (h : up ∉ xs) :
    resolveFrom up relative above xs = above.reverse ++ xs := by
  induction xs generalizing above with
  | nil => simp
  | cons x xs ih =>
    have hx : x ≠ up := fun hx => h (by simp [hx])
    have hxs : up ∉ xs := fun hxs => h (by simp [hxs])
    rw [resolveFrom_cons relative hx, ih _ hxs]
    simp

/-- As many double dots as there are names below a place lead back to it. -/
theorem resolveFrom_climb (above : List α) {names : List α} (h : up ∉ names) (rest : List α) :
    resolveFrom up relative (names ++ above) (List.replicate names.length up ++ rest)
      = resolveFrom up relative above rest := by
  -- the first double dots go up from the name that stands at the head, the lowest one
  induction names with
  | nil => rfl
  | cons x xs ih =>
    have hx : x ≠ up := fun hx => h (by simp [hx])
    have hxs : up ∉ xs := fun hxs => h (by simp [hxs])
    rw [List.length_cons, List.replicate_succ, List.cons_append, List.cons_append,
      resolveFrom_up relative hx, ih hxs]

/-- From the root of all no double dots are left. -/
theorem notMem_resolveFrom {above : List α} (h : up ∉ above) (xs : List α) :
    up ∉ resolveFrom up false above xs := by
  induction xs generalizing above with
  | nil => simpa using h
  | cons x xs ih =>
    by_cases hx : x = up
    · subst hx
      cases above with
      | nil =>
        rw [resolveFrom_up_root]
        exact ih h
      | cons top below =>
        have htop : top ≠ x := fun htop => h (by simp [htop])
        rw [resolveFrom_up false htop]
        exact ih fun hbelow => h (by simp [hbelow])
    · rw [resolveFrom_cons false hx]
      exact ih (by simp [h, Ne.symm hx])

end Resolve

/-! ## The place of a path -/

/-- The place in a tree that a path leads to. -/
def place (p : Path) : List Text := p.resolve.segments

/-- Whether a path has no double dots. -/
def IsPlain (p : Path) : Prop := dotDot ∉ p.segments

/-- Whether some beginning of a path leads to a place. -/
def GoesThrough (p : Path) (q : List Text) : Prop :=
  ∃ before, before <+: p.segments ∧ q = resolveFrom dotDot false [] before

theorem place_of_isPlain {p : Path} (h : p.IsPlain) : p.place = p.segments := by
  rw [place, resolve, resolveFrom_of_notMem false [] h]
  rfl

/-- A path without double dots stays one when segments without double dots are put below it. -/
theorem IsPlain.below {p : Path} (h : p.IsPlain) {below : List Text} (hbelow : dotDot ∉ below) :
    (⟨p.root, p.segments ++ below⟩ : Path).IsPlain := by
  intro hmem
  rcases List.mem_append.mp hmem with hmem | hmem
  · exact h hmem
  · exact hbelow hmem

/-- A path without double dots is normal. -/
theorem normalise_of_isPlain {p : Path} (h : p.IsPlain) : p.normalise = p := by
  rw [normalise, resolveFrom_of_notMem _ [] h]
  rfl

/-- A path without double dots below another path leads below the place of that path. -/
theorem place_below (root : Root) (above : List Text) {below : List Text} (h : dotDot ∉ below) :
    (⟨root, above ++ below⟩ : Path).place = (⟨root, above⟩ : Path).place ++ below := by
  simp only [place, resolve]
  rw [resolveFrom_append, resolveFrom_of_notMem false _ h, List.reverse_reverse]

theorem isPlain_resolve (p : Path) : p.resolve.IsPlain :=
  notMem_resolveFrom (List.not_mem_nil) p.segments

/-- A path goes through the place it leads to. -/
theorem goesThrough_place (p : Path) : p.GoesThrough p.place := ⟨_, List.prefix_rfl, rfl⟩

/-- What the parent of a path goes through, the path goes through. -/
theorem GoesThrough.of_parent {p : Path} {q : List Text} (h : p.parent.GoesThrough q) :
    p.GoesThrough q := by
  obtain ⟨before, hbefore, rfl⟩ := h
  exact ⟨before, hbefore.trans (List.dropLast_prefix _), rfl⟩

/-- A path that is given from its last segment on has its parent in the segments after that one. -/
theorem parent_reverse_cons (root : Root) (s : Text) (above : List Text) :
    (⟨root, (s :: above).reverse⟩ : Path).parent = ⟨root, above.reverse⟩ := by
  rw [parent, List.reverse_cons, List.dropLast_concat]

/-- A path without double dots goes through its beginnings. -/
theorem goesThrough_iff_of_isPlain {p : Path} (h : p.IsPlain) {q : List Text} :
    p.GoesThrough q ↔ q <+: p.segments := by
  have key : ∀ {before}, before <+: p.segments → resolveFrom dotDot false [] before = before := by
    intro before hbefore
    rw [resolveFrom_of_notMem false [] fun hmem => h (hbefore.subset hmem)]
    rfl
  constructor
  · rintro ⟨before, hbefore, rfl⟩
    rwa [key hbefore]
  · intro hq
    exact ⟨q, hq, (key hq).symm⟩

/-! ## Paths from text -/

/-- The text of segments without slashes is read as these segments, but for empty ones and single
dots. An empty segment at the start would make the path absolute. -/
theorem ofText_joinWith {segments : List Text} (hhead : segments.head? ≠ some [])
    (h : ∀ s ∈ segments, '/' ∉ s) :
    ofText (joinWith ['/'] segments)
      = ⟨.relative, segments.filter fun s => s != [] && s != dot⟩ := by
  cases segments with
  | nil => rfl
  | cons s rest =>
    have hroot : rootOf (joinWith ['/'] (s :: rest)) = .relative := by
      obtain ⟨c, cs, rfl⟩ := List.exists_cons_of_ne_nil (l := s) (by simpa using hhead)
      have hc : c ≠ '/' := by
        rintro rfl
        exact h ('/' :: cs) (by simp) (by simp)
      obtain ⟨tail, htail⟩ : ∃ tail, joinWith ['/'] ((c :: cs) :: rest) = c :: tail := by
        rcases eq_or_ne rest [] with rfl | hne
        · exact ⟨cs, by simp [joinWith]⟩
        · exact ⟨_, by rw [joinWith_cons _ _ hne]; rfl⟩
      rw [htail, rootOf]
      all_goals simp [hc]
    rw [ofText, hroot, splitOn_joinWith (by simp) h]

/-- The text of segments that are neither empty nor single dots is read as these segments. A single
dot before them changes nothing. -/
theorem ofText_joinWith_lead {lead segments : List Text} (hlead : lead = [] ∨ lead = [dot])
    (h : ∀ s ∈ segments, s ≠ [] ∧ s ≠ dot ∧ '/' ∉ s) :
    ofText (joinWith ['/'] (lead ++ segments)) = ⟨.relative, segments⟩ := by
  have hall : ∀ s ∈ lead ++ segments, s ≠ [] ∧ '/' ∉ s := by
    intro s hs
    rcases List.mem_append.mp hs with hs | hs
    · rcases hlead with rfl | rfl
      · simp at hs
      · rw [List.mem_singleton.mp hs]
        decide
    · exact ⟨(h s hs).1, (h s hs).2.2⟩
  have hhead : (lead ++ segments).head? ≠ some [] := by
    intro hempty
    exact (hall [] (List.mem_of_head? hempty)).1 rfl
  have hkept : segments.filter (fun s => s != [] && s != dot) = segments :=
    List.filter_eq_self.mpr fun s hs => by simp [(h s hs).1, (h s hs).2.1]
  rw [ofText_joinWith hhead fun s hs => (hall s hs).2, List.filter_append, hkept]
  rcases hlead with rfl | rfl <;> rfl

/-- The text of names is read as these names. -/
theorem ofText_joinWith_names {names : List Text} (h : ∀ s ∈ names, IsName s) :
    ofText (joinWith ['/'] names) = ⟨.relative, names⟩ :=
  ofText_joinWith_lead (Or.inl rfl) fun s hs => ⟨(h s hs).1, (h s hs).2.1, (h s hs).2.2.2⟩

/-- A name is read as a path of one segment. -/
theorem ofText_name {s : Text} (h : IsName s) : ofText s = ⟨.relative, [s]⟩ := by
  have key : ∀ n ∈ [s], IsName n := by simpa using h
  simpa [joinWith] using ofText_joinWith_names key

theorem dotDot_notMem_of_names {names : List Text} (h : ∀ s ∈ names, IsName s) : dotDot ∉ names :=
  fun hmem => (h _ hmem).2.2.1 rfl

end Typings.Path
