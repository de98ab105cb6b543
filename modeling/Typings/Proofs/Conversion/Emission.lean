import Typings.Conversion
import Typings.Proofs.FileTree.Resilient
import Typings.Proofs.Session

/-!
# Emitting declarations

Declarations are written one after the other. After any number of them each output place holds the
text of the last model that goes there, and everything else is as it was, but for new directories
on the way to an output path.
-/

namespace Typings.Conversion

open FileTree Session Text

variable {g : Generator} {output : Path} {models : List Model} {t t₁ t₂ : FileTree}

/-- The last of some models whose declaration goes to a place. -/
def lastAt? (g : Generator) (output : Path) (q : List Text) (done : List Model) : Option Model :=
  done.reverse.find? fun m => (g.outputPath output m).place = q

/-- What a tree has become when the declarations of some of all models were written. -/
structure Emitted (g : Generator) (output : Path) (models done : List Model) (t t' : FileTree) :
    Prop where
  last : ∀ q m, lastAt? g output q done = some m →
    ∃ content, g.generate m = .ok content ∧ t'.find? q = some (.file (encode content))
  others : ∀ q, lastAt? g output q done = none → t'.find? q = t.find? q
    ∨ (t.find? q = none ∧ t'.find? q = some .directory
      ∧ ∃ m ∈ models, (g.outputPath output m).parent.GoesThrough q)
  ways : ∀ q, lastAt? g output q done = none →
    (∃ m ∈ done, (g.outputPath output m).parent.GoesThrough q) → t'.find? q = some .directory
  closed : t.Closed → t'.Closed

theorem lastAt?_append (q : List Text) (done more : List Model) :
    lastAt? g output q (done ++ more) = (lastAt? g output q more).or (lastAt? g output q done) := by
  rw [lastAt?, List.reverse_append, List.find?_append]
  rfl

/-- The last model at a place is one of the models, and its declaration goes there. -/
theorem mem_of_lastAt? {q : List Text} {done : List Model} {m : Model}
    (h : lastAt? g output q done = some m) : m ∈ done ∧ (g.outputPath output m).place = q := by
  refine ⟨List.mem_reverse.mp (List.mem_of_find?_eq_some h), ?_⟩
  simpa using List.find?_some h

/-- Where the declaration of some model goes, there is a last one. -/
theorem lastAt?_isSome_iff {q : List Text} {done : List Model} :
    (lastAt? g output q done).isSome ↔ ∃ m ∈ done, (g.outputPath output m).place = q := by
  simp [lastAt?]

namespace Emitted

/-- Growth on the way to an output path writes nothing. -/
theorem of_grownBy {m : Model} (hm : m ∈ models)
    (h : GrownBy (g.outputPath output m).parent.GoesThrough t t₁) :
    Emitted g output models [] t t₁ := by
  refine ⟨fun q n hn => (by cases hn), fun q _ => ?_, by simp, h.closed⟩
  rcases h.entry q with heq | ⟨hnone, hdir, hway⟩
  · exact Or.inl heq
  · exact Or.inr ⟨hnone, hdir, m, hm, hway⟩

theorem refl (g : Generator) (output : Path) (models : List Model) (t : FileTree) :
    Emitted g output models [] t t :=
  ⟨fun q n hn => (by cases hn), fun _ _ => Or.inl rfl, by simp, id⟩

/-- One declaration is written. -/
theorem of_writtenAt {m : Model} (hm : m ∈ models) {content : Text}
    (hcontent : g.generate m = .ok content)
    (h : WrittenAt (g.outputPath output m) (encode content) t t₁) :
    Emitted g output models [m] t t₁ := by
  obtain ⟨made, hmade, hready, rfl⟩ := h
  have hone : ∀ q, lastAt? g output q [m]
      = if (g.outputPath output m).place = q then some m else none := by
    intro q
    simp [lastAt?, List.find?_singleton]
  have hother : ∀ q, lastAt? g output q [m] = none →
      (made.insert (g.outputPath output m).place (.file (encode content))).find? q
        = made.find? q := by
    intro q hq
    rw [find?_insert _ hready.place, if_neg]
    rintro rfl
    rw [hone, if_pos rfl] at hq
    cases hq
  refine ⟨fun q n hn => ?_, fun q hq => ?_, fun q hq hway => ?_, fun ht => ?_⟩
  -- at the output path stands the new file; elsewhere only the growth before it counts
  · rw [hone] at hn
    split at hn
    · next hplace =>
      cases hn
      exact ⟨content, hcontent, by rw [find?_insert _ hready.place, if_pos hplace.symm]⟩
    · cases hn
  · rw [hother q hq]
    exact (of_grownBy hm hmade).others q rfl
  · obtain ⟨n, hn, hway⟩ := hway
    rw [List.mem_singleton.mp hn] at hway
    rw [hother q hq, hready.ways q hway]
  · exact (hmade.closed ht).insert hready.place hready.held (Or.inr hready.notDirectory)

/-- Declarations are written one after the other. -/
theorem trans {done more : List Model} (h₁ : Emitted g output models done t t₁)
    (h₂ : Emitted g output models more t₁ t₂) : Emitted g output models (done ++ more) t t₂ := by
  -- where something was found before, nothing new can be made
  have hkept : ∀ q entry, lastAt? g output q more = none → t₁.find? q = some entry →
      t₂.find? q = some entry := by
    intro q entry hmore hfound
    rcases h₂.others q hmore with heq | ⟨hnone, _⟩
    · rw [heq, hfound]
    · rw [hfound] at hnone
      cases hnone
  refine ⟨fun q m hm => ?_, fun q hq => ?_, fun q hq hway => ?_,
    fun ht => h₂.closed (h₁.closed ht)⟩
  · -- the later declarations are written over the earlier ones
    rw [lastAt?_append] at hm
    cases hmore : lastAt? g output q more with
    | some n =>
      rw [hmore, Option.some_or] at hm
      cases hm
      exact h₂.last q m hmore
    | none =>
      rw [hmore, Option.none_or] at hm
      obtain ⟨content, hcontent, hfile⟩ := h₁.last q m hm
      exact ⟨content, hcontent, hkept q _ hmore hfile⟩
  · rw [lastAt?_append, Option.or_eq_none_iff] at hq
    rcases h₂.others q hq.1 with heq | ⟨hnone, hdir, hway⟩
    · rw [heq]
      exact h₁.others q hq.2
    · rcases h₁.others q hq.2 with heq | ⟨_, hdir₁, _⟩
      · exact Or.inr ⟨heq ▸ hnone, hdir, hway⟩
      · rw [hdir₁] at hnone
        cases hnone
  · rw [lastAt?_append, Option.or_eq_none_iff] at hq
    obtain ⟨m, hm, hway⟩ := hway
    rcases List.mem_append.mp hm with hm | hm
    · exact hkept q _ hq.1 (h₁.ways q hq.2 ⟨m, hm, hway⟩)
    · exact h₂.ways q hq.1 ⟨m, hm, hway⟩

end Emitted

/-! ## The run of all models -/

/-- Whether a failure refuses the sources or the settings. All others say that the files or a
declaration could not be made. -/
def Failure.isRejection : Failure → Bool
  | .files _ | .declaration _ => false
  | _ => true

variable {s s' : Session}

/-- Emitting one model writes its declaration at its output path, or reports that this cannot be
done and makes nothing but directories. -/
theorem emit_cases {m : Model} {r : Except Failure Path}
    (h : Session.run (emit g output m) s = (r, s')) :
    (r = .ok (g.outputPath output m) ∧ ∃ content, g.generate m = .ok content
      ∧ WrittenAt (g.outputPath output m) (encode content) s.files s'.files)
    ∨ (∃ e, r = .error e ∧ e.isRejection = false
      ∧ GrownBy (g.outputPath output m).parent.GoesThrough s.files s'.files) := by
  rw [emit] at h
  rw [run_bind_of_ok (run_say _)] at h
  rcases run_bind_ofExcept_cases h with ⟨content, hcontent, h⟩ | ⟨e, he, rfl, rfl⟩
  · have hcontent := mapError_eq_ok.mp hcontent
    rcases run_bind_cases h with ⟨_, s₁, hopen, h⟩ | ⟨e, hopen, rfl⟩
    · cases h
      obtain ⟨done, hfiles, hdone⟩ := run_onFiles_cases hopen
      rcases openForWrite_cases hfiles with ⟨-, hwritten⟩ | ⟨hne, -⟩
      · exact Or.inl ⟨rfl, content, hcontent, hwritten⟩
      · cases done with
        | ok => exact absurd rfl hne
        | error => cases hdone
    · obtain ⟨done, hfiles, hdone⟩ := run_onFiles_cases hopen
      cases done with
      | ok => cases hdone
      | error failure =>
        cases hdone
        rcases openForWrite_cases hfiles with ⟨hok, -⟩ | ⟨-, hgrown⟩
        · cases hok
        · exact Or.inr ⟨_, rfl, rfl, hgrown⟩
  · -- the declaration itself is refused, before any file is opened
    cases hgenerate : g.generate m with
    | ok content =>
      rw [hgenerate] at he
      cases he
    | error failure =>
      rw [hgenerate] at he
      cases he
      exact Or.inr ⟨_, rfl, rfl, GrownBy.refl _ _⟩

/-- Emitting models writes the declarations of all of them, or of those before the first one that
cannot be written. -/
theorem mapM_emit_cases {pending : List Model} (hpending : ∀ m ∈ pending, m ∈ models)
    {r : Except Failure (List Path)}
    (h : Session.run (pending.mapM (emit g output)) s = (r, s')) :
    (r = .ok (pending.map (g.outputPath output))
      ∧ Emitted g output models pending s.files s'.files)
    ∨ ∃ e done, r = .error e ∧ e.isRejection = false ∧ done <+: pending
      ∧ Emitted g output models done s.files s'.files := by
  induction pending generalizing s r with
  | nil =>
    cases h
    exact Or.inl ⟨rfl, Emitted.refl g output models _⟩
  | cons m rest ih =>
    have hm : m ∈ models := hpending m (by simp)
    have hrest : ∀ n ∈ rest, n ∈ models := fun n hn => hpending n (by simp [hn])
    rw [List.mapM_cons] at h
    rcases run_bind_cases h with ⟨path, s₁, hemit, h⟩ | ⟨e, hemit, rfl⟩
    · rcases emit_cases hemit with ⟨hok, content, hcontent, hwritten⟩ | ⟨e, hok, -⟩
      · cases hok
        have hfirst := Emitted.of_writtenAt hm hcontent hwritten
        rcases run_bind_cases h with ⟨paths, s₂, hmore, h⟩ | ⟨e, hmore, rfl⟩
        · cases h
          rcases ih hrest hmore with ⟨hok, hlater⟩ | ⟨e, done, hok, -⟩
          · cases hok
            exact Or.inl ⟨rfl, hfirst.trans hlater⟩
          · cases hok
        · rcases ih hrest hmore with ⟨hok, -⟩ | ⟨e, done, hok, he, hdone, hlater⟩
          · cases hok
          · cases hok
            exact Or.inr ⟨e, m :: done, rfl, he, (List.prefix_cons_inj m).mpr hdone,
              hfirst.trans hlater⟩
      · cases hok
    · rcases emit_cases hemit with ⟨hok, -⟩ | ⟨e, hok, he, hgrown⟩
      · cases hok
      · cases hok
        exact Or.inr ⟨e, [], rfl, he, List.nil_prefix, Emitted.of_grownBy hm hgrown⟩

end Typings.Conversion
