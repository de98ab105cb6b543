import Mathlib.Algebra.Order.BigOperators.Group.List
import Mathlib.Algebra.Order.Group.Nat
import Typings.Declaration
import Typings.Proofs.FileTree.Growth
import Typings.Proofs.Text.Pieces

/-!
# Adding templates

What templates an engine has after some were added, one after the other. The content that was added
last under a name counts, and an engine of added templates keeps all others. The first template that
is added to the ones that come with the library takes their place, so what was not added is gone,
and no declaration can be written without it.
-/

namespace Typings

open Text Template

namespace TemplateEngine

variable {e e' : TemplateEngine} {added : List (Text × Text)} {name : Text}

/-- The engine after templates were added in turn, each a name and its content. -/
def addAll (e : TemplateEngine) (added : List (Text × Text)) : TemplateEngine :=
  added.foldl (fun e t => e.add t.1 t.2) e

/-- The content that was added last under a name. -/
def lastAdded? (added : List (Text × Text)) (name : Text) : Option Text :=
  added.reverse.lookup name

/-- An engine that has nothing but one template. -/
def only (name content : Text) : TemplateEngine :=
  { templates := [(name, Template.ofText content)] }

/-- Whether two engines answer the same when they are asked for a template of the name, and when
they are told to render it. -/
def AgreeOn (name : Text) (e e' : TemplateEngine) : Prop :=
  e.exists? name = e'.exists? name ∧ ∀ fields, e.render name fields = e'.render name fields

theorem agreeOn_of_find? (h : e.find? name = e'.find? name) : AgreeOn name e e' := by
  refine ⟨?_, fun fields => ?_⟩
  · rw [exists?, exists?, h]
  · rw [render, render, h]

theorem exists?_eq_false_iff : e.exists? name = .ok false ↔ e.find? name = none := by
  rw [exists?]
  cases e.find? name with
  | none => simp
  | some found => cases found <;> simp

/-! ## One template -/

/-- What was added is found under its name. All else is as it was, unless it came with the library.
-/
theorem find?_add (e : TemplateEngine) (name content other : Text) :
    (e.add name content).find? other = if other = name then some (Template.ofText content)
      else if e.shipped then none else e.find? other := by
  rw [add, find?, if_neg (by simp), List.lookup_cons]
  by_cases hname : other = name
  · simp [hname]
  · rw [beq_eq_false_iff_ne.mpr hname, if_neg hname]
    dsimp only
    cases hshipped : e.shipped with
    | true => rfl
    | false =>
      simp only [Bool.false_eq_true, if_false]
      rw [FileTree.lookup_filter fun n => n != name, if_pos (by simpa using hname), find?, hshipped,
        if_neg (by simp)]

/-! ## Templates in turn -/

theorem addAll_concat (e : TemplateEngine) (added : List (Text × Text)) (t : Text × Text) :
    e.addAll (added ++ [t]) = (e.addAll added).add t.1 t.2 := by
  simp [addAll]

theorem lastAdded?_concat (added : List (Text × Text)) (t : Text × Text) (name : Text) :
    lastAdded? (added ++ [t]) name = if name = t.1 then some t.2 else lastAdded? added name := by
  rw [lastAdded?, List.reverse_concat, List.lookup_cons]
  by_cases hname : name = t.1
  · simp [hname]
  · rw [beq_eq_false_iff_ne.mpr hname, if_neg hname]
    rfl

/-- With the first template that is added, an engine has none that come with the library. -/
theorem shipped_addAll (hne : added ≠ []) : (e.addAll added).shipped = false := by
  obtain ⟨added, t, rfl⟩ := (List.eq_nil_or_concat added).resolve_left hne
  rw [List.concat_eq_append, addAll_concat]
  rfl

/-- The content that was added last under a name is what is found. Names under which nothing was
added lead to what they led to before, or nowhere if that came with the library. -/
theorem find?_addAll (e : TemplateEngine) (added : List (Text × Text)) (name : Text) :
    (e.addAll added).find? name = match lastAdded? added name with
      | some content => some (Template.ofText content)
      | none => if e.shipped ∧ added ≠ [] then none else e.find? name := by
  induction added using List.reverseRecOn with
  | nil => simp [addAll, lastAdded?]
  | append_singleton added t ih =>
    rw [addAll_concat, find?_add, lastAdded?_concat, ih]
    by_cases hname : name = t.1
    · simp [hname]
    · rcases eq_or_ne added [] with rfl | hne
      · simp [hname, addAll, lastAdded?]
      · simp [hname, shipped_addAll hne, hne]

/-! ## Spellings of a name -/

/-- A name of a template that comes with the library, with single dots in front of it. -/
def dotted (n : Nat) (name : Text) : Text := (List.replicate n ['.', '/']).flatten ++ name

/-- Single dots in front of a name do not count. -/
theorem find?_dotted (hshipped : e.shipped = true) (n : Nat) (name : Text) :
    e.find? (dotted n name) = e.find? name := by
  have hstep : ∀ t : Text, shippedName? ('.' :: '/' :: t) = shippedName? t := by
    intro t
    have hsplit : splitOn '/' ('.' :: '/' :: t) = ['.'] :: splitOn '/' t :=
      splitOn_append_cons (p := ['.']) (by decide) t
    rw [shippedName?, shippedName?, hsplit]
    simp
  rw [find?, find?, if_pos hshipped, if_pos hshipped]
  congr 1
  induction n with
  | zero => rfl
  | succ n ih =>
    rw [← ih, ← hstep (dotted n name)]
    simp [dotted, List.replicate_succ]

theorem length_dotted (n : Nat) (name : Text) : (dotted n name).length = 2 * n + name.length := by
  simp [dotted, Nat.mul_comm]

/-- Some spelling of a name is longer than all names under which templates were added. -/
theorem exists_lastAdded?_dotted (added : List (Text × Text)) (name : Text) :
    ∃ n, lastAdded? added (dotted n name) = none := by
  refine ⟨(added.map fun t => t.1.length).sum + 1, List.lookup_eq_none_iff.mpr fun t ht => ?_⟩
  have hle : t.1.length ≤ (added.map fun t => t.1.length).sum :=
    List.le_sum_of_mem (List.mem_map_of_mem (List.mem_reverse.mp ht))
  rw [bne_iff_ne]
  intro heq
  have hlength := congrArg List.length heq
  rw [length_dotted] at hlength
  omega

end TemplateEngine

/-! ## Declarations -/

namespace Generator

open Declaration TemplateEngine

variable {g : Generator} {added : List (Text × Text)}

/-- The name of the template that a model is written with. -/
def templateName (m : Model) : Text := if m.isEnum then enumTemplateName else interfaceTemplateName

/-- The generator after templates were added to its engine in turn. -/
def addAll (g : Generator) (added : List (Text × Text)) : Generator :=
  { g with engine := g.engine.addAll added }

/-- The values that a model is written with. -/
def fieldsOf (g : Generator) (m : Model) : List (Text × Value) :=
  if m.isEnum then enumFields g.tagged g.enumValues m else interfaceFields g.tagged m

theorem generate_eq_render (g : Generator) (m : Model) :
    g.generate m = g.render (templateName m) (g.fieldsOf m) := by
  rw [generate, templateName, fieldsOf, Model.isEnum]
  cases m.body <;> rfl

/-- Of an engine, only the template of the model counts. -/
theorem generate_addAll_of_agreeOn {m : Model}
    (h : AgreeOn (templateName m) (g.addAll added).engine g.engine) :
    (g.addAll added).generate m = g.generate m := by
  rw [generate_eq_render, generate_eq_render, render, render, h.1, h.2]
  rfl

/-- What it takes for adding templates to be nothing but adding them: a name that had a template has
one still, a name under which some were added stands for the one that was added last, and with the
other names, and with the declarations of models that need no other, all is as it was. -/
structure OnlyAdds (g : Generator) (added : List (Text × Text)) : Prop where
  kept : ∀ name, g.engine.exists? name ≠ .ok false → (g.addAll added).engine.exists? name ≠ .ok false
  last : ∀ name content, lastAdded? added name = some content →
    AgreeOn name (g.addAll added).engine (only name content)
  others : ∀ name, lastAdded? added name = none → AgreeOn name (g.addAll added).engine g.engine
  declarations : ∀ m, lastAdded? added (templateName m) = none →
    (g.addAll added).generate m = g.generate m

theorem agreeOn_only {name content : Text} (h : lastAdded? added name = some content) :
    AgreeOn name (g.addAll added).engine (only name content) := by
  apply agreeOn_of_find?
  rw [addAll, find?_addAll, h]
  simp [only, find?]

/-- Adding does nothing but add if other names lead to what they led to before. -/
theorem onlyAdds_of_find? (h : ∀ name, lastAdded? added name = none →
    (g.addAll added).engine.find? name = g.engine.find? name) : g.OnlyAdds added := by
  have hothers : ∀ name, lastAdded? added name = none →
      AgreeOn name (g.addAll added).engine g.engine :=
    fun name hnone => agreeOn_of_find? (h name hnone)
  refine ⟨fun name hthere => ?_, fun name content => agreeOn_only, hothers,
    fun m hnone => generate_addAll_of_agreeOn (hothers _ hnone)⟩
  cases hlast : lastAdded? added name with
  | none => rwa [(hothers name hlast).1]
  | some content =>
    rw [ne_eq, exists?_eq_false_iff, addAll, find?_addAll, hlast]
    simp

/-- Once a template was added to those that come with the library, what was not added is nowhere. -/
theorem find?_addAll_of_shipped (hshipped : g.engine.shipped = true) (hne : added ≠ [])
    {name : Text} (hnone : lastAdded? added name = none) :
    (g.addAll added).engine.find? name = none := by
  rw [addAll, find?_addAll, hnone]
  exact if_pos ⟨hshipped, hne⟩

/-- Adding templates does nothing but add them if the engine has none that come with the library, or
if none is added, or if there are none. Whatever the engine, a name stands for the template that was
added last under it. With templates that come with the library and at least one that is added, there
is no template of another name, and no model is written whose template is not among those added. -/
theorem onlyAdds_iff (g : Generator) (added : List (Text × Text)) :
    (g.OnlyAdds added ↔ g.engine.shipped = false ∨ added = []
      ∨ ∀ name, g.engine.exists? name = .ok false)
    ∧ (∀ name content, lastAdded? added name = some content →
      AgreeOn name (g.addAll added).engine (only name content))
    ∧ (g.engine.shipped = true → added ≠ [] →
      (∀ name, lastAdded? added name = none → (g.addAll added).engine.exists? name = .ok false
        ∧ ∀ fields, (g.addAll added).engine.render name fields = .error (.unknownTemplate name))
      ∧ ∀ m, lastAdded? added (templateName m) = none →
        (g.addAll added).generate m = .error (.missingTemplate (templateName m))) := by
  refine ⟨⟨fun h => ?_, fun h => ?_⟩, fun name content => agreeOn_only,
    fun hshipped hne => ⟨fun name hnone => ?_, fun m hnone => ?_⟩⟩
  · by_contra hnot
    simp only [not_or, not_forall, Bool.not_eq_false] at hnot
    obtain ⟨hshipped, hne, name, hthere⟩ := hnot
    -- the template has a spelling under which nothing was added
    obtain ⟨n, hnone⟩ := exists_lastAdded?_dotted added name
    refine h.kept (dotted n name) ?_
      (exists?_eq_false_iff.mpr (find?_addAll_of_shipped hshipped hne hnone))
    rwa [ne_eq, exists?_eq_false_iff, find?_dotted hshipped, ← exists?_eq_false_iff]
  · refine onlyAdds_of_find? fun name hnone => ?_
    rw [addAll, find?_addAll, hnone]
    dsimp only
    split
    · next hlost =>
      have hnowhere := (h.resolve_left (by simp [hlost.1])).resolve_left hlost.2
      exact (exists?_eq_false_iff.mp (hnowhere name)).symm
    · rfl
  · have hfind := find?_addAll_of_shipped hshipped hne hnone
    exact ⟨exists?_eq_false_iff.mpr hfind, fun fields => by rw [TemplateEngine.render, hfind]⟩
  · have hfind := find?_addAll_of_shipped hshipped hne hnone
    rw [generate_eq_render, render, exists?_eq_false_iff.mpr hfind]

/-- Two templates under one name, and one under another between them. -/
def addedTwice : List (Text × Text) :=
  [("a".toList, "old".toList), ("b".toList, "x".toList), ("a".toList, "new".toList)]

/-- The later content of a name counts, in an engine without other templates and in the one of the
library, where the template of enumerations is gone. -/
theorem onlyAdds_iff_twice :
    ({ engine := {} } : Generator).OnlyAdds addedTwice
    ∧ lastAdded? addedTwice "a".toList = some "new".toList
    ∧ AgreeOn "a".toList (({} : Generator).addAll addedTwice).engine
      (only "a".toList "new".toList)
    ∧ (only "a".toList "new".toList).render "a".toList [] = .ok "new".toList
    ∧ ({} : Generator).engine.shipped = true ∧ addedTwice ≠ []
    ∧ lastAdded? addedTwice enumTemplateName = none
    ∧ (({} : Generator).addAll addedTwice).engine.exists? enumTemplateName = .ok false := by
  have hlast : lastAdded? addedTwice "a".toList = some "new".toList := by decide
  have hnone : lastAdded? addedTwice enumTemplateName = none := by decide
  obtain ⟨honly, -, -⟩ := onlyAdds_iff { engine := {} } addedTwice
  obtain ⟨-, hadded, hlost⟩ := onlyAdds_iff {} addedTwice
  exact ⟨honly.mpr (.inl rfl), hlast, hadded _ _ hlast, by decide +kernel, rfl, by decide, hnone,
    ((hlost rfl (by decide)).1 _ hnone).1⟩

/-- One template that is added to those of the library takes the place of all of them. -/
theorem template_displaced :
    Declaration.engine.exists? enumTemplateName = .ok true
    ∧ (Declaration.engine.add "x".toList "y".toList).exists? enumTemplateName = .ok false
    ∧ ¬({} : Generator).OnlyAdds [("x".toList, "y".toList)] := by
  have hthere : Declaration.engine.exists? enumTemplateName = .ok true := rfl
  have hgone : (Declaration.engine.add "x".toList "y".toList).exists? enumTemplateName
      = .ok false := rfl
  refine ⟨hthere, hgone, fun h => h.kept enumTemplateName ?_ hgone⟩
  rw [show ({} : Generator).engine = Declaration.engine from rfl, hthere]
  simp

end Generator

end Typings
