import Typings.Proofs.Source.NestedType

/-!
# Types of elements

The declared types that are commonly written and that are no dictionaries: names with nullable
marks, array suffixes and wrappers around them. Their text is never parsed. Still, the functions
that look for marks in it and cut it say what the syntax tree says: the name inside all layers, and
whether one of the layers is an array.
-/

namespace Typings.Source

open Text

/-! ## Names -/

/-- The name of a type, as it may stand where a type is declared: it is no modifier and has no mark
of a collection. -/
structure TypeName where
  text : Text
  ne_nil : text ≠ []
  nameChars : ∀ c ∈ text, isNameChar c = true
  unmarked : IsUnmarked text
  free : text ∉ modifiers

/-- A wrapper and, perhaps, the namespace that it is taken from. That of the wrapper which is no
collection does not look like one either. -/
structure Wrapper where
  qualifier : Option Text
  bare : Text
  mem_wrappers : bare ∈ wrappers
  nameChars : ∀ q ∈ qualifier, ∀ c ∈ q, isNameChar c = true
  unmarked : bare = nullable → ∀ q ∈ qualifier, IsUnmarked q

/-- How a wrapper is written. -/
def Wrapper.text (w : Wrapper) : Text :=
  match w.qualifier with
  | none => w.bare
  | some q => q ++ '.' :: w.bare

namespace Wrapper

variable (w : Wrapper)

theorem bare_nameChars : ∀ c ∈ w.bare, isNameChar c = true ∧ c ≠ '.' := by
  have key : wrappers.all (fun v => v.all fun c => isNameChar c && c != '.') = true := by decide
  intro c hc
  have hchar := List.all_eq_true.mp (List.all_eq_true.mp key w.bare w.mem_wrappers) c hc
  simpa using hchar

theorem text_nameChars : ∀ c ∈ w.text, isNameChar c = true := by
  intro c hc
  rw [text] at hc
  cases hq : w.qualifier with
  | none =>
    rw [hq] at hc
    exact (w.bare_nameChars c hc).1
  | some q =>
    rw [hq] at hc
    rcases List.mem_append.mp hc with hc | hc
    · exact w.nameChars q hq c hc
    · rcases List.mem_cons.mp hc with rfl | hc
      · decide
      · exact (w.bare_nameChars c hc).1

theorem text_ne_nil : w.text ≠ [] := by
  have key : [] ∉ wrappers := by decide
  rw [text]
  cases w.qualifier with
  | none => exact fun hnil => key (hnil ▸ w.mem_wrappers)
  | some q => simp

/-- What is after the last dot of a wrapper is its name. -/
theorem afterLast_text : afterLast '.' w.text = w.bare := by
  have hdot : '.' ∉ w.bare := fun hmem => (w.bare_nameChars '.' hmem).2 rfl
  rw [text]
  cases w.qualifier with
  | none => exact afterLast_of_notMem hdot
  | some q => exact afterLast_append_cons hdot q

theorem isWrapper_text : isWrapper w.text = true := by
  rw [isWrapper, afterLast_text, List.contains_iff_mem]
  exact w.mem_wrappers

/-- The wrapper that is no collection is not marked as one. -/
theorem isUnmarked_text (h : w.bare = nullable) : IsUnmarked w.text := by
  have hbare : IsUnmarked w.bare := by
    rw [h]
    decide
  rw [text]
  cases hq : w.qualifier with
  | none => exact hbare
  | some q => exact (isUnmarked_append_cons (by decide)).mpr ⟨w.unmarked h q hq, hbare⟩

end Wrapper

/-! ## Types of elements -/

/-- A declared type that is no dictionary. -/
inductive ElementType where
  | name (n : TypeName)
  | optional (t : ElementType)
  | array (t : ElementType)
  | wrapped (w : Wrapper) (t : ElementType)

namespace ElementType

/-- How the type is written. -/
def text : ElementType → Text
  | name n => n.text
  | optional t => t.text ++ ['?']
  | array t => t.text ++ ['[', ']']
  | wrapped w t => w.text ++ '<' :: (t.text ++ ['>'])

/-- The name inside all layers. -/
def core : ElementType → TypeName
  | name n => n
  | optional t | array t | wrapped _ t => t.core

/-- Whether one of the layers is an array: a suffix, or a wrapper that is a collection. -/
def isCollection : ElementType → Bool
  | name _ => false
  | optional t => t.isCollection
  | array _ => true
  | wrapped w t => w.bare != nullable || t.isCollection

/-- The type without nullable marks. -/
def unmarked : ElementType → ElementType
  | name n => name n
  | optional t => t.unmarked
  | array t => array t.unmarked
  | wrapped w t => wrapped w t.unmarked

@[simp] theorem core_unmarked (t : ElementType) : t.unmarked.core = t.core := by
  induction t <;> simp_all [unmarked, core]

@[simp] theorem isCollection_unmarked (t : ElementType) :
    t.unmarked.isCollection = t.isCollection := by
  induction t <;> simp_all [unmarked, isCollection]

/-- The type among those that may have dictionaries in them. -/
def nested : ElementType → NestedType
  | name n => .name ⟨n.text, n.ne_nil, n.nameChars⟩ n.free
  | optional t => .optional t.nested
  | array t => .array t.nested
  | wrapped w t => .wrapped ⟨w.text, w.text_ne_nil, w.text_nameChars⟩ w.isWrapper_text t.nested

@[simp] theorem text_nested (t : ElementType) : t.nested.text = t.text := by
  induction t <;> simp_all [nested, text, NestedType.text]

@[simp] theorem token_nested (t : ElementType) : t.nested.token = t.text := by
  induction t <;> simp_all [nested, text, NestedType.token]

@[simp] theorem unmarked_nested (t : ElementType) : t.nested.unmarked = t.unmarked.nested := by
  induction t <;> simp_all [nested, unmarked, NestedType.unmarked]

@[simp] theorem hasDictionary_nested (t : ElementType) : t.nested.hasDictionary = false := by
  induction t <;> simp_all [nested, NestedType.hasDictionary]

variable (t : ElementType)

/-- The bare name of a type is the name inside all layers. -/
theorem cleanType_text : cleanType t.text = t.core.text := by
  rw [← token_nested]
  induction t with
  | name n => exact NestedType.cleanType_name ⟨n.text, n.ne_nil, n.nameChars⟩
  | optional t ih => exact t.nested.cleanType_optional.trans ih
  | array t ih => exact t.nested.cleanType_array.trans ih
  | wrapped w t ih => exact t.nested.cleanType_wrapped.trans ih

/-- A type is taken for an array if one of its layers is one. -/
theorem isArray_text : isArray t.text = t.isCollection := by
  rw [← token_nested]
  induction t with
  | name n => exact @NestedType.isArray_name ⟨n.text, n.ne_nil, n.nameChars⟩ n.unmarked
  | optional t ih => exact t.nested.isArray_optional.trans ih
  | array t => exact t.nested.isArray_array
  | wrapped w t ih =>
    by_cases hbare : w.bare = nullable
    · have hlayer := @NestedType.isArray_nullable t.nested
        ⟨w.text, w.text_ne_nil, w.text_nameChars⟩ w.isWrapper_text (w.afterLast_text.trans hbare)
        (w.isUnmarked_text hbare)
      rw [isCollection, hbare, bne_self_eq_false, Bool.false_or, ← ih]
      exact hlayer
    · have hcollection : afterLast '.' w.text ≠ nullable := w.afterLast_text ▸ hbare
      rw [isCollection, bne_iff_ne.mpr hbare, Bool.true_or]
      exact NestedType.isArray_of_wrapped rfl hcollection

theorem isDictionary_text : isDictionary t.text = false := by
  rw [← token_nested, t.nested.isDictionary_token, hasDictionary_nested]

theorem notMem_modifiers : t.text ∉ modifiers :=
  t.token_nested ▸ t.nested.notMem_modifiers

end ElementType

end Typings.Source
