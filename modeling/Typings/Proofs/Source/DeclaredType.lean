import Typings.Proofs.Source.ElementType

/-!
# Declared types

A declared type is the type of an element or a dictionary of such types. A dictionary may have
blanks around its comma; its token has none. The arguments that are cut out of its token are the two
types around the comma.
-/

namespace Typings.Source

open Text

/-! ## Dictionaries -/

/-- A declared type that is a dictionary, with the blanks around its comma. -/
inductive DictionaryType where
  | plain (name : { d : Text // d ∈ dictionaryNames }) (key value : ElementType)
    (before after : { b : Text // IsGap b })
  | optional (d : DictionaryType)

namespace DictionaryType

/-- How the type is written. -/
def text : DictionaryType → Text
  | plain name key value before after =>
    name.1 ++ '<' :: (key.text ++ (before.1 ++ ',' :: (after.1 ++ (value.text ++ ['>']))))
  | optional d => d.text ++ ['?']

/-- How the type is written without blanks. -/
def token : DictionaryType → Text
  | plain name key value _ _ => name.1 ++ '<' :: (key.text ++ ',' :: (value.text ++ ['>']))
  | optional d => d.token ++ ['?']

/-- The type of the keys. -/
def key : DictionaryType → ElementType
  | plain _ key _ _ _ => key
  | optional d => d.key

/-- The type of the values. -/
def value : DictionaryType → ElementType
  | plain _ _ value _ _ => value
  | optional d => d.value

theorem of_mem_dictionaryNames : ∀ n ∈ dictionaryNames,
    n ≠ [] ∧ (∀ c ∈ n, isNameChar c = true) ∧ afterLast '.' n ∈ dictionaryNames := by
  simp only [← List.all_eq_true]
  decide

/-- The type among those that may have dictionaries anywhere. -/
def nested : DictionaryType → NestedType
  | plain ⟨name, h⟩ key value before after =>
    .dictionary ⟨name, (of_mem_dictionaryNames name h).1, (of_mem_dictionaryNames name h).2.1⟩
      (of_mem_dictionaryNames name h).2.2 key.nested value.nested before after
  | optional d => .optional d.nested

variable (d : DictionaryType)

@[simp] theorem text_nested : d.nested.text = d.text := by
  induction d <;> simp_all [nested, text, NestedType.text]

@[simp] theorem token_nested : d.nested.token = d.token := by
  induction d <;> simp_all [nested, token, NestedType.token]

/-- Below its marks, the type is a dictionary of its keys and values. -/
theorem exists_outermost_nested : ∃ n hn before after,
    d.nested.outermost = .dictionary n hn d.key.nested d.value.nested before after := by
  induction d with
  | plain name key value before after => exact ⟨_, _, before, after, rfl⟩
  | optional d ih => exact ih

theorem isDictionary_token : isDictionary d.token = true := by
  have hdictionary : d.nested.hasDictionary = true := by
    induction d with
    | plain => rfl
    | optional d ih => exact ih
  rw [← token_nested, d.nested.isDictionary_token, hdictionary]

theorem notMem_modifiers : d.token ∉ modifiers :=
  d.token_nested ▸ d.nested.notMem_modifiers

/-- The arguments of a dictionary are its key and its value without nullable marks. -/
theorem typeArguments_token : typeArguments (withoutMarks d.token)
    = [d.key.unmarked.text, d.value.unmarked.text] := by
  obtain ⟨n, hn, before, after, hnested⟩ := d.exists_outermost_nested
  have harguments := NestedType.typeArguments_of_dictionary hnested
  rwa [token_nested, ElementType.unmarked_nested, ElementType.unmarked_nested,
    ElementType.token_nested, ElementType.token_nested] at harguments

/-- Blanks are no nullable marks. -/
theorem mark_mem_text_iff : '?' ∈ d.text ↔ '?' ∈ d.token := by
  have hgap : ∀ b : { b : Text // IsGap b }, '?' ∉ b.1 := by
    intro b hmem
    have hblank := b.2 '?' hmem
    exact absurd hblank (by decide)
  induction d with
  | plain name key value before after =>
    simp [text, token, hgap before, hgap after]
  | optional d ih => simp [text, token, ih]

end DictionaryType

/-! ## Declared types -/

/-- A declared type. -/
inductive DeclaredType where
  | element (t : ElementType)
  | dictionary (d : DictionaryType)

namespace DeclaredType

/-- How the type is written. -/
def text : DeclaredType → Text
  | element t => t.text
  | dictionary d => d.text

/-- How the type is written without blanks. -/
def token : DeclaredType → Text
  | element t => t.text
  | dictionary d => d.token

/-- The type among those that may have dictionaries anywhere. -/
def nested : DeclaredType → NestedType
  | element t => t.nested
  | dictionary d => d.nested

/-- The words of a declared type are drawn together into its token. -/
theorem isDrawn_text (t : DeclaredType) : IsDrawn t.text t.token := by
  have htext : t.nested.text = t.text := by
    cases t with
    | element t => exact t.text_nested
    | dictionary d => exact d.text_nested
  have htoken : t.nested.token = t.token := by
    cases t with
    | element t => exact t.token_nested
    | dictionary d => exact d.token_nested
  exact htext ▸ htoken ▸ t.nested.isDrawn_text

theorem notMem_modifiers (t : DeclaredType) : t.token ∉ modifiers := by
  cases t with
  | element t => exact t.notMem_modifiers
  | dictionary d => exact d.notMem_modifiers

/-- A type is optional if there is a nullable mark anywhere in it. -/
theorem isOptional_token (t : DeclaredType) : isOptional t.token = true ↔ '?' ∈ t.text := by
  rw [isOptional, List.contains_iff_mem]
  cases t with
  | element t => exact Iff.rfl
  | dictionary d => exact d.mark_mem_text_iff.symm

end DeclaredType

end Typings.Source
