import Typings.Proofs.Source.Token
import Typings.Proofs.Source.TypeText

/-!
# Nested types

The declared types that are built from names with nullable marks, array suffixes, wrappers and
dictionaries, in any nesting. A dictionary may have blanks around its comma; the token of a type has
none. Whether the text of a type is taken for a dictionary depends on all of its layers, and what is
taken for its arguments on the outermost brackets.
-/

namespace Typings.Source

open Text

/-- A name, perhaps with the namespaces that it is taken from. -/
structure QualifiedName where
  text : Text
  ne_nil : text ≠ []
  nameChars : ∀ c ∈ text, isNameChar c = true

theorem QualifiedName.exists_eq_cons (n : QualifiedName) :
    ∃ c r, n.text = c :: r ∧ isNameChar c = true := by
  obtain ⟨c, r, htext⟩ := List.exists_cons_of_ne_nil n.ne_nil
  exact ⟨c, r, htext, n.nameChars c (htext ▸ List.mem_cons_self)⟩

/-- A declared type, with the blanks around the commas of its dictionaries. -/
inductive NestedType where
  | name (n : QualifiedName) (free : n.text ∉ modifiers)
  | optional (t : NestedType)
  | array (t : NestedType)
  | wrapped (w : QualifiedName) (isWrapper : isWrapper w.text = true) (t : NestedType)
  | dictionary (d : QualifiedName) (isDictionary : afterLast '.' d.text ∈ dictionaryNames)
    (key value : NestedType) (before after : { b : Text // IsGap b })

namespace NestedType

/-- How the type is written. -/
def text : NestedType → Text
  | name n _ => n.text
  | optional t => t.text ++ ['?']
  | array t => t.text ++ ['[', ']']
  | wrapped w _ t => w.text ++ '<' :: (t.text ++ ['>'])
  | dictionary d _ key value before after =>
    d.text ++ '<' :: (key.text ++ (before.1 ++ ',' :: (after.1 ++ (value.text ++ ['>']))))

/-- How the type is written without blanks. -/
def token : NestedType → Text
  | name n _ => n.text
  | optional t => t.token ++ ['?']
  | array t => t.token ++ ['[', ']']
  | wrapped w _ t => w.text ++ '<' :: (t.token ++ ['>'])
  | dictionary d _ key value _ _ => d.text ++ '<' :: (key.token ++ ',' :: (value.token ++ ['>']))

/-- The type below trailing marks and suffixes: a name, or an outermost generic type with its
arguments. -/
def outermost : NestedType → NestedType
  | optional t | array t => t.outermost
  | t => t

/-- Whether one of the layers is a dictionary. -/
def hasDictionary : NestedType → Bool
  | name .. => false
  | optional t | array t | wrapped _ _ t => t.hasDictionary
  | dictionary .. => true

/-- The type without nullable marks. -/
def unmarked : NestedType → NestedType
  | name n free => name n free
  | optional t => t.unmarked
  | array t => array t.unmarked
  | wrapped w h t => wrapped w h t.unmarked
  | dictionary d h key value before after =>
    dictionary d h key.unmarked value.unmarked before after

variable (t : NestedType)

/-! ## Characters -/

/-- The token of a type has characters of names and marks. -/
theorem mem_token {t : NestedType} {c : Char} (h : c ∈ t.token) :
    isNameChar c = true ∨ c ∈ ',' :: typeMarks := by
  have hmark : ∀ {d : Char}, d ∈ ',' :: typeMarks → c = d →
      isNameChar c = true ∨ c ∈ ',' :: typeMarks := fun hd hc => Or.inr (hc ▸ hd)
  induction t with
  | name n => exact Or.inl (n.nameChars c h)
  | optional t ih =>
    simp only [token, List.mem_append, List.mem_singleton] at h
    rcases h with h | h
    · exact ih h
    · exact hmark (by decide) h
  | array t ih =>
    simp only [token, List.mem_append, List.mem_cons, List.not_mem_nil, or_false] at h
    rcases h with h | h | h
    · exact ih h
    · exact hmark (by decide) h
    · exact hmark (by decide) h
  | wrapped w _ t ih =>
    simp only [token, List.mem_append, List.mem_cons, List.not_mem_nil, or_false] at h
    rcases h with h | h | h | h
    · exact Or.inl (w.nameChars c h)
    · exact hmark (by decide) h
    · exact ih h
    · exact hmark (by decide) h
  | dictionary d _ key value _ _ ihkey ihvalue =>
    simp only [token, List.mem_append, List.mem_cons, List.not_mem_nil, or_false] at h
    rcases h with h | h | h | h | h | h
    · exact Or.inl (d.nameChars c h)
    · exact hmark (by decide) h
    · exact ihkey h
    · exact hmark (by decide) h
    · exact ihvalue h
    · exact hmark (by decide) h

theorem isSolid_token : IsSolid t.token := by
  intro c hc
  rcases mem_token hc with hname | hmark
  · have hsolid : IsSolid [c] := isSolid_of_nameChars (by simpa using hname)
    exact hsolid c List.mem_cons_self
  · have key : IsSolid (',' :: typeMarks) := by decide
    exact key c hmark

theorem newline_notMem_token : '\n' ∉ t.token := by
  intro hmem
  have hblank := t.isSolid_token '\n' hmem
  exact absurd hblank (by decide)

theorem trim_token : trim t.token = t.token := trim_of_isSolid t.isSolid_token

/-- Blanks stand in dictionaries only. -/
theorem text_eq_token {t : NestedType} (h : t.hasDictionary = false) : t.text = t.token := by
  induction t with
  | name => rfl
  | optional t ih => rw [text, token, ih h]
  | array t ih => rw [text, token, ih h]
  | wrapped w hw t ih => rw [text, token, ih h]
  | dictionary => cases h

theorem token_ne_nil : t.token ≠ [] := by
  cases t <;> simp [token, QualifiedName.ne_nil]

/-- Without a dictionary in it, a type is a single word. -/
theorem words_text {t : NestedType} (h : t.hasDictionary = false) : words t.text = [t.token] := by
  rw [text_eq_token h]
  exact words_of_isSolid t.isSolid_token t.token_ne_nil

theorem generic?_wrapped {w : QualifiedName} (hw : isWrapper w.text = true) :
    generic? (wrapped w hw t).token = some (w.text, t.token) :=
  generic?_eq_some w.ne_nil w.nameChars t.newline_notMem_token

/-- A type starts with a name. -/
theorem exists_text_eq_cons : ∃ c r, t.text = c :: r ∧ isNameChar c = true := by
  induction t with
  | name n =>
    exact n.exists_eq_cons
  | optional t ih =>
    obtain ⟨c, r, htext, hc⟩ := ih
    exact ⟨c, r ++ ['?'], by rw [text, htext]; rfl, hc⟩
  | array t ih =>
    obtain ⟨c, r, htext, hc⟩ := ih
    exact ⟨c, r ++ ['[', ']'], by rw [text, htext]; rfl, hc⟩
  | wrapped w _ t =>
    obtain ⟨c, r, htext, hc⟩ := w.exists_eq_cons
    exact ⟨c, r ++ '<' :: (t.text ++ ['>']), by rw [text, htext]; rfl, hc⟩
  | dictionary d =>
    obtain ⟨c, r, htext, hc⟩ := d.exists_eq_cons
    rw [text, htext]
    exact ⟨c, _, rfl, hc⟩

/-- A type ends with a name or a mark. -/
theorem exists_getLast?_text : ∃ c, t.text.getLast? = some c ∧ isBlank c = false ∧ c ≠ ',' := by
  cases t with
  | name n =>
    have hlast := List.getLast?_eq_some_getLast n.ne_nil
    have hmem := List.mem_of_getLast? hlast
    exact ⟨_, hlast, isSolid_of_nameChars n.nameChars _ hmem,
      fun hcomma => notMem_of_nameChars n.nameChars (by simp) (hcomma ▸ hmem)⟩
  | optional t => exact ⟨'?', List.getLast?_concat, by decide⟩
  | array t => exact ⟨']', by simp [text], by decide⟩
  | wrapped w _ t => exact ⟨'>', by simp [text, List.getLast?_cons], by decide⟩
  | dictionary d => exact ⟨'>', by simp [text, List.getLast?_cons], by decide⟩

/-! ## The token of a type -/

theorem continues_text : Continues t.text t.token := by
  have hname : ∀ n : QualifiedName, IsSolid n.text := fun n => isSolid_of_nameChars n.nameChars
  induction t with
  | name n => exact .of_isSolid (hname n)
  | optional t ih => exact ih.append (.of_isSolid (by decide))
  | array t ih => exact ih.append (.of_isSolid (by decide))
  | wrapped w _ t ih =>
    have hopen : Continues (w.text ++ ['<']) (w.text ++ ['<']) :=
      .of_isSolid (isSolid_append.mpr ⟨hname w, by decide⟩)
    have hclose : Continues ['>'] ['>'] := .of_isSolid (by decide)
    simpa [text, token] using hopen.append (ih.append hclose)
  | dictionary d _ key value before after ihkey ihvalue =>
    exact .arguments (hname d) before.2 after.2 ihkey ihvalue

/-- The words of a type are drawn together into its token. -/
theorem isDrawn_text : IsDrawn t.text t.token := by
  -- no comma stands at an end of a type, so the words around it stay out of its token
  obtain ⟨c, r, htext, hc⟩ := t.exists_text_eq_cons
  have hname : ∀ d ∈ [c], isNameChar d = true := by simpa using hc
  have hcomma : c ≠ ',' := fun h => notMem_of_nameChars hname (c := ',') (by simp) (by simp [h])
  exact t.continues_text.isDrawn ⟨c, r, htext, isSolid_of_nameChars hname c (by simp), hcomma⟩
    t.exists_getLast?_text

/-- A type is no modifier: its name is none, and with a layer it has a mark. -/
theorem notMem_modifiers : t.token ∉ modifiers := by
  have key : ∀ w ∈ modifiers, '?' ∉ w ∧ '[' ∉ w ∧ '<' ∉ w := by decide
  intro hmem
  cases t with
  | name n free => exact free hmem
  | optional t => exact (key _ hmem).1 (by simp [token])
  | array t => exact (key _ hmem).2.1 (by simp [token])
  | wrapped w _ t => exact (key _ hmem).2.2 (by simp [token])
  | dictionary d => exact (key _ hmem).2.2 (by simp [token])

/-! ## Dictionaries -/

theorem hasDictionary_outermost : t.outermost.hasDictionary = t.hasDictionary := by
  induction t with
  | optional t ih => exact ih
  | array t ih => exact ih
  | name | wrapped | dictionary => rfl

/-- A type has a comma if one of its layers is a dictionary. -/
theorem comma_mem_token_iff : ',' ∈ t.token ↔ t.hasDictionary = true := by
  have hname : ∀ n : QualifiedName, ',' ∉ n.text := fun n =>
    notMem_of_nameChars n.nameChars (by decide)
  induction t with
  | name n => simp [token, hasDictionary, hname n]
  | optional t ih => simp [token, hasDictionary, ih]
  | array t ih => simp [token, hasDictionary, ih]
  | wrapped w _ t ih => simp [token, hasDictionary, ih, hname w]
  | dictionary d => simp [token, hasDictionary]

/-- A dictionary in a type stands there with its name and its brackets. -/
theorem exists_dictionary_infix {t : NestedType} (h : t.hasDictionary = true) :
    ∃ d hd key value before after, (dictionary d hd key value before after).token <:+: t.token := by
  induction t with
  | name => cases h
  | optional t ih =>
    obtain ⟨d, hd, key, value, before, after, hinfix⟩ := ih h
    exact ⟨d, hd, key, value, before, after, hinfix.trans (List.prefix_append _ _).isInfix⟩
  | array t ih =>
    obtain ⟨d, hd, key, value, before, after, hinfix⟩ := ih h
    exact ⟨d, hd, key, value, before, after, hinfix.trans (List.prefix_append _ _).isInfix⟩
  | wrapped w hw t ih =>
    obtain ⟨d, hd, key, value, before, after, hinfix⟩ := ih h
    have hinner : t.token <:+: (wrapped w hw t).token := ⟨w.text ++ ['<'], ['>'], by simp [token]⟩
    exact ⟨d, hd, key, value, before, after, hinfix.trans hinner⟩
  | dictionary d hd key value before after =>
    exact ⟨d, hd, key, value, before, after, List.infix_refl _⟩

/-- A type is taken for a dictionary if one of its layers is one, whichever it is. -/
theorem isDictionary_token : isDictionary t.token = t.hasDictionary := by
  cases h : t.hasDictionary with
  | false =>
    have hcomma : t.token.contains ',' = false := by
      rw [← Bool.not_eq_true, List.contains_iff_mem, comma_mem_token_iff, h]
      exact Bool.false_ne_true
    rw [isDictionary, hcomma, Bool.and_false]
  | true =>
    obtain ⟨d, hd, key, value, before, after, hinfix⟩ := exists_dictionary_infix h
    have hnames : ∀ n ∈ dictionaryNames, "Dictionary".toList <:+: n := by
      simp only [← holds_iff]
      decide
    have hlast : afterLast '.' d.text <:+: d.text := by
      obtain ⟨s, hs⟩ := List.takeWhile_prefix (l := d.text.reverse) (· != '.')
      refine ⟨s.reverse, [], ?_⟩
      rw [afterLast, List.append_nil, ← List.reverse_append, hs, List.reverse_reverse]
    have hholds : holds "Dictionary".toList t.token = true := by
      rw [holds_iff]
      exact ((hnames _ hd).trans hlast).trans ((List.prefix_append _ _).isInfix.trans hinfix)
    have hmem : ∀ c ∈ ['<', '>', ','], t.token.contains c = true := by
      intro c hc
      rw [List.contains_iff_mem]
      refine hinfix.subset ?_
      simp only [List.mem_cons, List.not_mem_nil, or_false] at hc
      rcases hc with rfl | rfl | rfl <;> simp [token]
    rw [isDictionary, hholds, hmem '<' (by simp), hmem '>' (by simp), hmem ',' (by simp)]
    rfl

/-! ## Nullable marks -/

theorem withoutMarks_token : withoutMarks t.token = t.unmarked.token := by
  have hname : ∀ n : QualifiedName, withoutMarks n.text = n.text := fun n =>
    withoutMarks_of_notMem (notMem_of_nameChars n.nameChars (by decide))
  have hclose : withoutMarks ['>'] = ['>'] := by decide
  induction t with
  | name n => exact hname n
  | optional t ih =>
    rw [token, withoutMarks_append, ih]
    exact List.append_nil _
  | array t ih =>
    rw [token, withoutMarks_append, ih]
    rfl
  | wrapped w _ t ih =>
    rw [token, withoutMarks_append, withoutMarks_cons (by decide), withoutMarks_append, hname, ih,
      hclose]
    rfl
  | dictionary d _ key value _ _ ihkey ihvalue =>
    rw [token, withoutMarks_append, withoutMarks_cons (by decide), withoutMarks_append,
      withoutMarks_cons (by decide), withoutMarks_append, hname, ihkey, ihvalue, hclose]
    rfl

theorem outermost_unmarked : t.unmarked.outermost = t.outermost.unmarked := by
  induction t with
  | optional t ih => exact ih
  | array t ih => exact ih
  | name | wrapped | dictionary => rfl

/-- A nullable mark neither makes nor breaks a mark of a collection. -/
theorem isUnmarked_unmarked_iff : IsUnmarked t.unmarked.token ↔ IsUnmarked t.token := by
  have hnil : IsUnmarked [] ↔ True := iff_true_intro (by decide)
  have hmark : ∀ {c : Char} {s r : Text}, c ∈ ',' :: typeMarks →
      (IsUnmarked (s ++ c :: r) ↔ IsUnmarked s ∧ IsUnmarked r) :=
    fun hc => isUnmarked_append_cons hc
  induction t with
  | name => rfl
  | optional t ih => simp only [token, unmarked, hmark (c := '?') (by decide), hnil, and_true, ih]
  | array t ih =>
    simp only [token, unmarked, hmark (c := '[') (by decide), ih]
  | wrapped w _ t ih =>
    simp only [token, unmarked, hmark (c := '<') (by decide), hmark (c := '>') (by decide), ih]
  | dictionary d _ key value _ _ ihkey ihvalue =>
    simp only [token, unmarked, hmark (c := '<') (by decide), hmark (c := ',') (by decide),
      hmark (c := '>') (by decide), ihkey, ihvalue]

/-- A square bracket in a type belongs to an array suffix. -/
theorem suffix_infix_of_mem {t : NestedType} (h : '[' ∈ t.token) : "[]".toList <:+: t.token := by
  have hname : ∀ n : QualifiedName, '[' ∉ n.text := fun n =>
    notMem_of_nameChars n.nameChars (by decide)
  induction t with
  | name n => exact absurd h (hname n)
  | optional t ih =>
    have ht : '[' ∈ t.token := by simpa [token] using h
    exact (ih ht).trans (List.prefix_append _ _).isInfix
  | array t => exact (List.suffix_append t.token _).isInfix
  | wrapped w _ t ih =>
    have ht : '[' ∈ t.token := by simpa [token, hname w] using h
    exact (ih ht).trans ⟨w.text ++ ['<'], ['>'], by simp [token]⟩
  | dictionary d _ key value _ _ ihkey ihvalue =>
    have harguments : '[' ∈ key.token ∨ '[' ∈ value.token := by simpa [token, hname d] using h
    rcases harguments with hkey | hvalue
    · exact (ihkey hkey).trans ⟨d.text ++ ['<'], ',' :: (value.token ++ ['>']), by simp [token]⟩
    · exact (ihvalue hvalue).trans ⟨d.text ++ '<' :: (key.token ++ [',']), ['>'], by simp [token]⟩

theorem holds_suffix_iff : holds "[]".toList t.token = true ↔ '[' ∈ t.token := by
  rw [holds_iff]
  exact ⟨fun h => h.subset (by decide), suffix_infix_of_mem⟩

theorem cleanType_unmarked : cleanType t.unmarked.token = cleanType t.token := by
  rw [cleanType, cleanType, ← withoutMarks_token, withoutMarks_withoutMarks]

theorem isArray_unmarked : isArray t.unmarked.token = isArray t.token := by
  have hsuffix : holds "[]".toList t.unmarked.token = holds "[]".toList t.token := by
    rw [Bool.eq_iff_iff, holds_suffix_iff, holds_suffix_iff, ← withoutMarks_token, withoutMarks]
    simp
  have hmarker := any_arrayMarkers_congr t.isUnmarked_unmarked_iff
  rw [isArray, isArray, hsuffix, hmarker, ← withoutMarks_token, withoutMarks_withoutMarks]

/-! ## Arguments -/

/-- The token of a type goes to the front of the first piece, unless it is cut at a depth that its
brackets lead out of: its commas are inside of them. -/
theorem splitTopLevel_token {depth : Int} (hdepth : 0 ≤ depth) (r : Text) :
    splitTopLevel depth (t.token ++ r) = (splitTopLevel depth r).modifyHead (t.token ++ ·) := by
  have hname : ∀ (n : QualifiedName) (depth : Int) (r : Text),
      splitTopLevel depth (n.text ++ r) = (splitTopLevel depth r).modifyHead (n.text ++ ·) := by
    have hmarks : [',', '<', '>'] ⊆ ['?', '[', ']', '<', '>', ',', '\n'] := by simp
    intro n depth r
    refine splitTopLevel_append (fun c hc hmem => ?_) depth r
    exact notMem_of_nameChars n.nameChars (hmarks hmem) hc
  have hopen : ∀ (depth : Int) (r : Text),
      splitTopLevel depth ('<' :: r) = (splitTopLevel (depth + 1) r).modifyHead ('<' :: ·) := by
    intro depth r
    rw [splitTopLevel_cons (by simp), if_pos rfl]
  -- behind the closing bracket the depth is what it was
  have hclose : ∀ (depth : Int) (r : Text),
      splitTopLevel (depth + 1) ('>' :: r) = (splitTopLevel depth r).modifyHead ('>' :: ·) := by
    intro depth r
    rw [splitTopLevel_cons (by simp), if_neg (by decide), if_pos rfl]
    congr 2
    omega
  induction t generalizing depth r with
  | name n => exact hname n depth r
  | optional t ih =>
    rw [token, List.append_assoc, ih hdepth, splitTopLevel_append (by simp),
      List.modifyHead_modifyHead]
    simp only [Function.comp_def, List.append_assoc]
  | array t ih =>
    rw [token, List.append_assoc, ih hdepth, splitTopLevel_append (by simp),
      List.modifyHead_modifyHead]
    simp only [Function.comp_def, List.append_assoc]
  | wrapped w hw t ih =>
    have htoken : (wrapped w hw t).token ++ r = w.text ++ '<' :: (t.token ++ '>' :: r) := by
      simp [token]
    rw [htoken, hname, hopen, ih (by omega), hclose]
    simp [token, Function.comp_def]
  | dictionary d hd key value before after ihkey ihvalue =>
    have htoken : (dictionary d hd key value before after).token ++ r
        = d.text ++ '<' :: (key.token ++ ',' :: (value.token ++ '>' :: r)) := by
      simp [token]
    have hcomma : ∀ r : Text, splitTopLevel (depth + 1) (',' :: r)
        = (splitTopLevel (depth + 1) r).modifyHead (',' :: ·) := by
      intro r
      have hinside : ¬(',' = ',' ∧ depth + 1 = 0) := fun h => by omega
      rw [splitTopLevel_cons hinside, if_neg (by decide), if_neg (by decide)]
    rw [htoken, hname, hopen, ihkey (by omega), hcomma, ihvalue (by omega), hclose]
    simp [token, Function.comp_def]

/-- A token alone is not cut. -/
theorem splitTopLevel_token_self : splitTopLevel 0 t.token = [t.token] := by
  have happend := t.splitTopLevel_token (Int.le_refl 0) []
  rw [List.append_nil] at happend
  rw [happend]
  simp [splitTopLevel]

/-- Below the outermost type there are only marks and suffixes. -/
theorem exists_token_eq_append : ∃ r, '>' ∉ r ∧ t.token = t.outermost.token ++ r := by
  induction t with
  | optional t ih =>
    obtain ⟨r, hr, htoken⟩ := ih
    exact ⟨r ++ ['?'], by simp [hr], by rw [token, htoken, outermost, List.append_assoc]⟩
  | array t ih =>
    obtain ⟨r, hr, htoken⟩ := ih
    exact ⟨r ++ ['[', ']'], by simp [hr], by rw [token, htoken, outermost, List.append_assoc]⟩
  | name | wrapped | dictionary => exact ⟨[], by simp, (List.append_nil _).symm⟩

section Outermost

variable {t} {w d : QualifiedName} {hw : isWrapper w.text = true}
  {hd : afterLast '.' d.text ∈ dictionaryNames} {argument key value : NestedType}
  {before after : { b : Text // IsGap b }}

/-- The arguments of a dictionary are its two arguments without nullable marks. -/
theorem typeArguments_of_dictionary (h : t.outermost = dictionary d hd key value before after) :
    typeArguments (withoutMarks t.token) = [key.unmarked.token, value.unmarked.token] := by
  obtain ⟨r, hr, htoken⟩ := t.unmarked.exists_token_eq_append
  have hbrackets : t.unmarked.token
      = d.text ++ '<' :: ((key.unmarked.token ++ ',' :: value.unmarked.token) ++ '>' :: r) := by
    rw [htoken, outermost_unmarked, h]
    simp [unmarked, token]
  have hhead : '<' ∉ d.text := notMem_of_nameChars d.nameChars (by decide)
  have hsplit : splitTopLevel 0 (key.unmarked.token ++ ',' :: value.unmarked.token)
      = [key.unmarked.token, value.unmarked.token] := by
    rw [splitTopLevel_token _ (Int.le_refl 0), splitTopLevel, if_pos ⟨rfl, rfl⟩,
      splitTopLevel_token_self]
    simp
  rw [withoutMarks_token, hbrackets, typeArguments_brackets hhead hr, hsplit]
  simp only [List.map_cons, List.map_nil, trim_token]

/-- A wrapper has one argument only, whatever commas there are in it. -/
theorem typeArguments_of_wrapped (h : t.outermost = wrapped w hw argument) :
    typeArguments (withoutMarks t.token) = [argument.unmarked.token] := by
  obtain ⟨r, hr, htoken⟩ := t.unmarked.exists_token_eq_append
  have hbrackets : t.unmarked.token = w.text ++ '<' :: (argument.unmarked.token ++ '>' :: r) := by
    rw [htoken, outermost_unmarked, h]
    simp [unmarked, token]
  have hhead : '<' ∉ w.text := notMem_of_nameChars w.nameChars (by decide)
  rw [withoutMarks_token, hbrackets, typeArguments_brackets hhead hr, splitTopLevel_token_self,
    List.map_singleton, trim_token]

/-- Without array suffixes, a type without nullable marks is its outermost type. -/
theorem suffix_or_unmarked_eq (t : NestedType) :
    '[' ∈ t.token ∨ t.unmarked = t.outermost.unmarked := by
  induction t with
  | optional t ih => exact ih.imp_left fun hmem => List.mem_append_left _ hmem
  | array t => exact Or.inl (by simp [token])
  | name | wrapped | dictionary => exact Or.inr rfl

/-- A type is an array if its outermost type is a wrapper that is a collection. -/
theorem isArray_of_wrapped (h : t.outermost = wrapped w hw argument)
    (hcollection : afterLast '.' w.text ≠ nullable) : isArray t.token = true := by
  rw [isArray]
  rcases t.suffix_or_unmarked_eq with hsuffix | hunmarked
  · rw [t.holds_suffix_iff.mpr hsuffix]
    rfl
  · have hgeneric : generic? t.unmarked.token = some (w.text, argument.unmarked.token) := by
      rw [hunmarked, h]
      exact argument.unmarked.generic?_wrapped hw
    rw [withoutMarks_token, trim_token, wrapsCollection_of_some hgeneric, hw]
    simp [hcollection]

end Outermost

/-! ## One more layer -/

section Layer

variable {w : QualifiedName} {hw : isWrapper w.text = true}

/-- A name is its own bare name. -/
theorem cleanType_name (n : QualifiedName) : cleanType n.text = n.text := by
  have hsuffixes : withoutSuffixes n.text = n.text := by
    have hcut := @withoutSuffixes_append _ (notMem_of_nameChars n.nameChars (by decide)) []
    rwa [List.append_nil, withoutSuffixes, List.append_nil] at hcut
  rw [cleanType, withoutMarks_of_notMem (notMem_of_nameChars n.nameChars (by decide)), hsuffixes,
    trim_of_isSolid (isSolid_of_nameChars n.nameChars),
    unwrapped_of_none (generic?_of_nameChars n.nameChars), List.filter_eq_self]
  intro c hc
  have hbrackets : c ≠ '<' ∧ c ≠ '>' := by
    constructor <;> (rintro rfl; exact absurd (n.nameChars _ hc) (by decide))
  simpa using hbrackets

theorem cleanType_optional : cleanType (optional t).token = cleanType t.token := by
  rw [← cleanType_unmarked, ← cleanType_unmarked t, unmarked]

theorem cleanType_array : cleanType (array t).token = cleanType t.token := by
  have hmarks : withoutMarks ['[', ']'] = ['[', ']'] := by decide
  have hsuffix : withoutSuffixes ['[', ']'] = [] := by decide
  rw [cleanType, cleanType, token, withoutMarks_append, hmarks,
    withoutSuffixes_append_cons (by decide), hsuffix, List.append_nil]

/-- A wrapper around a type is taken away again. -/
theorem cleanType_wrapped : cleanType (wrapped w hw t).token = cleanType t.token := by
  have hsubset := withoutSuffixes_subset t.unmarked.token
  have hcut : withoutSuffixes (wrapped w hw t.unmarked).token
      = w.text ++ '<' :: (withoutSuffixes t.unmarked.token ++ ['>']) := by
    have hopen : '[' ∉ w.text ++ ['<'] := by
      simpa using notMem_of_nameChars w.nameChars (c := '[') (by decide)
    have htoken : (wrapped w hw t.unmarked).token
        = (w.text ++ ['<']) ++ (t.unmarked.token ++ ['>']) := by
      simp [token]
    have hclose : withoutSuffixes ['>'] = ['>'] := by decide
    rw [htoken, withoutSuffixes_append hopen, withoutSuffixes_append_cons (by decide), hclose,
      List.append_assoc]
    rfl
  have hgeneric : generic? (withoutSuffixes (wrapped w hw t.unmarked).token)
      = some (w.text, withoutSuffixes t.unmarked.token) := by
    rw [hcut]
    exact generic?_eq_some w.ne_nil w.nameChars fun hmem =>
      t.unmarked.newline_notMem_token (hsubset hmem)
  have hsolid : IsSolid (withoutSuffixes (wrapped w hw t.unmarked).token) := fun c hc =>
    (wrapped w hw t.unmarked).isSolid_token c (withoutSuffixes_subset _ hc)
  rw [cleanType, cleanType, withoutMarks_token, withoutMarks_token, unmarked,
    trim_of_isSolid hsolid, unwrapped_of_some hgeneric, if_pos hw]

theorem isArray_name {n : QualifiedName} (h : IsUnmarked n.text) : isArray n.text = false := by
  have hsuffix : holds "[]".toList n.text = false := by
    rw [← Bool.not_eq_true, holds_iff]
    exact fun hrun => notMem_of_nameChars n.nameChars (c := '[') (by decide)
      (hrun.subset (by decide))
  rw [isArray, hsuffix, isUnmarked_iff_any.mp h,
    withoutMarks_of_notMem (notMem_of_nameChars n.nameChars (by decide)),
    trim_of_isSolid (isSolid_of_nameChars n.nameChars),
    wrapsCollection_of_none (generic?_of_nameChars n.nameChars)]
  rfl

theorem isArray_optional : isArray (optional t).token = isArray t.token := by
  rw [← isArray_unmarked, ← isArray_unmarked t, unmarked]

theorem isArray_array : isArray (array t).token = true := by
  have hsuffix : holds "[]".toList (array t).token = true :=
    (holds_suffix_iff _).mpr (by simp [token])
  rw [isArray, hsuffix]
  rfl

/-- The wrapper that is no collection makes no array, unless its namespace looks like one. -/
theorem isArray_nullable (hnullable : afterLast '.' w.text = nullable)
    (hunmarked : IsUnmarked w.text) : isArray (wrapped w hw t).token = isArray t.token := by
  have hsuffix : holds "[]".toList (wrapped w hw t).token = holds "[]".toList t.token := by
    have hname : '[' ∉ w.text := notMem_of_nameChars w.nameChars (by decide)
    rw [Bool.eq_iff_iff, holds_suffix_iff, holds_suffix_iff]
    simp [token, hname]
  have hmarker : IsUnmarked (wrapped w hw t).token ↔ IsUnmarked t.token := by
    have hnil : IsUnmarked [] := by decide
    rw [token, isUnmarked_append_cons (by decide), isUnmarked_append_cons (by decide)]
    exact ⟨fun h => h.2.1, fun h => ⟨hunmarked, h, hnil⟩⟩
  have hwraps : wrapsCollection (wrapped w hw t).unmarked.token
      = wrapsCollection t.unmarked.token := by
    rw [unmarked, wrapsCollection_of_some (t.unmarked.generic?_wrapped hw), hw, if_pos hnullable,
      trim_token]
    rfl
  rw [isArray, isArray, hsuffix, any_arrayMarkers_congr hmarker, withoutMarks_token,
    withoutMarks_token, trim_token, trim_token, hwraps]

theorem isOptional_optional : isOptional (optional t).token = true := by
  simp [isOptional, token]

theorem isOptional_array : isOptional (array t).token = isOptional t.token := by
  simp [isOptional, token]

theorem isOptional_wrapped : isOptional (wrapped w hw t).token = isOptional t.token := by
  have hname : '?' ∉ w.text := notMem_of_nameChars w.nameChars (by decide)
  simp [isOptional, token, hname]

end Layer

end NestedType

end Typings.Source
