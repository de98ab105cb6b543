import Typings.Model.Reader
import Typings.Proofs.Source.Line
import Typings.Proofs.Source.Literal
import Typings.Proofs.Text.Pieces
import Typings.Text.Identifier

/-!
# Reading enumerations

The sources of enumerations as they are commonly written: a header, one member to a line, and
between them lines that say nothing about members. Such a source is read into its members, in their
order, unless it states a value with more digits than are converted.
-/

namespace Typings

open Source Text

/-! ## Sources -/

/-- The marks that the kinds of lines are told by. No name and no literal has one. -/
def lineMarks : List Char := [',', '/', '#', '(', ')', '[', ']', '\x7b', '\x7d']

/-- The words that are taken for no name: the modifiers, and the keywords that make a line something
other than a member. -/
def reservedWords : List Text :=
  "enum".toList :: "namespace".toList :: "using".toList :: modifiers

/-- A word as names and literals are: it has no mark and is not reserved. -/
structure IsPlainWord (w : Text) : Prop where
  ne_nil : w ≠ []
  solid : IsSolid w
  unmarked : ∀ c ∈ w, c ∉ lineMarks
  free : w ∉ reservedWords

instance (w : Text) : Decidable (IsPlainWord w) :=
  have := List.decidableBAll (fun c => c ∉ lineMarks) w
  decidable_of_iff (w ≠ [] ∧ IsSolid w ∧ (∀ c ∈ w, c ∉ lineMarks) ∧ w ∉ reservedWords)
    ⟨fun ⟨h₁, h₂, h₃, h₄⟩ => ⟨h₁, h₂, h₃, h₄⟩, fun ⟨h₁, h₂, h₃, h₄⟩ => ⟨h₁, h₂, h₃, h₄⟩⟩

/-- A member as a source declares it. -/
structure SourceMember where
  name : Text
  literal : Option Text := none
  deriving DecidableEq

namespace SourceMember

/-- What a member is spelled with: its name, and an equals sign and the literal if it has one. -/
def words (m : SourceMember) : List Text :=
  m.name :: match m.literal with
    | none => []
    | some literal => [['='], literal]

/-- Whether a line declares a member and nothing else: its words in order, with blanks around them,
then perhaps a comma and a comment. -/
def Written (m : SourceMember) (raw : Text) : Prop :=
  ∃ lead t closing mark comment, IsGap lead ∧ Spaced m.words t ∧ IsClosing closing mark
    ∧ IsComment comment ∧ raw = lead ++ (t ++ closing) ++ comment

/-- The member that is read, if the value is the one that the source gives it. -/
def read (m : SourceMember) (v : Int) : Member :=
  { name := m.name, value := if m.literal.isSome then .stated (some v) else .automatic }

end SourceMember

/-- Whether a line says nothing about members: it is blank without its comment, or a directive, or
it has no keyword of a declaration and is made of braces, starts with an attribute, or is told to be
something else by its keyword. -/
def IsFiller (raw : Text) : Prop :=
  isBlankText (stripComment raw) = true ∨ isDirective (stripComment raw) = true
    ∨ hasWord "enum".toList (stripComment raw) = false
      ∧ hasWord "class".toList (stripComment raw) = false
      ∧ ((∀ c ∈ stripComment raw, isBlank c = true ∨ c = '\x7b' ∨ c = '\x7d')
        ∨ (trimStart (stripComment raw)).head? = some '['
        ∨ hasWord "using".toList (stripComment raw) = true
        ∨ hasWord "namespace".toList (stripComment raw) = true)

instance (raw : Text) : Decidable (IsFiller raw) :=
  have := List.decidableBAll (fun c => isBlank c = true ∨ c = '\x7b' ∨ c = '\x7d')
    (stripComment raw)
  inferInstanceAs (Decidable (_ ∨ _ ∨ _ ∧ _ ∧ (_ ∨ _ ∨ _ ∨ _)))

/-- Whether a line heads an enumeration and leaves the opening of its body to another. -/
structure IsEnumHeader (raw : Text) : Prop where
  keyword : hasWord "enum".toList (stripComment raw) = true
  statement : isDirective (stripComment raw) = false
  unopened : '\x7b' ∉ stripComment raw

/-- Lines that declare members, one in a line, among lines that say nothing about members. -/
inductive BodyLines : List Text → List SourceMember → Prop
  | nil : BodyLines [] []
  | filler {raw : Text} {lines : List Text} {members : List SourceMember} : IsFiller raw →
      BodyLines lines members → BodyLines (raw :: lines) members
  | member {raw : Text} {m : SourceMember} {lines : List Text} {members : List SourceMember} :
      IsPlainWord m.name → m.Written raw → BodyLines lines members →
      BodyLines (raw :: lines) (m :: members)

/-- Whether some lines declare one enumeration with the given members: one line is its header, and
the others are those of the body. -/
def IsEnumSource (lines : List Text) (members : List SourceMember) : Prop :=
  ∃ before header after, lines = before ++ header :: after ∧ IsEnumHeader header
    ∧ BodyLines (before ++ after) members

/-- The values that a source gives its members: what a literal denotes, and otherwise the value that
is next. -/
inductive SourceValues : Int → List SourceMember → List Int → Prop
  | nil {next : Int} : SourceValues next [] []
  | automatic {next : Int} {m : SourceMember} {members : List SourceMember} {values : List Int} :
      m.literal = none → SourceValues (next + 1) members values →
      SourceValues next (m :: members) (next :: values)
  | stated {next v : Int} {literal : Text} {m : SourceMember} {members : List SourceMember}
      {values : List Int} : m.literal = some literal → Denotes literal v →
      SourceValues (v + 1) members values → SourceValues next (m :: members) (v :: values)

/-! ## Plain words -/

theorem isPlainWord_equals : IsPlainWord ['='] := by decide

theorem notMem_lineMarks_of_isAlphanum {c : Char} (h : c.isAlphanum = true) : c ∉ lineMarks := by
  have key : lineMarks.all (fun d => !d.isAlphanum) = true := by decide
  intro hc
  have hno := List.all_eq_true.mp key c hc
  rw [h] at hno
  cases hno

theorem Source.Denotes.isPlainWord {t : Text} {v : Int} (h : Denotes t v) : IsPlainWord t := by
  obtain ⟨c, r, rfl, hc⟩ := h.head
  refine ⟨by simp, h.isSolid, fun d hd => ?_, fun hmem => ?_⟩
  · rcases h.mem hd with hd | rfl | rfl
    · exact notMem_lineMarks_of_isAlphanum hd
    · decide
    · decide
  · -- reserved words start with letters
    have key : ∀ w ∈ reservedWords,
        w.head?.all (fun d => !d.isDigit && d != '+' && d != '-') = true := by
      decide
    have hno := key _ hmem
    rcases hc with hc | rfl | rfl
    · simp [hc] at hno
    · cases hno
    · cases hno

/-- An identifier has no blank, no mark that the kinds of lines are told by, and no equals sign. -/
theorem notMem_of_isIdentifier {w : Text} (h : isIdentifier w = true) {c : Char} (hc : c ∈ w) :
    isBlank c = false ∧ c ∉ '=' :: lineMarks := by
  have key : ∀ n ∈ blankCodes ++ ('=' :: lineMarks).map Char.toNat,
      isNamePart (Char.ofNat n) = false ∧ isNameStart (Char.ofNat n) = false := by
    decide +kernel
  have hpart : isNamePart c = true ∨ isNameStart c = true := by
    cases w with
    | nil => cases h
    | cons d r =>
      rw [isIdentifier, Bool.and_eq_true, List.all_eq_true] at h
      rcases List.mem_cons.mp hc with rfl | hc
      · exact Or.inr h.1
      · exact Or.inl (h.2 c hc)
  have hnot : c.toNat ∉ blankCodes ++ ('=' :: lineMarks).map Char.toNat := by
    intro hmem
    obtain ⟨hno, hno'⟩ := key _ hmem
    rw [Char.ofNat_toNat] at hno hno'
    rw [hno, hno'] at hpart
    simp at hpart
  refine ⟨?_, fun hmark => hnot (List.mem_append_right _ (List.mem_map_of_mem hmark))⟩
  rw [← Bool.not_eq_true]
  exact fun hblank => hnot (List.mem_append_left _ (toNat_mem_blankCodes hblank))

theorem ne_nil_of_isIdentifier {w : Text} (h : isIdentifier w = true) : w ≠ [] := by
  rintro rfl
  cases h

theorem isSolid_of_isIdentifier {w : Text} (h : isIdentifier w = true) : IsSolid w :=
  fun _ hc => (notMem_of_isIdentifier h hc).1

/-- Every identifier is a plain word, unless it is reserved. -/
theorem isPlainWord_of_isIdentifier {w : Text} (h : isIdentifier w = true)
    (hfree : w ∉ reservedWords) : IsPlainWord w :=
  ⟨ne_nil_of_isIdentifier h, isSolid_of_isIdentifier h,
    fun _ hc hmark => (notMem_of_isIdentifier h hc).2 (List.mem_cons_of_mem _ hmark), hfree⟩

/-- A word with a comma is not reserved. -/
theorem notMem_reservedWords_of_comma {w : Text} (h : ',' ∈ w) : w ∉ reservedWords := by
  have key : ∀ w ∈ reservedWords, ',' ∉ w := by decide
  exact fun hmem => key w hmem h

/-- The words of a member are plain if its name is and if its literal denotes something. -/
theorem SourceMember.isPlainWord_of_mem {m : SourceMember} (hname : IsPlainWord m.name)
    (hliteral : ∀ literal ∈ m.literal, ∃ v, Denotes literal v) {w : Text} (hw : w ∈ m.words) :
    IsPlainWord w := by
  rcases List.mem_cons.mp hw with rfl | hw
  · exact hname
  · cases h : m.literal with
    | none => simp [h] at hw
    | some literal =>
      simp only [h, List.mem_cons, List.not_mem_nil, or_false] at hw
      rcases hw with rfl | rfl
      · exact isPlainWord_equals
      · obtain ⟨v, hv⟩ := hliteral w h
        exact hv.isPlainWord

/-! ## Lines of members -/

section PlainLine

variable {lead t closing mark : Text} {ws : List Text} (hlead : IsGap lead) (h : Spaced ws t)
  (hclosing : IsClosing closing mark) (hws : ∀ w ∈ ws, IsPlainWord w)

include hclosing in
theorem isBlank_or_eq_of_mem_closing {c : Char} (hc : c ∈ closing) :
    isBlank c = true ∨ c = ',' := by
  cases hclosing with
  | gap hb => exact Or.inl (hb c hc)
  | comma hb hb' =>
    rcases List.mem_append.mp hc with hc | hc
    · exact Or.inl (hb c hc)
    · rcases List.mem_cons.mp hc with rfl | hc
      · exact Or.inr rfl
      · exact Or.inl (hb' c hc)

include hlead h hws in
theorem isDirective_plainLine : isDirective (lead ++ (t ++ closing)) = false := by
  obtain ⟨w, vs, s, rfl, hw, hne, rfl⟩ := h.exists_cons
  rw [List.append_assoc w, ← List.append_assoc lead]
  refine isDirective_of_head hlead hw hne (fun hhead => ?_) _
  exact (hws w List.mem_cons_self).unmarked '#' (List.mem_of_head? hhead) (by decide)

include h in
theorem isBlankText_plainLine : isBlankText (lead ++ (t ++ closing)) = false := by
  obtain ⟨w, vs, s, rfl, hw, hne, rfl⟩ := h.exists_cons
  obtain ⟨c, r, rfl⟩ := List.exists_cons_of_ne_nil hne
  rw [← Bool.not_eq_true, isBlankText, List.all_eq_true]
  intro hall
  have hblank := hall c (by simp)
  rw [(isSolid_cons.mp hw).1] at hblank
  cases hblank

include hlead h hclosing hws

/-- The only mark of a line of plain words is its comma. -/
theorem eq_comma_of_mem_lineMarks {c : Char} (hc : c ∈ lead ++ (t ++ closing))
    (hmark : c ∈ lineMarks) : c = ',' := by
  have hblank : isBlank c = false := by
    have key : IsSolid lineMarks := by decide
    exact key c hmark
  rcases List.mem_append.mp hc with hc | hc
  · rw [hlead c hc] at hblank
    cases hblank
  · rcases List.mem_append.mp hc with hc | hc
    · rcases h.mem hc with hc | ⟨w, hw, hc⟩
      · rw [hc] at hblank
        cases hblank
      · exact absurd hmark ((hws w hw).unmarked c hc)
    · rcases isBlank_or_eq_of_mem_closing hclosing hc with hc | hc
      · rw [hc] at hblank
        cases hblank
      · exact hc

/-- A line of plain words has no reserved word. -/
theorem hasWord_eq_false_of_reserved {w : Text} (hw : w ∈ reservedWords) :
    hasWord w (lead ++ (t ++ closing)) = false := by
  have key : ∀ w ∈ reservedWords, IsSolid w ∧ w ≠ [] := by decide
  rw [← Bool.not_eq_true, hasWord_iff (key w hw).1 (key w hw).2, words_gap_append hlead]
  intro hmem
  rcases mem_or_of_mem_words_spaced h hclosing hmem with hmem | hcomma
  · exact (hws w hmem).free hw
  · exact notMem_reservedWords_of_comma hcomma hw

theorem isEnumerator_plainLine : isEnumerator (lead ++ (t ++ closing)) = true := by
  have hmark : ∀ c ∈ lineMarks, c ≠ ',' → c ∉ lead ++ (t ++ closing) := fun c hc hne hmem =>
    hne (eq_comma_of_mem_lineMarks hlead h hclosing hws hmem hc)
  have hreserved : ∀ w ∈ reservedWords, hasWord w (lead ++ (t ++ closing)) = false := fun w hw =>
    hasWord_eq_false_of_reserved hlead h hclosing hws hw
  rw [isEnumerator_iff]
  refine ⟨isBlankText_plainLine h, hreserved _ (by decide), hreserved _ (by decide),
    hreserved _ (by decide), ?_, fun c hc hbrace => ?_⟩
  · have hopen : (lead ++ (t ++ closing)).contains '(' = false := by
      rw [← Bool.not_eq_true, List.contains_iff_mem]
      exact hmark '(' (by decide) (by decide)
    rw [isConstructor, hopen, Bool.and_false, Bool.false_and]
  · have hbraces : ['\x7b', '\x7d', '[', ']'] ⊆ lineMarks := by simp [lineMarks]
    refine hmark c (hbraces hbrace) ?_ hc
    rintro rfl
    simp at hbrace

/-- The tokens of a line of plain words are these words. -/
theorem tokensOf_plainLine : tokensOf (lead ++ (t ++ closing)) = markLast mark ws := by
  have hcomma : ∀ w ∈ ws, ',' ∉ w := fun w hw hmem => (hws w hw).unmarked ',' hmem (by decide)
  rw [tokensOf, words_gap_append hlead, joinAtCommas_spaced h hclosing hcomma,
    List.filter_eq_self]
  intro v hv
  -- a word with the closing comma is no modifier either
  have hfree : v ∉ reservedWords := by
    obtain ⟨w, hw, rfl | rfl⟩ := mem_markLast hv
    · exact (hws _ hw).free
    · rcases hclosing.mark_eq with rfl | rfl
      · rw [List.append_nil]
        exact (hws w hw).free
      · exact notMem_reservedWords_of_comma (by simp)
  have hmodifiers : modifiers ⊆ reservedWords := by
    intro w hw
    simp [reservedWords, hw]
  rw [Bool.not_eq_true', ← Bool.not_eq_true, List.contains_iff_mem]
  exact fun hmem => hfree (hmodifiers hmem)

end PlainLine

/-! ## Reading lines -/

open Model

section Lines

variable {file raw : Text} {m : SourceMember}

theorem beforeComma_eq {t mark : Text} (ht : ',' ∉ t) (hmark : mark = [] ∨ mark = [',']) :
    beforeComma (t ++ mark) = t := by
  rw [beforeComma, List.takeWhile_append_of_pos (bne_of_notMem ht)]
  rcases hmark with rfl | rfl <;> simp

theorem filter_comma_eq {t mark : Text} (ht : ',' ∉ t) (hmark : mark = [] ∨ mark = [',']) :
    (t ++ mark).filter (· != ',') = t := by
  rw [List.filter_append, List.filter_eq_self.mpr (bne_of_notMem ht)]
  rcases hmark with rfl | rfl <;> simp

/-- The text of a line that declares a member is a line of its words. -/
theorem SourceMember.Written.exists_plainLine (h : m.Written raw)
    (hws : ∀ w ∈ m.words, IsPlainWord w) : ∃ lead t closing mark, IsGap lead ∧ Spaced m.words t
      ∧ IsClosing closing mark ∧ stripComment raw = lead ++ (t ++ closing) := by
  obtain ⟨lead, t, closing, mark, comment, hlead, ht, hclosing, hcomment, rfl⟩ := h
  refine ⟨lead, t, closing, mark, hlead, ht, hclosing,
    stripComment_append (fun hslash => ?_) hcomment⟩
  have hcomma := eq_comma_of_mem_lineMarks hlead ht hclosing hws hslash (by decide)
  exact absurd hcomma (by decide)

/-- A line that declares a member is taken for one, and its tokens are the words of the member. -/
theorem SourceMember.Written.classifyMember (h : m.Written raw)
    (hws : ∀ w ∈ m.words, IsPlainWord w) : ∃ mark, (mark = [] ∨ mark = [','])
      ∧ Line.classifyMember raw
        = { kind := .enumerator, text := stripComment raw, tokens := markLast mark m.words } := by
  obtain ⟨lead, t, closing, mark, hlead, ht, hclosing, hstrip⟩ := h.exists_plainLine hws
  have hdirective : isDirective (stripComment raw) = false := by
    rw [hstrip]
    exact isDirective_plainLine hlead ht hws
  have henumerator : isEnumerator (stripComment raw) = true := by
    rw [hstrip]
    exact isEnumerator_plainLine hlead ht hclosing hws
  refine ⟨mark, hclosing.mark_eq, ?_⟩
  rw [classifyMember_of_isEnumerator hdirective henumerator, hstrip,
    tokensOf_plainLine hlead ht hclosing hws]

/-- The name of a member is its first word. -/
theorem memberName_words {mark : Text} (hmark : mark = [] ∨ mark = [','])
    (hws : ∀ w ∈ m.words, ',' ∉ w) : memberName (markLast mark m.words) = m.name := by
  have hname : ',' ∉ m.name := hws m.name (by simp [SourceMember.words])
  obtain ⟨name, _ | literal⟩ := m
  · exact beforeComma_eq hname hmark
  · have h := beforeComma_eq hname (Or.inl rfl)
    rwa [List.append_nil] at h

/-- The literal of a member is what stands behind an equals sign. -/
theorem memberLiteral?_words {mark : Text} (hmark : mark = [] ∨ mark = [','])
    (hws : ∀ w ∈ m.words, ',' ∉ w) : memberLiteral? (markLast mark m.words) = m.literal := by
  obtain ⟨name, _ | literal⟩ := m
  · rfl
  · have hliteral : ',' ∉ literal := hws literal (by simp [SourceMember.words])
    exact congrArg some (filter_comma_eq hliteral hmark)

/-- The name and the literal of a line that declares a member are found again. -/
theorem readMember_of_written (hname : IsPlainWord m.name)
    (hliteral : ∀ literal ∈ m.literal, ∃ v, Denotes literal v) (h : m.Written raw) :
    readMember file raw = match m.literal with
      | none => .ok (some { name := m.name })
      | some literal =>
        match readLiteral literal with
        | .ok value => .ok (some { name := m.name, value := .stated (some value) })
        | .error _ => .error (.memberValue file raw literal) := by
  have hws : ∀ w ∈ m.words, IsPlainWord w := fun w hw =>
    SourceMember.isPlainWord_of_mem hname hliteral hw
  have hcomma : ∀ w ∈ m.words, ',' ∉ w := fun w hw hmem =>
    (hws w hw).unmarked ',' hmem (by decide)
  obtain ⟨mark, hmark, hclassify⟩ := h.classifyMember hws
  have hempty : m.name.isEmpty = false := by simpa using hname.ne_nil
  rw [readMember, hclassify]
  dsimp only
  rw [memberName_words hmark hcomma, memberLiteral?_words hmark hcomma, hempty]
  rfl

/-- A member whose literal is short is read with the value that the literal denotes. -/
theorem readMember_of_short {v : Int} (hname : IsPlainWord m.name)
    (hvalue : ∀ literal ∈ m.literal, Denotes literal v) (h : m.Written raw)
    (hshort : ∀ literal ∈ m.literal, IsShort literal) :
    readMember file raw = .ok (some (m.read v)) := by
  rw [readMember_of_written hname (fun literal hliteral => ⟨v, hvalue literal hliteral⟩) h,
    SourceMember.read]
  cases hm : m.literal with
  | none => rfl
  | some literal =>
    dsimp only
    rw [readLiteral_of_short (hvalue literal hm) (hshort literal hm)]
    rfl

/-- A member whose literal is not short is refused. -/
theorem readMember_of_not_short {v : Int} {literal : Text} (hname : IsPlainWord m.name)
    (hvalue : ∀ literal ∈ m.literal, Denotes literal v) (h : m.Written raw)
    (hliteral : m.literal = some literal) (hlong : ¬IsShort literal) :
    readMember file raw = .error (.memberValue file raw literal) := by
  obtain ⟨e, herror⟩ := readLiteral_of_not_short (hvalue literal hliteral) hlong
  rw [readMember_of_written hname (fun literal hliteral => ⟨v, hvalue literal hliteral⟩) h,
    hliteral]
  dsimp only
  rw [herror]

/-- The lines that decide how a file is read. -/
theorem isDecisive_iff : isDecisive raw = true ↔ isBlankText (stripComment raw) = false
    ∧ isDirective (stripComment raw) = false
    ∧ (hasWord "enum".toList (stripComment raw) = true ∨ OpensInline (stripComment raw)) := by
  rw [isDecisive, Bool.or_eq_true, beq_iff_eq, beq_iff_eq, kind_classify_eq_malformed_iff,
    kind_classify_eq_enumHeader_iff]
  constructor
  · rintro (⟨hblank, hdirective, hopens⟩ | ⟨hdirective, henum, -⟩)
    · exact ⟨hblank, hdirective, Or.inr hopens⟩
    · exact ⟨isBlankText_of_hasWord (by decide) (by decide) henum, hdirective, Or.inl henum⟩
  · rintro ⟨hblank, hdirective, henum | hopens⟩
    · by_cases hbrace : '\x7b' ∈ stripComment raw
      · exact Or.inl ⟨hblank, hdirective, Or.inl henum, hbrace⟩
      · exact Or.inr ⟨hdirective, henum, hbrace⟩
    · exact Or.inl ⟨hblank, hdirective, hopens⟩

theorem IsFiller.isDecisive_eq_false (h : IsFiller raw) : isDecisive raw = false := by
  rw [← Bool.not_eq_true, isDecisive_iff]
  rintro ⟨hblank, hdirective, hdeclares⟩
  rcases h with h | h | ⟨henum, hclass, -⟩
  · rw [hblank] at h
    cases h
  · rw [hdirective] at h
    cases h
  · simp only [OpensInline, henum, hclass, Bool.false_eq_true, or_self, false_and] at hdeclares

/-- A line that says nothing about members is no member. -/
theorem IsFiller.readMember_eq (h : IsFiller raw) : readMember file raw = .ok none := by
  have hkind : (Line.classifyMember raw).kind ≠ .enumerator := by
    apply kind_classifyMember_ne
    rcases h with hblank | hdirective | ⟨-, -, h⟩
    · right
      rw [isEnumerator, hblank]
      rfl
    · exact Or.inl hdirective
    · right
      rw [← Bool.not_eq_true, isEnumerator_iff]
      rintro ⟨hblank, -, hnamespace, husing, -, hmarks⟩
      rcases h with hbraces | hbracket | h | h
      · -- without a brace the line would be blank
        have hall : isBlankText (stripComment raw) = true := by
          rw [isBlankText, List.all_eq_true]
          intro c hc
          rcases hbraces c hc with hc' | rfl | rfl
          · exact hc'
          · exact absurd (by simp) (hmarks _ hc)
          · exact absurd (by simp) (hmarks _ hc)
        rw [hblank] at hall
        cases hall
      · have hmem : '[' ∈ stripComment raw :=
          List.dropWhile_subset _ (List.mem_of_head? hbracket)
        exact hmarks _ hmem (by simp)
      · rw [husing] at h
        cases h
      · rw [hnamespace] at h
        cases h
  rw [readMember]
  simp [hkind]

theorem IsEnumHeader.isDecisive (h : IsEnumHeader raw) : isDecisive raw = true := by
  rw [isDecisive_iff]
  exact ⟨isBlankText_of_hasWord (by decide) (by decide) h.keyword, h.statement, Or.inl h.keyword⟩

/-- The header is no member, although it stands among the lines that are read for members. -/
theorem IsEnumHeader.readMember_eq (h : IsEnumHeader raw) : readMember file raw = .ok none := by
  have hkind : (Line.classifyMember raw).kind ≠ .enumerator := by
    apply kind_classifyMember_ne
    right
    rw [← Bool.not_eq_true, isEnumerator_iff]
    rintro ⟨-, henum, -⟩
    rw [h.keyword] at henum
    cases henum
  rw [readMember]
  simp [hkind]

/-- A member does not decide how the file is read. -/
theorem SourceMember.Written.isDecisive_eq_false (h : m.Written raw)
    (hws : ∀ w ∈ m.words, IsPlainWord w) : Model.isDecisive raw = false := by
  obtain ⟨lead, t, closing, mark, hlead, ht, hclosing, hstrip⟩ := h.exists_plainLine hws
  rw [← Bool.not_eq_true, isDecisive_iff, hstrip]
  rintro ⟨-, -, henum | hopens⟩
  · rw [hasWord_eq_false_of_reserved hlead ht hclosing hws (by decide)] at henum
    cases henum
  · have hcomma := eq_comma_of_mem_lineMarks hlead ht hclosing hws hopens.2 (by decide)
    exact absurd hcomma (by decide)

end Lines

/-! ## Reading a source -/

/-- The first value is what the first member states, if it states one. -/
theorem SourceValues.exists_cons {next : Int} {m : SourceMember} {members : List SourceMember}
    {values : List Int} (h : SourceValues next (m :: members) values) :
    ∃ v rest next', values = v :: rest ∧ (∀ literal ∈ m.literal, Denotes literal v)
      ∧ SourceValues next' members rest := by
  cases h with
  | automatic hnone hrest => exact ⟨_, _, _, rfl, by simp [hnone], hrest⟩
  | stated hsome hdenotes hrest =>
    refine ⟨_, _, _, rfl, fun literal hliteral => ?_, hrest⟩
    rw [hsome, Option.mem_some] at hliteral
    exact hliteral ▸ hdenotes

theorem SourceValues.exists_denotes {next : Int} {members : List SourceMember} {values : List Int}
    (h : SourceValues next members values) :
    ∀ m ∈ members, ∀ literal ∈ m.literal, ∃ v, Denotes literal v := by
  induction members generalizing next values with
  | nil => simp
  | cons m members ih =>
    obtain ⟨v, rest, next', -, hfirst, hrest⟩ := h.exists_cons
    exact List.forall_mem_cons.mpr
      ⟨fun literal hliteral => ⟨v, hfirst literal hliteral⟩, ih hrest⟩

section Body

variable {file : Text} {lines : List Text} {members : List SourceMember}

/-- No line of the body decides how the file is read. -/
theorem BodyLines.isDecisive_eq_false (h : BodyLines lines members)
    (hdenotes : ∀ m ∈ members, ∀ literal ∈ m.literal, ∃ v, Denotes literal v) :
    ∀ raw ∈ lines, isDecisive raw = false := by
  induction h with
  | nil => simp
  | filler hraw _ ih =>
    exact List.forall_mem_cons.mpr ⟨hraw.isDecisive_eq_false, ih hdenotes⟩
  | @member raw m lines members hname hraw _ ih =>
    have hws : ∀ w ∈ m.words, IsPlainWord w := fun w hw =>
      SourceMember.isPlainWord_of_mem hname (hdenotes m List.mem_cons_self) hw
    exact List.forall_mem_cons.mpr ⟨hraw.isDecisive_eq_false hws,
      ih fun n hn => hdenotes n (List.mem_cons_of_mem _ hn)⟩

/-- The lines of a body are read into its members, in their order. -/
theorem BodyLines.readMembers_eq (h : BodyLines lines members) {next : Int} {values : List Int}
    (hvalues : SourceValues next members values)
    (hshort : ∀ m ∈ members, ∀ literal ∈ m.literal, IsShort literal) :
    readMembers file lines = .ok ((members.zip values).map fun p => p.1.read p.2) := by
  induction h generalizing next values with
  | nil =>
    cases hvalues
    rfl
  | filler hraw _ ih =>
    rw [readMembers, hraw.readMember_eq, ih hvalues hshort]
    rfl
  | @member raw m lines members hname hraw _ ih =>
    obtain ⟨v, rest, next', rfl, hvalue, hrest⟩ := hvalues.exists_cons
    have hshort' : ∀ n ∈ members, ∀ literal ∈ n.literal, IsShort literal := fun n hn =>
      hshort n (List.mem_cons_of_mem _ hn)
    rw [readMembers, readMember_of_short hname hvalue hraw (hshort m List.mem_cons_self),
      ih hrest hshort']
    rfl

/-- A literal with more digits than are converted makes the whole body unreadable. -/
theorem BodyLines.readMembers_error (h : BodyLines lines members) {next : Int} {values : List Int}
    (hvalues : SourceValues next members values)
    (hlong : ∃ m ∈ members, ∃ literal ∈ m.literal, ¬IsShort literal) :
    ∃ raw literal, readMembers file lines = .error (.memberValue file raw literal) := by
  induction h generalizing next values with
  | nil =>
    obtain ⟨m, hm, -⟩ := hlong
    cases hm
  | filler hraw _ ih =>
    obtain ⟨raw', literal, hrest⟩ := ih hvalues hlong
    rw [readMembers, hraw.readMember_eq]
    dsimp only
    rw [hrest]
    exact ⟨raw', literal, rfl⟩
  | @member raw m lines members hname hraw _ ih =>
    obtain ⟨v, rest, next', rfl, hvalue, hrest⟩ := hvalues.exists_cons
    rw [readMembers]
    -- the first member is refused, or the long literal is behind it
    by_cases hshort : ∀ literal ∈ m.literal, IsShort literal
    · have hbehind : ∃ n ∈ members, ∃ literal ∈ n.literal, ¬IsShort literal := by
        obtain ⟨n, hn, literal, hliteral, hlong⟩ := hlong
        rcases List.mem_cons.mp hn with rfl | hn
        · exact absurd (hshort literal hliteral) hlong
        · exact ⟨n, hn, literal, hliteral, hlong⟩
      obtain ⟨raw', literal, hrest⟩ := ih hrest hbehind
      rw [readMember_of_short hname hvalue hraw hshort]
      dsimp only
      rw [hrest]
      exact ⟨raw', literal, rfl⟩
    · simp only [not_forall] at hshort
      obtain ⟨literal, hliteral, hlong⟩ := hshort
      rw [readMember_of_not_short hname hvalue hraw hliteral hlong]
      exact ⟨raw, literal, rfl⟩

/-- A line that is no member may stand anywhere. -/
theorem readMembers_insert {raw : Text} (h : readMember file raw = .ok none) (before after) :
    readMembers file (before ++ raw :: after) = readMembers file (before ++ after) := by
  induction before with
  | nil =>
    rw [List.nil_append, List.nil_append, readMembers, h]
    dsimp only
    cases readMembers file after <;> rfl
  | cons line before ih =>
    rw [List.cons_append, List.cons_append, readMembers, readMembers, ih]

end Body

/-- A source of an enumeration is read by its header, and its members are those of its lines. -/
theorem read_of_isEnumSource {ctx : ReadContext} {source : SourceFile}
    {members : List SourceMember} (h : IsEnumSource source.lines members)
    (hdenotes : ∀ m ∈ members, ∀ literal ∈ m.literal, ∃ v, Denotes literal v) :
    ∃ header lines, BodyLines lines members ∧ Model.read ctx source
      = match readMembers source.name lines with
        | .error e => .error e
        | .ok found => .ok
          { name := source.name
            folder := source.folder
            body := .enumeration (underlyingType header) found } := by
  obtain ⟨before, header, after, hlines, hheader, hbody⟩ := h
  have hbefore : ∀ raw ∈ before, ¬isDecisive raw = true := fun raw hraw => by
    rw [hbody.isDecisive_eq_false hdenotes raw (List.mem_append_left _ hraw)]
    exact Bool.false_ne_true
  have hfirst : source.lines.find? isDecisive = some header := by
    rw [hlines, List.find?_append, List.find?_eq_none.mpr hbefore, Option.none_or,
      List.find?_cons_of_pos hheader.isDecisive]
  have hkind : (Line.classify header).kind = .enumHeader :=
    kind_classify_eq_enumHeader_iff.mpr ⟨hheader.statement, hheader.keyword, hheader.unopened⟩
  refine ⟨(Line.classify header).text, before ++ after, hbody, ?_⟩
  rw [Model.read, hfirst, ← readMembers_insert hheader.readMember_eq, ← hlines]
  exact if_pos hkind

/-- A source with a literal that is not short is refused. -/
theorem read_error_of_long {ctx : ReadContext} {source : SourceFile} {members : List SourceMember}
    {values : List Int} (h : IsEnumSource source.lines members)
    (hvalues : SourceValues 0 members values)
    (hlong : ∃ m ∈ members, ∃ literal ∈ m.literal, ¬IsShort literal) :
    ∃ raw literal, Model.read ctx source = .error (.memberValue source.name raw literal) := by
  obtain ⟨header, lines, hbody, hread⟩ :=
    @read_of_isEnumSource ctx source members h hvalues.exists_denotes
  obtain ⟨raw, literal, herror⟩ :=
    @BodyLines.readMembers_error source.name lines members hbody 0 values hvalues hlong
  rw [herror] at hread
  exact ⟨raw, literal, hread⟩

end Typings
