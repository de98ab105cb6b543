import Typings.Proofs.Model.Enumeration
import Typings.Proofs.Model.Reader

/-!
# Stated values

A line that states the value of a member is read by its words, and so it only counts where the name,
the equals sign and the literal are words of their own. Every other way to set the blanks gives the
member another name or drops its value, and of several words behind the sign only one is read.
-/

namespace Typings

open Model Source Text

/-- Whether a line states the value of a member: apart from its comment it is a name, blanks
perhaps, an equals sign and a text without commas, and it may be closed by one. -/
structure StatesValue (raw name before value : Text) : Prop where
  identifier : isIdentifier name = true
  gap : IsGap before
  present : value ≠ []
  single : ',' ∉ value
  line : ∃ lead closing mark, IsGap lead ∧ IsClosing closing mark
    ∧ stripComment raw = lead ++ (name ++ (before ++ '=' :: value) ++ closing)

/-- Whether a member is what such a line states: it has the name, and as its value the integer that
the whole text behind the equals sign denotes. -/
def Member.IsExact (name value : Text) (e : Member) : Prop :=
  e.name = name ∧ ∃ v, e.value = .stated (some v) ∧ Denotes (trim value) v

/-- Whether the name, the equals sign and the value are three words, and the name is no modifier. -/
structure IsSpread (name before value : Text) : Prop where
  before : before ≠ []
  behind : ∃ c ∈ value.head?, isBlank c = true
  single : (words value).length = 1
  free : name ∉ modifiers

/-! ## Members by their tokens -/

section Tokens

variable {file raw : Text}

theorem tokens_classifyMember (h : (Line.classifyMember raw).kind = .enumerator) :
    (Line.classifyMember raw).tokens = tokensOf (stripComment raw) := by
  rw [Line.classifyMember] at h ⊢
  cases hfixed : fixedKind? raw with
  | some kind =>
    rw [hfixed] at h
    have hkind := mem_of_fixedKind? hfixed
    rw [show kind = .enumerator from h] at hkind
    simp at hkind
  | none =>
    rw [hfixed] at h
    dsimp only at h ⊢
    split at h
    · next henumerator => rw [if_pos henumerator]
    · cases h

/-- A line that is taken for a member gives one with the name of its tokens, or an error. -/
theorem readMember_of_enumerator (h : (Line.classifyMember raw).kind = .enumerator)
    (hname : memberName (tokensOf (stripComment raw)) ≠ []) :
    (∃ literal, readMember file raw = .error (.memberValue file raw literal))
      ∨ ∃ e, readMember file raw = .ok (some e)
        ∧ e.name = memberName (tokensOf (stripComment raw))
        ∧ (memberLiteral? (tokensOf (stripComment raw)) = none ∧ e.value = .automatic
          ∨ ∃ literal v, memberLiteral? (tokensOf (stripComment raw)) = some literal
            ∧ readLiteral literal = .ok v ∧ e.value = .stated (some v)) := by
  rw [readMember, tokens_classifyMember h, if_neg (by simpa [h] using hname)]
  cases hliteral : memberLiteral? (tokensOf (stripComment raw)) with
  | none => exact Or.inr ⟨_, rfl, rfl, Or.inl ⟨rfl, rfl⟩⟩
  | some literal =>
    dsimp only
    cases hread : readLiteral literal with
    | ok v => exact Or.inr ⟨_, rfl, rfl, Or.inr ⟨literal, v, rfl, hread, rfl⟩⟩
    | error e => exact Or.inl ⟨literal, rfl⟩

/-- A word with an equals sign is no modifier. -/
theorem filter_sign_cons {w : Text} (hw : '=' ∈ w) (ws : List Text) :
    ((w :: ws).filter fun w => !modifiers.contains w)
      = w :: ws.filter fun w => !modifiers.contains w := by
  have key : ∀ w ∈ modifiers, '=' ∉ w := by decide
  refine List.filter_cons_of_pos ?_
  simpa using fun hmem => key w hmem hw

/-- An equals sign in the first token, in front of all commas, gets into the name. -/
theorem mem_memberName_sign {s r : Text} (hs : ',' ∉ s) (rest : List Text) :
    '=' ∈ memberName ((s ++ '=' :: r) :: rest) := by
  have hall : ∀ c ∈ s, (c != ',') = true := bne_of_notMem hs
  rw [memberName, List.head?_cons, Option.getD_some, beforeComma,
    List.takeWhile_append_of_pos hall, List.takeWhile_cons_of_pos (by decide)]
  simp

end Tokens

/-- A text that denotes an integer is one word. -/
theorem length_words_of_denotes {t : Text} {v : Int} (h : Denotes (trim t) v) :
    (words t).length = 1 := by
  obtain ⟨c, r, htrim, -⟩ := h.head
  rw [← words_trim, words_of_isSolid h.isSolid (by simp [htrim]), List.length_singleton]

namespace StatesValue

variable {file raw name before value : Text} (h : StatesValue raw name before value)

include h

/-! ## Words of the line -/

theorem notMem_name {c : Char} (hc : c ∈ '=' :: lineMarks) : c ∉ name := fun hmem =>
  (notMem_of_isIdentifier h.identifier hmem).2 hc

/-- Without a blank in front of the equals sign, the sign is drawn to the name. -/
theorem words_of_attached (hbefore : before = []) :
    ∃ s ws, words (name ++ (before ++ '=' :: value)) = (name ++ '=' :: s) :: ws := by
  have hsign : isBlank '=' = false := by decide
  rw [hbefore, List.nil_append,
    words_solid_append (isSolid_of_isIdentifier h.identifier) (ne_nil_of_isIdentifier h.identifier),
    List.takeWhile_cons_of_pos (by simp [hsign])]
  exact ⟨_, _, rfl⟩

/-- With one, the name is a word, and the next starts with the sign. -/
theorem words_of_detached (hbefore : before ≠ []) :
    words (name ++ (before ++ '=' :: value)) = name :: words ('=' :: value) := by
  rw [← List.append_assoc, words_solid_gap (isSolid_of_isIdentifier h.identifier)
    (ne_nil_of_isIdentifier h.identifier) h.gap hbefore]

/-- A first token that is the name gives the member its name. -/
theorem memberName_name (rest : List Text) : memberName (name :: rest) = name := by
  have hcomma : ',' ∉ name := h.notMem_name (by decide)
  show beforeComma name = name
  simpa using beforeComma_eq hcomma (Or.inl rfl)

/-- The tokens of the line are its words, the last one with the closing comma, without the modifiers
among them. -/
theorem exists_tokensOf : ∃ mark, (mark = [] ∨ mark = [',']) ∧ tokensOf (stripComment raw)
    = (markLast mark (words (name ++ (before ++ '=' :: value)))).filter
        fun w => !modifiers.contains w := by
  obtain ⟨lead, closing, mark, hlead, hclosing, hline⟩ := h.line
  have hcomma : ',' ∉ name ++ (before ++ '=' :: value) := by
    have hgap : ',' ∉ before := fun hmem => absurd (h.gap ',' hmem) (by decide)
    simp [h.notMem_name (show ',' ∈ '=' :: lineMarks by decide), hgap, h.single]
  have hblank : isBlankText (name ++ (before ++ '=' :: value)) = false := by
    rw [← Bool.not_eq_true, isBlankText, List.all_eq_true]
    exact fun hall => absurd (hall '=' (by simp)) (by decide)
  refine ⟨mark, hclosing.mark_eq, ?_⟩
  rw [tokensOf, hline, words_gap_append hlead, joinAtCommas_closed hblank hcomma hclosing]

/-- If the name is no word of its own, or a modifier, the first token has the equals sign in front
of all commas. -/
theorem exists_tokens_sign (hlost : before = [] ∨ name ∈ modifiers) :
    ∃ s r rest, tokensOf (stripComment raw) = (s ++ '=' :: r) :: rest ∧ ',' ∉ s := by
  obtain ⟨mark, -, htokens⟩ := h.exists_tokensOf
  by_cases hbefore : before = []
  · obtain ⟨s, ws, hwords⟩ := h.words_of_attached hbefore
    obtain ⟨s', vs, hlast⟩ := exists_markLast_cons mark (name ++ '=' :: s) ws
    rw [htokens, hwords, hlast, filter_sign_cons (by simp), List.append_assoc, List.cons_append]
    exact ⟨name, s ++ s', _, rfl, h.notMem_name (by decide)⟩
  · -- the name is taken away, and the word with the sign comes first
    have hfree := hlost.resolve_left hbefore
    obtain ⟨s', vs, hlast⟩ := exists_markLast_cons mark
      ('=' :: value.takeWhile fun d => !isBlank d) (words (value.dropWhile fun d => !isBlank d))
    rw [htokens, h.words_of_detached hbefore, words_cons_solid (by decide), markLast_cons_cons,
      hlast, List.filter_cons_of_neg (by simpa using hfree), filter_sign_cons (by simp)]
    exact ⟨[], _, _, rfl, by simp⟩

/-- Otherwise it is the name. -/
theorem exists_tokens_name (hbefore : before ≠ []) (hfree : name ∉ modifiers) :
    ∃ mark, (mark = [] ∨ mark = [',']) ∧ tokensOf (stripComment raw)
      = name :: (markLast mark (words ('=' :: value))).filter fun w => !modifiers.contains w := by
  obtain ⟨mark, hmark, htokens⟩ := h.exists_tokensOf
  refine ⟨mark, hmark, ?_⟩
  rw [htokens, h.words_of_detached hbefore, words_cons_solid (by decide), markLast_cons_cons,
    List.filter_cons_of_pos (by simpa using hfree)]

/-- The line is read as a member with some name. -/
theorem memberName_ne_nil : memberName (tokensOf (stripComment raw)) ≠ [] := by
  by_cases hlost : before = [] ∨ name ∈ modifiers
  · obtain ⟨s, r, rest, htokens, hs⟩ := h.exists_tokens_sign hlost
    rw [htokens]
    exact List.ne_nil_of_mem (mem_memberName_sign hs rest)
  · obtain ⟨hbefore, hfree⟩ := not_or.mp hlost
    obtain ⟨mark, -, htokens⟩ := h.exists_tokens_name hbefore hfree
    rw [htokens, h.memberName_name]
    exact ne_nil_of_isIdentifier h.identifier

/-! ## Exact values -/

/-- If the member is exact, the name, the sign and the value are words of their own. -/
theorem isSpread_of_isExact {e : Member} (hexact : e.IsExact name value)
    (hname : e.name = memberName (tokensOf (stripComment raw)))
    (hvalue : memberLiteral? (tokensOf (stripComment raw)) = none → e.value = .automatic) :
    IsSpread name before value := by
  obtain ⟨hsame, v, hstated, hv⟩ := hexact
  have hkept : ¬(before = [] ∨ name ∈ modifiers) := by
    intro hlost
    obtain ⟨s, r, rest, htokens, hs⟩ := h.exists_tokens_sign hlost
    rw [hname, htokens] at hsame
    -- no identifier has an equals sign
    exact h.notMem_name (by decide) (hsame ▸ mem_memberName_sign hs rest)
  obtain ⟨hbefore, hfree⟩ := not_or.mp hkept
  obtain ⟨mark, -, htokens⟩ := h.exists_tokens_name hbefore hfree
  obtain ⟨c, rest, hcons⟩ := List.exists_cons_of_ne_nil h.present
  refine ⟨hbefore, ⟨c, by rw [hcons]; rfl, ?_⟩, length_words_of_denotes hv, hfree⟩
  by_contra hc
  rw [Bool.not_eq_true] at hc
  -- the second token would be more than the sign, and no value would be read
  obtain ⟨s, vs, hlast⟩ := exists_markLast_cons mark
    ('=' :: c :: rest.takeWhile fun d => !isBlank d) (words (rest.dropWhile fun d => !isBlank d))
  rw [hcons, words_cons_solid (by decide), List.takeWhile_cons_of_pos (by simp [hc]),
    List.dropWhile_cons_of_pos (by simp [hc]), hlast, filter_sign_cons (by simp)] at htokens
  have hautomatic := hvalue (by rw [htokens]; rfl)
  rw [hstated] at hautomatic
  cases hautomatic

/-- If they are, so are the tokens, unless the value is a modifier. -/
theorem exists_tokens_spread (hspread : IsSpread name before value) : ∃ mark w,
    (mark = [] ∨ mark = [',']) ∧ words value = [w] ∧ tokensOf (stripComment raw)
      = name :: ['='] :: [w ++ mark].filter fun w => !modifiers.contains w := by
  obtain ⟨mark, hmark, htokens⟩ := h.exists_tokens_name hspread.before hspread.free
  obtain ⟨w, hw⟩ := List.length_eq_one_iff.mp hspread.single
  obtain ⟨c, hc, hblank⟩ := hspread.behind
  have hwords : words ('=' :: value) = [['='], w] := by
    obtain ⟨rest, rfl⟩ := List.head?_eq_some_iff.mp hc
    rw [words_cons_solid (by decide), List.takeWhile_cons_of_neg (by simp [hblank]),
      List.dropWhile_cons_of_neg (by simp [hblank]), hw]
  rw [hwords, markLast_cons_cons, filter_sign_cons (by simp)] at htokens
  exact ⟨mark, w, hmark, hw, htokens⟩

/-- In that case there is a literal, and what is read from it is what the value denotes. -/
theorem exists_literal_spread (hspread : IsSpread name before value) :
    ∃ literal, memberLiteral? (tokensOf (stripComment raw)) = some literal
      ∧ ∀ v, readLiteral literal = .ok v → Denotes (trim value) v := by
  obtain ⟨mark, w, hmark, hw, htokens⟩ := h.exists_tokens_spread hspread
  have hmem : w ∈ words value := by simp [hw]
  have hcomma : ',' ∉ w := fun hcomma =>
    h.single ((mem_iff_exists_words (by decide)).mpr ⟨w, hmem, hcomma⟩)
  rw [htokens, memberLiteral?, List.filter_singleton]
  refine ⟨_, rfl, fun v hread => ?_⟩
  cases hfree : !modifiers.contains (w ++ mark) with
  | true =>
    have hliteral : (((bif true then [w ++ mark] else []).head?.getD []).filter (· != ',')) = w :=
      filter_comma_eq hcomma hmark
    rw [hfree, hliteral] at hread
    rw [trim_of_words hw, ← trim_of_isSolid (isSolid_of_mem_words hmem).1]
    exact denotes_of_readLiteral hread
  | false =>
    -- nothing is left behind the sign, and that denotes nothing
    rw [hfree] at hread
    obtain ⟨c, r, hnil, -⟩ := (denotes_of_readLiteral hread).head
    cases hnil

/-- The line is read as an error or as a member, and the member is exact if the name, the sign and
the value are words of their own, and only then. -/
theorem readMember_cases (hkind : (Line.classifyMember raw).kind = .enumerator) :
    (∃ literal, readMember file raw = .error (.memberValue file raw literal))
      ∨ ∃ e, readMember file raw = .ok (some e)
        ∧ (e.IsExact name value ↔ IsSpread name before value) := by
  rcases readMember_of_enumerator hkind h.memberName_ne_nil with herror | ⟨e, hread, hname, hvalue⟩
  · exact Or.inl herror
  · refine Or.inr ⟨e, hread, fun hexact => ?_, fun hspread => ?_⟩
    · refine h.isSpread_of_isExact hexact hname fun hnone => ?_
      rcases hvalue with ⟨-, hautomatic⟩ | ⟨literal, v, hsome, -⟩
      · exact hautomatic
      · rw [hnone] at hsome
        cases hsome
    · obtain ⟨mark, -, htokens⟩ := h.exists_tokens_name hspread.before hspread.free
      obtain ⟨literal, hliteral, hdenotes⟩ := h.exists_literal_spread hspread
      refine ⟨by rw [hname, htokens, h.memberName_name], ?_⟩
      rcases hvalue with ⟨hnone, -⟩ | ⟨literal', v, hsome, hok, hstated⟩
      · rw [hliteral] at hnone
        cases hnone
      · rw [hliteral] at hsome
        cases hsome
        exact ⟨v, hstated, hdenotes v hok⟩

end StatesValue

namespace Model

variable {ctx : ReadContext} {source : SourceFile} {header raw name before value : Text}
  {earlier later : List Text}

/-- Members can be read if the first line and the lines behind it can. -/
theorem readMembers_cons_eq_ok_iff {file : Text} {lines : List Text} {members : List Member} :
    readMembers file (raw :: lines) = .ok members ↔ ∃ member ms,
      readMember file raw = .ok member ∧ readMembers file lines = .ok ms
        ∧ members = member.toList ++ ms := by
  rw [readMembers]
  cases readMember file raw with
  | error e => simp
  | ok member =>
    dsimp only
    cases readMembers file lines with
    | error e => simp
    | ok ms => simp [eq_comm]

/-- The members around a line are those of the lines around it. -/
theorem readMembers_split {file : Text} {members : List Member}
    (h : readMembers file (earlier ++ raw :: later) = .ok members) : ∃ ms member ms',
      readMembers file earlier = .ok ms ∧ readMember file raw = .ok member
        ∧ readMembers file later = .ok ms' ∧ members = ms ++ (member.toList ++ ms') := by
  induction earlier generalizing members with
  | nil =>
    obtain ⟨member, ms', hmember, hms', rfl⟩ := readMembers_cons_eq_ok_iff.mp h
    exact ⟨[], member, ms', rfl, hmember, hms', rfl⟩
  | cons line earlier ih =>
    obtain ⟨first, rest, hfirst, hrest, rfl⟩ := readMembers_cons_eq_ok_iff.mp h
    obtain ⟨ms, member, ms', hms, hmember, hms', rfl⟩ := ih hrest
    have hbegin : readMembers file (line :: earlier) = .ok (first.toList ++ ms) :=
      readMembers_cons_eq_ok_iff.mpr ⟨first, ms, hfirst, hms, rfl⟩
    exact ⟨_, member, ms', hbegin, hmember, hms', by rw [List.append_assoc]⟩

/-- Only a stated value makes members unreadable. -/
theorem exists_memberValue_of_readMembers {file : Text} {lines : List Text} {e : SourceError}
    (h : readMembers file lines = .error e) :
    ∃ line literal, e = .memberValue file line literal := by
  have hline : ∀ {line : Text} {e : SourceError}, readMember file line = .error e →
      ∃ literal, e = .memberValue file line literal := by
    intro line e he
    rw [readMember] at he
    split at he
    · cases he
    · split at he
      · cases he
      · split at he <;> cases he
        exact ⟨_, rfl⟩
  induction lines with
  | nil => cases h
  | cons line lines ih =>
    rw [readMembers] at h
    split at h
    · next e' he' =>
      cases h
      exact ⟨line, hline he'⟩
    · split at h
      · next e' he' =>
        cases h
        exact ih he'
      · cases h

/-- A line of an enumeration that states the value of a member makes the source unreadable or
contributes one member between those of the lines around it. That member is exact if the name, the
equals sign and the value are words of their own, and only then. -/
theorem read_stated_value (hheader : source.lines.find? isDecisive = some header)
    (henum : (Line.classify header).kind = .enumHeader)
    (hlines : source.lines = earlier ++ raw :: later)
    (hkind : (Line.classifyMember raw).kind = .enumerator) (h : StatesValue raw name before value) :
    (∃ line literal, read ctx source = .error (.memberValue source.name line literal))
      ∨ ∃ m ms e ms', read ctx source = .ok m ∧ readMembers source.name earlier = .ok ms
        ∧ readMember source.name raw = .ok (some e) ∧ readMembers source.name later = .ok ms'
        ∧ m.members = ms ++ e :: ms' ∧ (e.IsExact name value ↔ IsSpread name before value) := by
  have hread : read ctx source = readEnumeration source (Line.classify header) := by
    rw [read, hheader]
    exact if_pos henum
  rw [hread, readEnumeration]
  cases hmembers : readMembers source.name source.lines with
  | error error =>
    obtain ⟨line, literal, rfl⟩ := exists_memberValue_of_readMembers hmembers
    exact Or.inl ⟨line, literal, rfl⟩
  | ok members =>
    rw [hlines] at hmembers
    obtain ⟨ms, member, ms', hms, hmember, hms', rfl⟩ := readMembers_split hmembers
    -- no error was met at the line itself
    have hcases := @StatesValue.readMember_cases source.name raw name before value h hkind
    rcases hcases with ⟨literal, herror⟩ | ⟨e, hok, hexact⟩
    · rw [hmember] at herror
      cases herror
    · rw [hmember] at hok
      cases hok
      exact Or.inr ⟨_, ms, e, ms', rfl, hms, hmember, hms', rfl, hexact⟩

/-- An enumeration whose members are set apart from their values in several ways. -/
def spacings : SourceFile where
  name := "Spacings".toList
  folder := []
  path := Path.ofText "/src/Spacings.cs".toList
  root := Path.ofText "/src".toList
  lines :=
    ["public enum Spacings".toList, "\x7b".toList, "    A = 1,".toList, "    B=2,".toList,
     "    C =3,".toList, "    D = 4 + 5, // nine".toList, "\x7d".toList]

/-- The registry that holds nothing but `spacings`. -/
def spacingsContext : ReadContext where
  imports := { registry := { entries := [spacings] }, anchor := "/src".toList }

theorem statesValue_spacings : StatesValue "    A = 1,".toList ['A'] [' '] " 1".toList :=
  ⟨by decide +kernel, by decide, by decide, by decide,
    "    ".toList, [','], [','], by decide, @IsClosing.comma [] [] (by decide) (by decide), rfl⟩

theorem read_stated_value_spacings : ∃ m ms e ms', read spacingsContext spacings = .ok m
    ∧ m.members = ms ++ e :: ms' ∧ e.IsExact ['A'] " 1".toList := by
  have hspread : IsSpread ['A'] [' '] " 1".toList :=
    ⟨by decide, ⟨' ', rfl, by decide⟩, by decide, by decide⟩
  have hread := @read_stated_value spacingsContext spacings "public enum Spacings".toList
    "    A = 1,".toList ['A'] [' '] " 1".toList (spacings.lines.take 2) (spacings.lines.drop 3)
    (by decide) (by decide) rfl (by decide) statesValue_spacings
  rcases hread with ⟨line, literal, herror⟩ | ⟨m, ms, e, ms', hm, -, -, -, hmembers, hexact⟩
  · have hok : (read spacingsContext spacings).isOk = true := by decide +kernel
    rw [herror] at hok
    cases hok
  · exact ⟨m, ms, e, ms', hm, hmembers, hexact.mpr hspread⟩

/-- The members that are read from `spacings`. -/
def spacingsMembers : List Member :=
  [⟨['A'], .stated (some 1)⟩, ⟨"B=2".toList, .automatic⟩, ⟨['C'], .automatic⟩,
   ⟨['D'], .stated (some 4)⟩]

/-- Not every value that is stated is kept or refused: an equals sign without a blank on each side
makes the value part of the name or drops it, and a sum is replaced by its first summand. -/
theorem sum_cut_off : (Line.classifyMember "    D = 4 + 5, // nine".toList).kind = .enumerator
    ∧ StatesValue "    D = 4 + 5, // nine".toList ['D'] [' '] " 4 + 5".toList
    ∧ (∀ v, ¬Denotes (trim " 4 + 5".toList) v)
    ∧ ∃ m, read spacingsContext spacings = .ok m ∧ m.members = spacingsMembers := by
  have hstates : StatesValue "    D = 4 + 5, // nine".toList ['D'] [' '] " 4 + 5".toList :=
    ⟨by decide +kernel, by decide, by decide, by decide, "    ".toList, ", ".toList, [','],
      by decide, @IsClosing.comma [] [' '] (by decide) (by decide), by decide⟩
  refine ⟨by decide, hstates, fun v hv => ?_, ?_⟩
  · exact absurd (length_words_of_denotes hv) (by decide)
  · exact ⟨⟨"Spacings".toList, [], none, none, .enumeration none spacingsMembers⟩,
      by decide +kernel, rfl⟩

end Model

end Typings
