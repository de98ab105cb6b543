import Typings.Proofs.Model.StatedValue

/-!
# Malformed declarations

A declaration that opens its body on its own line makes a source unreadable, unless the header of an
enumeration stands in front of it. Behind such a header it goes unnoticed, and the source is only
refused for the values that it states.
-/

namespace Typings.Model

open Source Text

variable {ctx : ReadContext} {source : SourceFile} {file raw : Text}
  {lines before after : List Text}

/-! ## Invalid values -/

/-- Whether a line states a value for a member that is no integer literal. -/
def StatesInvalid (raw : Text) : Prop :=
  (Line.classifyMember raw).kind = .enumerator
    ∧ memberName (Line.classifyMember raw).tokens ≠ []
    ∧ ∃ literal ∈ memberLiteral? (Line.classifyMember raw).tokens,
      ∀ v, readLiteral literal ≠ .ok v

/-- A line is refused if it states an invalid value, and for nothing else. -/
theorem readMember_cases (file raw : Text) :
    (StatesInvalid raw ∧ ∃ literal, readMember file raw = .error (.memberValue file raw literal))
      ∨ (¬StatesInvalid raw ∧ ∃ member, readMember file raw = .ok member) := by
  rw [readMember]
  by_cases hskipped : (Line.classifyMember raw).kind ≠ .enumerator
      ∨ memberName (Line.classifyMember raw).tokens = []
  · right
    rw [if_pos (by simpa using hskipped)]
    exact ⟨fun h => hskipped.elim (fun hkind => hkind h.1) fun hname => h.2.1 hname, _, rfl⟩
  · obtain ⟨hkind, hname⟩ := not_or.mp hskipped
    rw [not_not] at hkind
    rw [if_neg (by simpa using hskipped)]
    cases hliteral : memberLiteral? (Line.classifyMember raw).tokens with
    | none =>
      right
      refine ⟨?_, _, rfl⟩
      rintro ⟨-, -, literal, hsome, -⟩
      rw [hliteral] at hsome
      cases hsome
    | some literal =>
      dsimp only
      cases hread : readLiteral literal with
      | ok v =>
        right
        refine ⟨?_, _, rfl⟩
        rintro ⟨-, -, literal', hsome, hinvalid⟩
        rw [hliteral] at hsome
        cases hsome
        exact hinvalid v hread
      | error e =>
        left
        refine ⟨⟨hkind, hname, literal, hliteral, fun v hv => ?_⟩, literal, rfl⟩
        rw [hread] at hv
        cases hv

/-- The lines of an enumeration are refused for the first of them that states an invalid value, and
for nothing else. -/
theorem readMembers_cases (file : Text) (lines : List Text) :
    (∃ before raw after literal, lines = before ++ raw :: after
        ∧ (∀ line ∈ before, ¬StatesInvalid line) ∧ StatesInvalid raw
        ∧ readMembers file lines = .error (.memberValue file raw literal))
      ∨ ((∀ line ∈ lines, ¬StatesInvalid line)
        ∧ ∃ members, readMembers file lines = .ok members) := by
  induction lines with
  | nil => exact Or.inr ⟨by simp, [], rfl⟩
  | cons line lines ih =>
    rw [readMembers]
    rcases readMember_cases file line with ⟨hinvalid, literal, herror⟩ | ⟨hvalid, member, hok⟩
    · rw [herror]
      exact Or.inl ⟨[], line, lines, literal, rfl, by simp, hinvalid, rfl⟩
    · rw [hok]
      dsimp only
      rcases ih with
        ⟨before, raw, after, literal, rfl, hbefore, hraw, herror⟩ | ⟨hlines, members, hms⟩
      · rw [herror]
        exact Or.inl ⟨line :: before, raw, after, literal, rfl,
          List.forall_mem_cons.mpr ⟨hvalid, hbefore⟩, hraw, rfl⟩
      · rw [hms]
        exact Or.inr ⟨List.forall_mem_cons.mpr ⟨hvalid, hlines⟩, _, rfl⟩

/-! ## The line that decides -/

theorem isDecisive_iff_kind : isDecisive raw = true ↔
    (Line.classify raw).kind = .malformedDeclaration
      ∨ (Line.classify raw).kind = .enumHeader := by
  rw [isDecisive, Bool.or_eq_true, beq_iff_eq, beq_iff_eq]

/-- Without a header of an enumeration in front of it, the first malformed declaration decides. -/
theorem read_of_malformed (hlines : source.lines = before ++ raw :: after)
    (hkind : (Line.classify raw).kind = .malformedDeclaration)
    (hbefore : ∀ line ∈ before, isDecisive line = false) :
    read ctx source = .error (.inlineBrace source.name raw) := by
  have hnone : before.find? isDecisive = none := by
    rw [List.find?_eq_none]
    exact fun line hline => by simp [hbefore line hline]
  have hfind : source.lines.find? isDecisive = some raw := by
    rw [hlines, List.find?_append, hnone, Option.none_or,
      List.find?_cons_of_pos (isDecisive_iff_kind.mpr (Or.inl hkind))]
  rw [read, hfind]
  dsimp only
  rw [if_neg (by simp [hkind])]

/-- With one there, all that counts are the values of members. -/
theorem exists_read_eq_readEnumeration (hlines : source.lines = before ++ after)
    (hfirst : ∀ line ∈ before, (Line.classify line).kind ≠ .malformedDeclaration)
    (henum : ∃ line ∈ before, (Line.classify line).kind = .enumHeader) :
    ∃ header, read ctx source = readEnumeration source header := by
  obtain ⟨line, hline, hheader⟩ := henum
  have hsome : (before.find? isDecisive).isSome = true := by
    rw [List.find?_isSome]
    exact ⟨line, hline, isDecisive_iff_kind.mpr (Or.inr hheader)⟩
  obtain ⟨header, hfind⟩ := Option.isSome_iff_exists.mp hsome
  have hkind : (Line.classify header).kind = .enumHeader :=
    (isDecisive_iff_kind.mp (List.find?_some hfind)).resolve_left
      (hfirst header (List.mem_of_find?_eq_some hfind))
  refine ⟨Line.classify header, ?_⟩
  rw [read, hlines, List.find?_append, hfind, Option.some_or]
  exact if_pos hkind

/-! ## Malformed declarations -/

/-- A source with a malformed declaration is refused for the first one if no header of an
enumeration is in front of it, and only then. With such a header it is read in spite of the
declaration, unless it states an invalid value: then it is refused for the first of those. -/
theorem read_malformed (hlines : source.lines = before ++ raw :: after)
    (hkind : (Line.classify raw).kind = .malformedDeclaration)
    (hfirst : ∀ line ∈ before, (Line.classify line).kind ≠ .malformedDeclaration) :
    (read ctx source = .error (.inlineBrace source.name raw)
      ↔ ∀ line ∈ before, (Line.classify line).kind ≠ .enumHeader)
    ∧ ((∃ m, read ctx source = .ok m)
      ↔ (∃ line ∈ before, (Line.classify line).kind = .enumHeader)
        ∧ ∀ line ∈ source.lines, ¬StatesInvalid line)
    ∧ ∀ e, read ctx source = .error e → e = .inlineBrace source.name raw
      ∨ ∃ earlier line later literal, source.lines = earlier ++ line :: later
        ∧ (∀ line ∈ earlier, ¬StatesInvalid line) ∧ StatesInvalid line
        ∧ e = .memberValue source.name line literal := by
  by_cases henum : ∃ line ∈ before, (Line.classify line).kind = .enumHeader
  · -- behind a header only the values of members are looked at, those above it among them
    obtain ⟨header, hread⟩ := @exists_read_eq_readEnumeration ctx source _ _ hlines hfirst henum
    have hnot : ¬∀ line ∈ before, (Line.classify line).kind ≠ .enumHeader := by
      obtain ⟨line, hline, hheader⟩ := henum
      exact fun h => h line hline hheader
    rw [hread, readEnumeration, and_iff_right henum]
    rcases readMembers_cases source.name source.lines with
      ⟨earlier, line, later, literal, hsplit, hearlier, hinvalid, herror⟩ | ⟨hvalid, members, hok⟩
    · have hmem : line ∈ source.lines := by simp [hsplit]
      rw [herror]
      refine ⟨iff_of_false (by simp) hnot, iff_of_false (by simp) fun h => h line hmem hinvalid, ?_⟩
      intro e he
      cases he
      exact Or.inr ⟨earlier, line, later, literal, hsplit, hearlier, hinvalid, rfl⟩
    · rw [hok]
      exact ⟨iff_of_false (by simp) hnot, iff_of_true ⟨_, rfl⟩ hvalid, fun e he => by cases he⟩
  · -- nothing in front of the declaration decides, so it does
    have hheaders : ∀ line ∈ before, (Line.classify line).kind ≠ .enumHeader := by
      simpa using henum
    have hbefore : ∀ line ∈ before, isDecisive line = false := by
      intro line hline
      rw [← Bool.not_eq_true, isDecisive_iff_kind, not_or]
      exact ⟨hfirst line hline, hheaders line hline⟩
    rw [@read_of_malformed ctx source _ _ _ hlines hkind hbefore]
    exact ⟨iff_of_true rfl hheaders, iff_of_false (by simp) fun h => henum h.1,
      fun e he => Or.inl (Except.error.inj he).symm⟩

/-- Two enumerations in one file, the second of which opens its body on its own line. -/
def levels : SourceFile where
  name := "Level".toList
  folder := []
  path := Path.ofText "/src/Level.cs".toList
  root := Path.ofText "/src".toList
  lines :=
    ["public enum Level".toList, "\x7b".toList, "    Low,".toList, "\x7d".toList,
     "public enum Scale \x7b".toList, "    Fine = 2,".toList, "\x7d".toList]

/-- The registry that holds nothing but `levels`. -/
def levelsContext : ReadContext where
  imports := { registry := { entries := [levels] }, anchor := "/src".toList }

/-- The second header of `levels` does not keep it from being read, and would if it came first. -/
theorem read_malformed_levels : (∃ m, read levelsContext levels = .ok m)
    ∧ read levelsContext { levels with lines := levels.lines.drop 4 }
      = .error (.inlineBrace "Level".toList "public enum Scale \x7b".toList) := by
  have hvalid : ∀ line ∈ levels.lines, ¬StatesInvalid line := by
    intro line hline
    rcases readMember_cases [] line with ⟨-, literal, herror⟩ | ⟨hvalid, -⟩
    · have hok : ∀ line ∈ levels.lines, (readMember [] line).isOk = true := by decide +kernel
      have hread := hok line hline
      rw [herror] at hread
      cases hread
    · exact hvalid
  obtain ⟨-, hread, -⟩ := @read_malformed levelsContext levels "public enum Scale \x7b".toList
    (levels.lines.take 4) (levels.lines.drop 5) rfl (by decide) (by decide)
  obtain ⟨hrefused, -⟩ := @read_malformed levelsContext { levels with lines := levels.lines.drop 4 }
    "public enum Scale \x7b".toList [] (levels.lines.drop 5) rfl (by decide) (by simp)
  exact ⟨hread.mpr ⟨⟨"public enum Level".toList, by decide, by decide⟩, hvalid⟩,
    hrefused.mpr (by simp)⟩

/-- A malformed declaration may go unnoticed: the members of the second enumeration are taken for
members of the first. -/
theorem malformed_unnoticed :
    "public enum Scale \x7b".toList ∈ levels.lines
    ∧ (Line.classify "public enum Scale \x7b".toList).kind = .malformedDeclaration
    ∧ ∃ m, read levelsContext levels = .ok m
      ∧ m.members = [⟨"Low".toList, .automatic⟩, ⟨"Fine".toList, .stated (some 2)⟩] := by
  refine ⟨by decide, by decide, ?_⟩
  exact ⟨⟨"Level".toList, [], none, none, .enumeration none
    [⟨"Low".toList, .automatic⟩, ⟨"Fine".toList, .stated (some 2)⟩]⟩, by decide +kernel, rfl⟩

end Typings.Model
