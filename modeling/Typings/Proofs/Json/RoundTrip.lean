import Typings.Json.Read
import Typings.Json.Write
import Typings.Proofs.Text.Pieces

/-!
# Reading what was written

Reading undoes writing, in front of any text. Strings are read back character by character, since
every character is read back from its escape, and objects member by member. No carriage return is
ever written, so that a file survives the unification of its line ends.
-/

namespace Typings.Json

open Text

variable {start fuel room depth : Nat} {rest : Text}

/-! ## Strings -/

/-- The four digits of a control denote it. -/
theorem hex_control : ∀ n < 0x20, (hex 4 n).length = 4
    ∧ ((hex 4 n).mapM hexDigit?).map (valueOf 16) = some n := by
  decide

/-- The escape of a control by number is read as the control, unless it ends the text. -/
theorem codePoint_control {n : Nat} (hn : n < 0x20) (hrest : rest ≠ []) :
    codePoint ('\\' :: 'u' :: (hex 4 n ++ rest)) = .ok (n, rest) := by
  obtain ⟨hlength, hvalue⟩ := hex_control n hn
  obtain ⟨next, after, rfl⟩ := List.exists_cons_of_ne_nil hrest
  obtain ⟨a, b, c, d, hdigits⟩ : ∃ a b c d, hex 4 n = [a, b, c, d] := by
    match hex 4 n, hlength with
    | [a, b, c, d], _ => exact ⟨a, b, c, d, rfl⟩
  rw [hdigits] at hvalue ⊢
  obtain ⟨digits, hread, hdenoted⟩ := Option.map_eq_some_iff.mp hvalue
  have hescape : numberEscape ('\\' :: 'u' :: ([a, b, c, d] ++ next :: after))
      = .ok (n, next :: after) := by
    simp [numberEscape, hexQuad?, hread, hdenoted]
  have hhigh : CodePoint.isHighSurrogate n = false := by
    simp [CodePoint.isHighSurrogate]
    omega
  rw [codePoint, hescape]
  dsimp only
  split
  · rw [if_neg (by simp [hhigh])]
  · rfl

theorem escape_ne_nil (c : Char) : escape c ≠ [] := by
  rw [escape]
  split_ifs <;> simp

/-- A character is read back from its escape. -/
theorem stringRest_escape (seen : RawText) (c : Char) (hrest : rest ≠ []) :
    stringRest start (fuel + 1) seen (escape c ++ rest)
      = stringRest start fuel (.char c :: seen) rest := by
  rw [escape]
  split_ifs with hmark hfeed hreturn htab hback hform hcontrol
  · rcases (by simpa using hmark : c = '"' ∨ c = '\\') with rfl | rfl <;> rfl
  · subst hfeed
    rfl
  · subst hreturn
    rfl
  · subst htab
    rfl
  · obtain rfl : c = Char.ofNat 8 := by rw [← hback, Char.ofNat_toNat]
    rfl
  · obtain rfl : c = Char.ofNat 12 := by rw [← hform, Char.ofNat_toNat]
    rfl
  · have hpoint : CodePoint.ofNat c.toNat = .char c := by
      have hsurrogate :
          ¬(CodePoint.isHighSurrogate c.toNat || CodePoint.isLowSurrogate c.toNat) := by
        simp [CodePoint.isHighSurrogate, CodePoint.isLowSurrogate]
        omega
      rw [CodePoint.ofNat, if_neg hsurrogate, Char.ofNat_toNat]
    rw [List.cons_append, List.cons_append, stringRest, codePoint_control hcontrol hrest]
    dsimp only
    rw [hpoint]
  · have hplain : c ≠ '"' ∧ c ≠ '\\' := by simpa [not_or] using hmark
    rw [List.singleton_append, stringRest, if_neg hcontrol] <;> simp [hplain]

/-- A text is read back from its escapes. -/
theorem stringRest_text (t : Text) (seen : RawText) (hfuel : (t.flatMap escape).length < fuel) :
    stringRest start fuel seen (t.flatMap escape ++ '"' :: rest)
      = .ok (seen.reverse ++ RawText.ofText t, rest) := by
  induction t generalizing fuel seen with
  | nil =>
    obtain ⟨fuel, rfl⟩ := Nat.exists_eq_add_one_of_ne_zero (Nat.ne_zero_of_lt hfuel)
    simp [stringRest, RawText.ofText]
  | cons c t ih =>
    obtain ⟨fuel, rfl⟩ := Nat.exists_eq_add_one_of_ne_zero (Nat.ne_zero_of_lt hfuel)
    have hescape := List.length_pos_of_ne_nil (escape_ne_nil c)
    rw [List.flatMap_cons, List.length_append] at hfuel
    rw [List.flatMap_cons, List.append_assoc, stringRest_escape seen c (by simp), ih _ (by omega)]
    simp [RawText.ofText]

theorem flatMap_escapeRaw (t : Text) : (RawText.ofText t).flatMap escapeRaw = t.flatMap escape := by
  rw [RawText.ofText, List.flatMap_map]
  rfl

/-- A string that is a text, as it is written. -/
theorem writeString_text (t : Text) :
    writeString (RawText.ofText t) = '"' :: (t.flatMap escape ++ ['"']) := by
  rw [writeString, flatMap_escapeRaw, List.cons_append]

theorem stringAfterMark_text (t : Text) :
    stringAfterMark (t.flatMap escape ++ '"' :: rest) = .ok (RawText.ofText t, rest) := by
  have hfuel : (t.flatMap escape).length < (t.flatMap escape ++ '"' :: rest).length + 1 := by
    rw [List.length_append]
    omega
  rw [stringAfterMark, stringRest_text t [] hfuel]
  rfl

/-- No carriage return is written, since those in strings are escaped. -/
theorem notMem_escape (c : Char) : '\r' ∉ escape c := by
  rw [escape]
  split_ifs with hmark hfeed hreturn htab hback hform hcontrol
  · rcases (by simpa using hmark : c = '"' ∨ c = '\\') with rfl | rfl <;> decide
  · decide
  · decide
  · decide
  · decide
  · decide
  · have hall : ∀ n < 0x20, '\r' ∉ '\\' :: 'u' :: hex 4 n := by decide
    exact hall _ hcontrol
  · simpa using Ne.symm hreturn

theorem notMem_writeString (t : Text) : '\r' ∉ writeString (RawText.ofText t) := by
  rw [writeString_text]
  simp [notMem_escape]

theorem notMem_newLine (depth : Nat) : '\r' ∉ newLine depth := by simp [newLine]

/-! ## Values -/

/-- Whether a value is read back from what is written for it, in front of any text and whatever is
done to carriage returns. -/
structure ReadsBack (room depth : Nat) (v : Json) : Prop where
  read : ∀ {fuel : Nat} (rest : Text), (writeAt depth v).length < fuel →
    value room fuel (writeAt depth v ++ rest) = .ok (v, rest)
  /-- It does not start with space. -/
  solid : ∃ c t, writeAt depth v = c :: t ∧ isSpace c = false
  unbroken : '\r' ∉ writeAt depth v

theorem skipSpace_solid {c : Char} (h : isSpace c = false) (t : Text) :
    skipSpace (c :: t) = c :: t := by
  rw [skipSpace, List.dropWhile_cons_of_neg (by simp [h])]

theorem ReadsBack.skipSpace {v : Json} (h : ReadsBack room depth v) (rest : Text) :
    skipSpace (writeAt depth v ++ rest) = writeAt depth v ++ rest := by
  obtain ⟨c, t, heq, hc⟩ := h.solid
  rw [heq, List.cons_append, skipSpace_solid hc]

theorem skipSpace_newLine (depth : Nat) {c : Char} (h : isSpace c = false) (t : Text) :
    skipSpace (newLine depth ++ c :: t) = c :: t := by
  rw [newLine, List.cons_append, Json.skipSpace, List.dropWhile_cons_of_pos (by decide),
    List.dropWhile_append_of_pos, List.dropWhile_cons_of_neg (by simp [h])]
  intro d hd
  rw [List.eq_of_mem_replicate hd]
  decide

/-- What starts no string, array or object is a word or a number. -/
theorem value_of_scalar {c : Char} (hmark : c ≠ '"') (harray : c ≠ '[') (hobject : c ≠ '\x7b')
    (t : Text) : value room (fuel + 1) (c :: t) = scalar (c :: t) := by
  rw [value] <;> simp [hmark, harray, hobject]

theorem readsBack_null : ReadsBack room depth .null where
  read {fuel} rest hfuel := by
    obtain ⟨fuel, rfl⟩ := Nat.exists_eq_add_one_of_ne_zero (Nat.ne_zero_of_lt hfuel)
    exact value_of_scalar (by decide) (by decide) (by decide) _
  solid := ⟨_, _, rfl, by decide⟩
  unbroken := by
    rw [writeAt]
    decide

theorem readsBack_bool (b : Bool) : ReadsBack room depth (.bool b) where
  read {fuel} rest hfuel := by
    obtain ⟨fuel, rfl⟩ := Nat.exists_eq_add_one_of_ne_zero (Nat.ne_zero_of_lt hfuel)
    cases b <;> exact value_of_scalar (by decide) (by decide) (by decide) _
  solid := by cases b <;> exact ⟨_, _, rfl, by decide⟩
  unbroken := by
    rw [writeAt]
    cases b <;> decide

/-- Every text is read back. -/
theorem readsBack_text (t : Text) : ReadsBack room depth (.text t) where
  read {fuel} rest hfuel := by
    obtain ⟨fuel, rfl⟩ := Nat.exists_eq_add_one_of_ne_zero (Nat.ne_zero_of_lt hfuel)
    rw [text, writeAt, writeString_text, List.cons_append, List.append_assoc, List.singleton_append,
      value, stringAfterMark_text]
  solid := ⟨'"', _, by rw [text, writeAt, writeString_text], by decide⟩
  unbroken := by
    rw [text, writeAt]
    exact notMem_writeString t

/-! ## Objects -/

/-- Pieces behind the first one are each put behind a separator. -/
theorem joinWith_eq_flatMap {α : Type} (sep p : List α) (pieces : List (List α)) :
    joinWith sep (p :: pieces) = p ++ pieces.flatMap (sep ++ ·) := by
  induction pieces generalizing p with
  | nil => simp [joinWith]
  | cons q pieces ih => rw [joinWith_cons _ _ (by simp), ih, List.flatMap_cons, List.append_assoc,
      List.append_assoc]

/-- A member that is not there yet is added at the end. -/
theorem setMember_of_notMem {key : RawText} (v : Json) {members : List (RawText × Json)}
    (h : key ∉ members.map (·.1)) : setMember key v members = members ++ [(key, v)] := by
  induction members with
  | nil => rfl
  | cons m members ih =>
    rw [List.map_cons, List.mem_cons, not_or] at h
    rw [setMember, if_neg (Ne.symm h.1), ih h.2, List.cons_append]

theorem notMem_of_nodup {m : RawText × Json} {seen ms : List (RawText × Json)}
    (h : ((seen ++ m :: ms).map (·.1)).Nodup) : m.1 ∉ seen.map (·.1) := by
  rw [List.map_append, List.map_cons] at h
  exact fun hmem => (List.nodup_append.mp h).2.2 _ hmem _ List.mem_cons_self rfl

/-- A member as it is written, after its line has begun. -/
def memberText (depth : Nat) (m : RawText × Json) : Text :=
  writeString m.1 ++ ": ".toList ++ writeAt depth m.2

theorem writeMembers_eq (depth : Nat) (ms : List (RawText × Json)) :
    writeMembers depth ms = ms.map fun m => newLine depth ++ memberText depth m := by
  induction ms with
  | nil => rfl
  | cons m ms ih =>
    rw [writeMembers, ih, List.map_cons, memberText]
    simp only [List.append_assoc]

/-- The rest of an object after a member: the other members, and the end. -/
def afterMember (depth : Nat) (ms : List (RawText × Json)) : Text :=
  ms.flatMap (fun m => ',' :: newLine (depth + 1) ++ memberText (depth + 1) m)
    ++ newLine depth ++ ['\x7d']

theorem writeAt_object (depth : Nat) (m : RawText × Json) (ms : List (RawText × Json)) :
    writeAt depth (.object (m :: ms)) = '\x7b' :: (newLine (depth + 1)
      ++ (memberText (depth + 1) m ++ afterMember depth ms)) := by
  rw [writeAt, writeMembers_eq, List.map_cons, joinWith_eq_flatMap, List.flatMap_map, afterMember]
  simp only [List.append_assoc, List.cons_append, List.nil_append]

/-- How the members of an object are read on behind one of them. -/
def membersBehind (room fuel : Nat) (seen : List (RawText × Json)) (rest : Text) :
    Except ReadError (List (RawText × Json) × Text) :=
  match skipSpace rest with
  | '\x7d' :: rest => .ok (seen, rest)
  | ',' :: rest => members room fuel seen (skipSpace rest)
  | rest => .error (.malformed .noComma rest.length)

/-- A new member is read back, and added to those read before. -/
theorem members_memberText {m : RawText × Json} {seen : List (RawText × Json)}
    (hkey : ∃ t, m.1 = RawText.ofText t) (hvalue : ReadsBack room depth m.2)
    (hnew : m.1 ∉ seen.map (·.1)) (hfuel : (writeAt depth m.2).length < fuel) (rest : Text) :
    members room (fuel + 1) seen (memberText depth m ++ rest)
      = membersBehind room fuel (seen ++ [m]) rest := by
  obtain ⟨key, v⟩ := m
  obtain ⟨t, rfl⟩ : ∃ t, key = RawText.ofText t := hkey
  have hshape : memberText depth (RawText.ofText t, v) ++ rest
      = '"' :: (t.flatMap escape ++ '"' :: ':' :: ' ' :: (writeAt depth v ++ rest)) := by
    rw [memberText, writeString_text]
    simp
  have hcolon : skipSpace (':' :: ' ' :: (writeAt depth v ++ rest))
      = ':' :: ' ' :: (writeAt depth v ++ rest) := skipSpace_solid (by decide) _
  have hspace : skipSpace (' ' :: (writeAt depth v ++ rest)) = writeAt depth v ++ rest := by
    rw [Json.skipSpace, List.dropWhile_cons_of_pos (by decide)]
    exact hvalue.skipSpace rest
  rw [hshape, members, stringAfterMark_text]
  simp only [hcolon, hspace, hvalue.read rest hfuel, setMember_of_notMem v hnew]
  rfl

/-- Members with different keys are read back and added to those read before. -/
theorem members_afterMember {m : RawText × Json} {ms seen : List (RawText × Json)}
    (hkeys : ∀ n ∈ m :: ms, ∃ t, n.1 = RawText.ofText t)
    (hvalues : ∀ n ∈ m :: ms, ReadsBack room (depth + 1) n.2)
    (hnodup : ((seen ++ m :: ms).map (·.1)).Nodup) (rest : Text)
    (hfuel : (memberText (depth + 1) m ++ afterMember depth ms).length < fuel) :
    members room fuel seen (memberText (depth + 1) m ++ (afterMember depth ms ++ rest))
      = .ok (seen ++ m :: ms, rest) := by
  -- along the members; those read so far are in `seen`
  induction ms generalizing m seen fuel with
  | nil =>
    obtain ⟨fuel, rfl⟩ := Nat.exists_eq_add_one_of_ne_zero (Nat.ne_zero_of_lt hfuel)
    have hend : skipSpace (afterMember depth [] ++ rest) = '\x7d' :: rest := by
      rw [afterMember, List.flatMap_nil, List.nil_append, List.append_assoc]
      exact skipSpace_newLine depth (by decide) rest
    rw [members_memberText (hkeys m (by simp)) (hvalues m (by simp)) (notMem_of_nodup hnodup)
      (by simp [memberText] at hfuel; omega), membersBehind, hend]
    rfl
  | cons n ms ih =>
    obtain ⟨fuel, rfl⟩ := Nat.exists_eq_add_one_of_ne_zero (Nat.ne_zero_of_lt hfuel)
    have hcomma : skipSpace (afterMember depth (n :: ms) ++ rest) = ',' :: (newLine (depth + 1)
        ++ (memberText (depth + 1) n ++ (afterMember depth ms ++ rest))) := by
      have hnext : afterMember depth (n :: ms) ++ rest = ',' :: (newLine (depth + 1)
          ++ (memberText (depth + 1) n ++ (afterMember depth ms ++ rest))) := by
        simp [afterMember]
      rw [hnext]
      exact skipSpace_solid (by decide) _
    have hline : skipSpace (newLine (depth + 1) ++ (memberText (depth + 1) n
        ++ (afterMember depth ms ++ rest)))
        = memberText (depth + 1) n ++ (afterMember depth ms ++ rest) :=
      skipSpace_newLine (depth + 1) (by decide) _
    have hrest : members room fuel (seen ++ [m])
        (memberText (depth + 1) n ++ (afterMember depth ms ++ rest))
        = .ok (seen ++ [m] ++ n :: ms, rest) :=
      ih (fun k hk => hkeys k (List.mem_cons_of_mem _ hk))
        (fun k hk => hvalues k (List.mem_cons_of_mem _ hk)) (by simpa using hnodup)
        (by simp [memberText, afterMember] at hfuel ⊢; omega)
    rw [members_memberText (hkeys m (by simp)) (hvalues m (by simp)) (notMem_of_nodup hnodup)
      (by simp [memberText] at hfuel; omega), membersBehind, hcomma]
    change members room fuel (seen ++ [m]) (skipSpace _) = _
    rw [hline, hrest, List.append_assoc, List.singleton_append]

/-- The members of an object follow its opening brace, the first one at its mark. -/
theorem value_of_members {r t : Text} {ms : List (RawText × Json)} (hmark : skipSpace r = '"' :: t)
    (h : members room fuel [] ('"' :: t) = .ok (ms, rest)) :
    value (room + 1) (fuel + 1) ('\x7b' :: r) = .ok (.object ms, rest) := by
  rw [value, hmark]
  split
  · next heq => exact absurd heq (by simp)
  · rw [h]

/-- An object of texts as keys, each once, is read back if its values are. -/
theorem readsBack_object {ms : List (RawText × Json)} (hne : ms ≠ [])
    (hkeys : ∀ m ∈ ms, ∃ t, m.1 = RawText.ofText t)
    (hvalues : ∀ m ∈ ms, ReadsBack room (depth + 1) m.2) (hnodup : (ms.map (·.1)).Nodup) :
    ReadsBack (room + 1) depth (.object ms) := by
  obtain ⟨m, ms, rfl⟩ := List.exists_cons_of_ne_nil hne
  constructor
  · intro fuel rest hfuel
    obtain ⟨fuel, rfl⟩ := Nat.exists_eq_add_one_of_ne_zero (Nat.ne_zero_of_lt hfuel)
    rw [writeAt_object] at hfuel ⊢
    have hline : skipSpace (newLine (depth + 1)
        ++ (memberText (depth + 1) m ++ (afterMember depth ms ++ rest)))
        = memberText (depth + 1) m ++ (afterMember depth ms ++ rest) :=
      skipSpace_newLine (depth + 1) (by decide) _
    have hread : members room fuel []
        (memberText (depth + 1) m ++ (afterMember depth ms ++ rest)) = .ok (m :: ms, rest) :=
      members_afterMember hkeys hvalues (by simpa using hnodup) rest (by simp at hfuel ⊢; omega)
    rw [List.cons_append, List.append_assoc, List.append_assoc]
    exact value_of_members (t := _) (by rw [hline]; rfl) hread
  · exact ⟨'\x7b', _, writeAt_object depth m ms, by decide⟩
  · have hmember : ∀ n ∈ m :: ms, '\r' ∉ memberText (depth + 1) n := by
      intro n hn
      obtain ⟨t, hkey⟩ := hkeys n hn
      rw [memberText, hkey]
      simp [notMem_writeString, (hvalues n hn).unbroken]
    have hmore :
        '\r' ∉ ms.flatMap fun n => ',' :: newLine (depth + 1) ++ memberText (depth + 1) n := by
      intro hmem
      obtain ⟨n, hn, hin⟩ := List.mem_flatMap.mp hmem
      simp [notMem_newLine, hmember n (List.mem_cons_of_mem m hn)] at hin
    rw [writeAt_object, afterMember]
    simp only [List.mem_cons, List.mem_append, not_or]
    exact ⟨by decide, notMem_newLine _, hmember m List.mem_cons_self, ⟨hmore, notMem_newLine _⟩,
      by decide, List.not_mem_nil⟩

/-! ## Whole texts -/

/-- What is written for a value is a text that reads as the value and nothing else. -/
theorem read_write {v : Json} (h : ReadsBack maxDepth 0 v)
    (hmark : (write v).head? ≠ some byteOrderMark) : read (write v) = .ok v := by
  have hvalue : value maxDepth ((write v).length + 1) (writeAt 0 v ++ []) = .ok (v, []) :=
    h.read [] (Nat.lt_succ_self _)
  have hspace := h.skipSpace []
  rw [List.append_nil, ← write] at hvalue hspace
  rw [read, if_neg hmark, hspace, hvalue]
  rfl

end Typings.Json
