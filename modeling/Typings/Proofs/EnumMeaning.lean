import Typings.Proofs.Declaration
import Typings.Proofs.Model.Enumeration
import Typings.Proofs.Naming
import Typings.Proofs.Text.Pieces

/-!
# The meaning of enumerations

A member without a value follows the one before it, in the source and in the target. The body of a
generated enumeration is read here by the rule of the target, and it gives every member the value
that the source gives it.
-/

namespace Typings

open Source Text

/-! ## The rule of the target -/

namespace TargetEnum

/-- The number that some digits denote. -/
def natural? (t : Text) : Option Nat :=
  if t.isEmpty || !t.all Char.isDigit then none else some (Nat.ofDigitChars 10 t 0)

/-- The integer that a numeral denotes. -/
def numeral? : Text → Option Int
  | '-' :: digits => (natural? digits).map fun n : Nat => -(n : Int)
  | digits => (natural? digits).map fun n : Nat => (n : Int)

/-- The member that a line declares: after four blanks its name, perhaps an equals sign and a
numeral, and a comma. -/
def member? : Text → Option (Text × Option Int)
  | ' ' :: ' ' :: ' ' :: ' ' :: declared =>
    if declared.getLast? = some ',' then
      match cut? " = ".toList declared.dropLast with
      | none => some (declared.dropLast, none)
      | some (name, numeral) => (numeral? numeral).map fun v => (name, some v)
    else none
  | _ => none

/-- The values of some members: a member without one takes the value that is next. -/
def count : Int → List (Text × Option Int) → List (Text × Int)
  | _, [] => []
  | next, (name, value) :: rest => (name, value.getD next) :: count (value.getD next + 1) rest

/-- The members that a body declares and their values. The body has a member on each of its lines,
and the first member without a value counts from zero. -/
def evaluate (body : Text) : Option (List (Text × Int)) :=
  ((splitOn '\n' body).dropLast.mapM member?).map (count 0)

end TargetEnum

open TargetEnum

/-! ## Numerals -/

theorem newline_notMem_ofInt (i : Int) : '\n' ∉ ofInt i := by
  have hdigits : '\n' ∉ ofNat i.natAbs := fun h => absurd (isDigit_of_mem_ofNat h) (by decide)
  rw [ofInt]
  split
  · rw [List.mem_cons, not_or]
    exact ⟨by decide, hdigits⟩
  · exact hdigits

theorem natural?_ofNat (n : Nat) : natural? (ofNat n) = some n := by
  have hne : (Nat.toDigits 10 n).isEmpty = false := by simp
  have hdigits : (Nat.toDigits 10 n).all Char.isDigit = true :=
    List.all_eq_true.mpr fun c hc => isDigit_of_mem_ofNat hc
  rw [natural?, ofNat, hne, hdigits, Nat.ofDigitChars_toDigits (by decide) (by decide)]
  rfl

/-- A numeral that is written denotes the integer that it was written for. -/
theorem numeral?_ofInt (i : Int) : numeral? (ofInt i) = some i := by
  rw [ofInt]
  split
  · next hneg =>
    rw [numeral?, natural?_ofNat, Option.map_some, Option.some_inj]
    omega
  · next hpos =>
    have hminus : ∀ r, ofNat i.natAbs ≠ '-' :: r := by
      intro r hr
      have hdigit : '-'.isDigit = true := isDigit_of_mem_ofNat (hr ▸ List.mem_cons_self)
      exact absurd hdigit (by decide)
    rw [numeral?.eq_2 _ fun r hr => hminus r hr, natural?_ofNat, Option.map_some, Option.some_inj]
    omega

/-! ## Lines of members -/

/-- The value that a generated member is written with. -/
def SourceMember.shownValue (m : SourceMember) (v : Int) : Option Int :=
  if m.literal.isSome then some v else none

/-- The line of a member that is read, without its end. -/
def SourceMember.targetLine (m : SourceMember) (v : Int) : Text :=
  "    ".toList ++ (camelCase m.name
    ++ (if m.literal.isSome then " = ".toList ++ ofInt v else []) ++ [','])

theorem memberLine_read (m : SourceMember) (v : Int) :
    Declaration.memberLine .numeric (m.read v) = m.targetLine v ++ ['\n'] := by
  cases hm : m.literal <;>
    simp [Declaration.memberLine, SourceMember.read, SourceMember.targetLine,
      Declaration.memberValue, hm, Template.Value.isPresent, Template.Value.shown]

/-- What a line that starts with four blanks and ends with a comma declares. -/
theorem member?_indented (t : Text) : member? ("    ".toList ++ (t ++ [',']))
    = match cut? " = ".toList t with
      | none => some (t, none)
      | some (name, numeral) => (numeral? numeral).map fun v => (name, some v) := by
  have hindent : "    ".toList ++ (t ++ [',']) = ' ' :: ' ' :: ' ' :: ' ' :: (t ++ [',']) := rfl
  rw [hindent, member?, List.getLast?_concat, if_pos rfl, List.dropLast_concat]

section Line

variable {m : SourceMember} (hname : IsPlainWord m.name) (v : Int)

include hname

theorem notMem_camelCase_of_isBlank {c : Char} (hc : isBlank c = true) (hlow : IsLow c) :
    c ∉ camelCase m.name := by
  intro hmem
  rw [hname.solid c (mem_of_mem_camelCase hlow hmem)] at hc
  cases hc

/-- The line of a member is read as that member by the rule of the target. -/
theorem member?_targetLine :
    member? (m.targetLine v) = some (camelCase m.name, m.shownValue v) := by
  have hblank : ' ' ∉ camelCase m.name :=
    notMem_camelCase_of_isBlank hname (by decide) (by decide)
  rw [SourceMember.targetLine, SourceMember.shownValue, member?_indented]
  cases hm : m.literal with
  | none =>
    have hcut : cut? " = ".toList (camelCase m.name) = none := cut?_eq_none hblank _
    simp only [Option.isSome_none, Bool.false_eq_true, if_false, List.append_nil, hcut]
  | some literal =>
    have hcut : cut? " = ".toList (camelCase m.name ++ " = ".toList ++ ofInt v)
        = some (camelCase m.name, ofInt v) := cut?_append hblank _ _
    rw [List.append_assoc] at hcut
    simp only [Option.isSome_some, if_true, hcut, numeral?_ofInt, Option.map_some]

theorem newline_notMem_targetLine : '\n' ∉ m.targetLine v := by
  have hcamel : '\n' ∉ camelCase m.name :=
    notMem_camelCase_of_isBlank hname (by decide) (by decide)
  have hvalue : '\n' ∉ (if m.literal.isSome then " = ".toList ++ ofInt v else []) := by
    split
    · rw [List.mem_append, not_or]
      exact ⟨by decide, newline_notMem_ofInt v⟩
    · simp
  simp only [SourceMember.targetLine, List.mem_append, not_or]
  exact ⟨by decide, ⟨hcamel, hvalue⟩, by decide⟩

end Line

/-! ## The meaning of a body -/

section Meaning

variable {members : List SourceMember} {values : List Int}

/-- What the target makes of members and their values. -/
def targetMembers (members : List SourceMember) (values : List Int) : List (Text × Int) :=
  (members.zip values).map fun p => (camelCase p.1.name, p.2)

/-- The lines that are generated for members that are read with their values. -/
def targetBody (members : List SourceMember) (values : List Int) : Text :=
  ((members.zip values).map fun p => p.1.read p.2).flatMap (Declaration.memberLine .numeric)

/-- What is counted is the name of each member with the value that the source gives it. -/
theorem count_shownValue {next : Int} (h : SourceValues next members values) :
    count next ((members.zip values).map fun p => (camelCase p.1.name, p.1.shownValue p.2))
      = targetMembers members values := by
  induction h with
  | nil => rfl
  | @automatic next m members values hnone _ ih =>
    have hshown : m.shownValue next = none := by rw [SourceMember.shownValue, hnone]; rfl
    rw [List.zip_cons_cons, List.map_cons, hshown, count, Option.getD_none, ih]
    rfl
  | @stated next v literal m members values hsome _ _ ih =>
    have hshown : m.shownValue v = some v := by rw [SourceMember.shownValue, hsome]; rfl
    rw [List.zip_cons_cons, List.map_cons, hshown, count, Option.getD_some, ih]
    rfl

/-- A source gives each of its members one value. -/
theorem SourceValues.length_eq {next : Int} (h : SourceValues next members values) :
    members.length = values.length := by
  induction h with
  | nil => rfl
  | automatic _ _ ih => simp [ih]
  | stated _ _ _ ih => simp [ih]

theorem map_fst_targetMembers (h : members.length = values.length) :
    (targetMembers members values).map Prod.fst = members.map fun m => camelCase m.name := by
  have hzip : (members.zip values).map Prod.fst = members := List.map_fst_zip h.le
  conv_rhs => rw [← hzip]
  rw [targetMembers, List.map_map, List.map_map]
  rfl

theorem map_snd_targetMembers (h : members.length = values.length) :
    (targetMembers members values).map Prod.snd = values := by
  have hzip : (members.zip values).map Prod.snd = values := List.map_snd_zip h.ge
  conv_rhs => rw [← hzip]
  rw [targetMembers, List.map_map]
  rfl

theorem BodyLines.isPlainWord_name {lines : List Text} (h : BodyLines lines members) :
    ∀ m ∈ members, IsPlainWord m.name := by
  induction h with
  | nil => simp
  | filler _ _ ih => exact ih
  | member hname _ _ ih => exact List.forall_mem_cons.mpr ⟨hname, ih⟩

/-- The body that is generated is evaluated to the members with the values of the source. -/
theorem evaluate_targetBody (hnames : ∀ m ∈ members, IsPlainWord m.name)
    (h : SourceValues 0 members values) :
    evaluate (targetBody members values) = some (targetMembers members values) := by
  have hplain : ∀ p ∈ members.zip values, IsPlainWord p.1.name := fun p hp =>
    hnames p.1 (List.of_mem_zip hp).1
  have hbody : targetBody members values
      = (members.zip values).flatMap fun p => p.1.targetLine p.2 ++ ['\n'] := by
    rw [targetBody, List.flatMap_map]
    simp only [memberLine_read]
  have hlines : (splitOn '\n' (targetBody members values)).dropLast
      = (members.zip values).map fun p => p.1.targetLine p.2 := by
    rw [hbody, splitOn_flatMap fun p hp => newline_notMem_targetLine (hplain p hp) p.2,
      List.dropLast_concat]
  have hread : ((members.zip values).map fun p => p.1.targetLine p.2).mapM member?
      = some ((members.zip values).map fun p => (camelCase p.1.name, p.1.shownValue p.2)) := by
    refine mapM_eq_some (List.forall₂_map_left_iff.mpr (List.forall₂_map_right_iff.mpr ?_))
    exact List.forall₂_same.mpr fun p hp => member?_targetLine (hplain p hp) p.2
  rw [evaluate, hlines, hread, Option.map_some, count_shownValue h]

end Meaning

/-- The file of an enumeration whose members all have names. -/
theorem text_of_enumeration {tagged : Bool} {mode : EnumValues} {m : Model}
    {underlying : Option Text} {found : List Member} (hbody : m.body = .enumeration underlying found)
    (hnames : ∀ e ∈ found, e.name ≠ []) : Declaration.text tagged mode m
      = Declaration.tagText tagged ++ "export enum ".toList ++ m.name ++ " \x7b\n".toList
        ++ found.flatMap (Declaration.memberLine mode) ++ "\x7d\n".toList := by
  have henum : m.isEnum = true := by rw [Model.isEnum, hbody]
  have himports : m.imports = [] := by rw [Model.imports, hbody]
  have hmembers : m.members = found := by rw [Model.members, hbody]
  have hfilter : (found.filter fun e => !e.name.isEmpty) = found := by
    rw [List.filter_eq_self]
    intro e he
    simpa using hnames e he
  rw [Declaration.text, Declaration.head, Declaration.keyword, Declaration.body, henum, himports,
    hmembers, hfilter]
  simp only [List.flatMap_nil, List.isEmpty_nil, if_true, List.flatten_cons, List.flatten_nil,
    List.append_nil, List.append_assoc]

/-! ## The meaning of a source -/

/-- A source of an enumeration is read if all of its literals are short, and it is refused if one is
not. The body that is generated in numeric mode has the members of the source, in their order and
with their names in camel case. By the rule of the target, each has the value that it has by the
rule of the source. -/
theorem enum_meaning {ctx : ReadContext} {source : SourceFile} {members : List SourceMember}
    {values : List Int} (h : IsEnumSource source.lines members)
    (hvalues : SourceValues 0 members values) {g : Generator}
    (hengine : g.engine = Declaration.engine) (hmode : g.enumValues = .numeric) :
    ((∀ m ∈ members, ∀ literal ∈ m.literal, IsShort literal) →
      ∃ m body entries, Model.read ctx source = .ok m
        ∧ g.generate m = .ok (Declaration.tagText g.tagged ++ "export enum ".toList ++ source.name
          ++ " \x7b\n".toList ++ body ++ "\x7d\n".toList)
        ∧ evaluate body = some entries
        ∧ entries.map Prod.fst = members.map (fun m => camelCase m.name)
        ∧ entries.map Prod.snd = values)
    ∧ ((∃ m ∈ members, ∃ literal ∈ m.literal, ¬IsShort literal) →
      ∃ raw literal, Model.read ctx source = .error (.memberValue source.name raw literal)) := by
  obtain ⟨header, lines, hbody, hread⟩ :=
    @read_of_isEnumSource ctx source members h hvalues.exists_denotes
  refine ⟨fun hshort => ?_, fun hlong => ?_⟩
  · rw [hbody.readMembers_eq hvalues hshort] at hread
    refine ⟨_, targetBody members values, targetMembers members values, hread, ?_,
      evaluate_targetBody hbody.isPlainWord_name hvalues, map_fst_targetMembers hvalues.length_eq,
      map_snd_targetMembers hvalues.length_eq⟩
    have hnames : ∀ e ∈ (members.zip values).map fun p => p.1.read p.2, e.name ≠ [] := by
      intro e he
      obtain ⟨p, hp, rfl⟩ := List.mem_map.mp he
      exact (hbody.isPlainWord_name p.1 (List.of_mem_zip hp).1).ne_nil
    rw [Generator.generate_eq hengine, hmode, text_of_enumeration rfl hnames]
    rfl
  · exact read_error_of_long h hvalues hlong

/-- An enumeration with stated and with counted values among other lines. -/
def colors : SourceFile where
  name := "Color".toList
  folder := []
  path := Path.ofText "/src/Color.cs".toList
  root := Path.ofText "/src".toList
  lines :=
    ["using System;".toList, "namespace Demo".toList, "\x7b".toList, "#region Colors".toList,
     "    [Flags]".toList, "    public enum Color : int".toList, "    \x7b // first".toList,
     "        Red = 1 , // one".toList, "        Green,".toList, [],
     "        Blue = 0xFFFFFFFF".toList, "    \x7d".toList, "\x7d".toList]

/-- The members of `colors`. -/
def colorMembers : List SourceMember :=
  [⟨"Red".toList, some "1".toList⟩, ⟨"Green".toList, none⟩,
   ⟨"Blue".toList, some "0xFFFFFFFF".toList⟩]

theorem isEnumSource_colors : IsEnumSource colors.lines colorMembers := by
  refine ⟨colors.lines.take 5, "    public enum Color : int".toList, colors.lines.drop 6, rfl,
    ⟨by decide, by decide, by decide⟩, ?_⟩
  have hspaced : ∀ name literal : Text,
      (IsSolid name ∧ name ≠ []) ∧ IsSolid literal ∧ literal ≠ [] →
      Spaced [name, ['='], literal] (name ++ [' '] ++ (['='] ++ [' '] ++ literal)) :=
    fun name literal h => .cons h.1.1 h.1.2 (by decide) (by decide)
      (.cons (by decide) (by decide) (by decide) (by decide) (.one h.2.1 h.2.2))
  refine .filler (by decide) (.filler (by decide) (.filler (by decide) (.filler (by decide)
    (.filler (by decide) (.filler (by decide) (.member ?_ ?_ (.member ?_ ?_ (.filler (by decide)
      (.member ?_ ?_ (.filler (by decide) (.filler (by decide) .nil)))))))))))
  · decide
  · exact ⟨"        ".toList, _, " , ".toList, [','], "// one".toList, by decide,
      hspaced _ _ (by decide), @IsClosing.comma [' '] [' '] (by decide) (by decide),
      Or.inr ⟨_, rfl⟩, rfl⟩
  · decide
  · exact ⟨"        ".toList, "Green".toList, [','], [','], [], by decide,
      .one (by decide) (by decide), @IsClosing.comma [] [] (by decide) (by decide),
      Or.inl rfl, rfl⟩
  · decide
  · exact ⟨"        ".toList, _, [], [], [], by decide, hspaced _ _ (by decide),
      .gap (by decide), Or.inl rfl, rfl⟩

theorem sourceValues_colors : SourceValues 0 colorMembers [1, 2, -1] := by
  refine .stated rfl ?_ (.automatic rfl (.stated rfl ?_ .nil))
  · exact @Denotes.decimal [] ['1'] 1 (by decide) (List.all_eq_true.mp (by decide)) (by decide)
      (by decide)
  · exact @Denotes.hexadecimal 'x' "FFFFFFFF".toList (List.replicate 8 15) (-1) (by decide)
      (by decide) (by decide) (by decide) (by decide) (by decide)

/-- The enumeration `colors` is read, and in the target its members are one, two and minus one. -/
theorem enum_meaning_colors : ∃ m body entries,
    Model.read { imports := { registry := {}, anchor := [], style := .default } } colors = .ok m
    ∧ ({} : Generator).generate m = .ok (Declaration.tagText true ++ "export enum ".toList
      ++ "Color".toList ++ " \x7b\n".toList ++ body ++ "\x7d\n".toList)
    ∧ evaluate body = some entries
    ∧ entries.map Prod.fst = ["red".toList, "green".toList, "blue".toList]
    ∧ entries.map Prod.snd = [1, 2, -1] :=
  (enum_meaning isEnumSource_colors sourceValues_colors rfl rfl).1 (by decide)

/-! ## Long literals -/

/-- A literal that denotes one and has one digit too many. -/
def longLiteral : Text := List.replicate maxDigits '0' ++ ['1']

theorem ofDigitChars_replicate_zero (n : Nat) :
    Nat.ofDigitChars 10 (List.replicate n '0') 0 = 0 := by
  induction n with
  | zero => rfl
  | succ n ih => rw [List.replicate_succ, Nat.ofDigitChars_cons]; exact ih

theorem isDigit_longLiteral : ∀ c ∈ longLiteral, c.isDigit = true := by
  intro c hc
  rcases List.mem_append.mp hc with hc | hc
  · rw [List.eq_of_mem_replicate hc]
    decide
  · rw [List.mem_singleton.mp hc]
    decide

theorem denotes_longLiteral : Denotes longLiteral 1 := by
  refine @Denotes.decimal [] longLiteral 1 (by simp [longLiteral]) isDigit_longLiteral
    (Or.inl ⟨Or.inl rfl, ?_⟩) (by decide)
  rw [longLiteral, Nat.ofDigitChars_append, ofDigitChars_replicate_zero]
  rfl

theorem not_isShort_longLiteral : ¬IsShort longLiteral := by
  rw [← List.nil_append longLiteral, isShort_decimal_iff isDigit_longLiteral (Or.inl rfl),
    longLiteral, List.length_append, List.length_replicate]
  decide

/-- An enumeration that states a value with `longLiteral`. -/
def longEnum : SourceFile where
  name := ['E']
  folder := []
  path := Path.ofText "/src/E.cs".toList
  root := Path.ofText "/src".toList
  lines :=
    ["public enum E".toList, "\x7b".toList, "    A = ".toList ++ longLiteral ++ [','],
     "\x7d".toList]

theorem isEnumSource_longEnum : IsEnumSource longEnum.lines [⟨['A'], some longLiteral⟩] := by
  refine ⟨[], "public enum E".toList, longEnum.lines.drop 1, rfl,
    ⟨by decide, by decide, by decide⟩, ?_⟩
  refine .filler (by decide) (.member (by decide) ?_
    (.filler (by decide) .nil))
  have hliteral := denotes_longLiteral.isPlainWord
  refine ⟨"    ".toList, _, [','], [','], [], by decide,
    .cons (by decide) (by decide) (b := [' ']) (by decide) (by decide)
      (.cons (by decide) (by decide) (b := [' ']) (by decide) (by decide)
        (.one hliteral.solid hliteral.ne_nil)),
    @IsClosing.comma [] [] (by decide) (by decide), Or.inl rfl, ?_⟩
  simp

/-- Not every enumeration whose literals denote values is read: a literal may have more digits than
are converted. -/
theorem longEnum_refused : IsEnumSource longEnum.lines [⟨['A'], some longLiteral⟩]
    ∧ SourceValues 0 [⟨['A'], some longLiteral⟩] [1]
    ∧ ∀ ctx m, Model.read ctx longEnum ≠ .ok m := by
  have hvalues : SourceValues 0 [⟨['A'], some longLiteral⟩] [1] :=
    .stated rfl denotes_longLiteral .nil
  refine ⟨isEnumSource_longEnum, hvalues, fun ctx m hok => ?_⟩
  obtain ⟨raw, literal, herror⟩ := @read_error_of_long ctx longEnum _ _ isEnumSource_longEnum
    hvalues ⟨_, List.mem_singleton_self _, _, rfl, not_isShort_longLiteral⟩
  rw [herror] at hok
  cases hok

end Typings
