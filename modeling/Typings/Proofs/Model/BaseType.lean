import Typings.Proofs.Model.NestedProperty
import Typings.Proofs.Model.Reader
import Typings.Proofs.Source.ClassHeader

/-!
# Base types

What is read from a class header is its last token up to the first comma. That is the first base,
unless its arguments have a comma, if a blank keeps the colon apart from it. Only the first base is
ever looked at: where it is an interface, no later one is taken for the base type.
-/

namespace Typings.Model

open Source Text

/-! ## Parts of a token -/

theorem isInterfaceName_cons_cons (c d : Char) (r : Text) :
    isInterfaceName (c :: d :: r) = (c == 'I' && isUpper d) := by
  by_cases hc : c = 'I'
  · subst hc
    rfl
  · rw [beq_false_of_ne hc, isInterfaceName]
    · rfl
    · rintro d r ⟨⟩
      exact hc rfl

/-- Whether a name is one of an interface does not depend on what follows it, unless that starts
with an upper-case letter. -/
theorem isInterfaceName_append {s r : Text} (hs : s ≠ []) (hr : ∀ c ∈ r.head?, isUpper c = false) :
    isInterfaceName (s ++ r) = isInterfaceName s := by
  have hone : ∀ c, isInterfaceName [c] = false := by
    intro c
    rw [isInterfaceName]
    rintro d r ⟨⟩
  match s, hs with
  | [c], _ =>
    cases r with
    | nil => rfl
    | cons d r =>
      rw [List.singleton_append, isInterfaceName_cons_cons, hr d rfl, Bool.and_false, hone]
  | c :: d :: s, _ => rw [List.cons_append, List.cons_append, isInterfaceName_cons_cons,
      isInterfaceName_cons_cons]

theorem beforeComma_append_of_notMem {s : Text} (hs : ',' ∉ s) (r : Text) :
    beforeComma (s ++ r) = s ++ beforeComma r :=
  List.takeWhile_append_of_pos (bne_of_notMem hs)

theorem beforeComma_append {s r : Text} (hr : ∀ c ∈ r.head?, c = ',') :
    beforeComma (s ++ r) = beforeComma s := by
  induction s with
  | nil =>
    cases r with
    | nil => rfl
    | cons c r =>
      obtain rfl : c = ',' := hr c rfl
      rfl
  | cons c s ih =>
    rw [beforeComma, beforeComma, List.cons_append, List.takeWhile_cons, List.takeWhile_cons]
    split
    · exact congrArg _ ih
    · rfl

theorem beforeComma_eq_self_iff {t : Text} : beforeComma t = t ↔ ',' ∉ t := by
  rw [beforeComma, List.takeWhile_eq_self_iff]
  exact ⟨fun h hmem => by simpa using h ',' hmem, bne_of_notMem⟩

/-! ## Bases -/

theorem isInterfaceName_token (b : Base) :
    isInterfaceName b.token = isInterfaceName b.name.text := by
  refine isInterfaceName_append b.name.ne_nil ?_
  have hopen : isUpper '<' = false := by decide
  cases b.arguments with
  | none => simp
  | some a => simpa using hopen

/-- All bases together have the name of an interface if the first one has. -/
theorem isInterfaceName_bases (bs : Bases) :
    isInterfaceName bs.token = isInterfaceName bs.first.token := by
  have hcomma : isUpper ',' = false := by decide
  refine isInterfaceName_append (by simp [Base.token, bs.first.name.ne_nil]) ?_
  cases bs.others with
  | nil => simp
  | cons => simpa using hcomma

theorem beforeComma_bases (bs : Bases) : beforeComma bs.token = beforeComma bs.first.token := by
  refine beforeComma_append ?_
  cases bs.others <;> simp

/-- Up to a comma, there is the name of the base at least. -/
theorem exists_beforeComma_token (b : Base) :
    ∃ c r, beforeComma b.token = c :: r ∧ isNameChar c = true := by
  obtain ⟨c, r, hname, hc⟩ := b.name.exists_eq_cons
  have hcomma : ',' ∉ b.name.text := notMem_of_nameChars b.name.nameChars (by simp)
  rw [Base.token, beforeComma_append_of_notMem hcomma, hname]
  exact ⟨c, _, rfl, hc⟩

/-- The first base that is no interface. -/
def firstBase (h : ClassHeader) : Option Text :=
  (h.bases.all.map Base.token).find? fun t => !isInterfaceName t

/-- The base type that is read from a header: the first base up to a comma, and in front of it what
no blank keeps apart from it. -/
def headerBase (h : ClassHeader) : Option Text :=
  if h.after.1 ≠ [] then
    if isInterfaceName h.bases.first.name.text then none
    else some (beforeComma h.bases.first.token)
  else if h.before.1 ≠ [] then some (':' :: beforeComma h.bases.first.token)
  else if isInterfaceName h.name.text then none
  else some (h.name.text ++ ':' :: beforeComma h.bases.first.token)

/-- Whether the order of the bases and the blanks around the colon let the first base that is no
interface be read. Behind a colon with a blank, all bases are interfaces if the first one is, and
otherwise the first one has no comma in it. Without the blank, an interface extends interfaces, and
there is no blank in front of the colon either. -/
def ReadsFirstBase (h : ClassHeader) : Prop :=
  (h.after.1 ≠ [] ∧ if isInterfaceName h.bases.first.name.text then
      ∀ b ∈ h.bases.all, isInterfaceName b.name.text = true
    else ',' ∉ h.bases.first.token)
  ∨ (h.before.1 = [] ∧ h.after.1 = [] ∧ isInterfaceName h.name.text = true
    ∧ ∀ b ∈ h.bases.all, isInterfaceName b.name.text = true)

theorem baseType_of_getLast? {tokens : List Text} {t : Text} (h : tokens.getLast? = some t)
    (hne : beforeComma t ≠ []) (hcolon : beforeComma t ≠ [':']) :
    baseType tokens = if isInterfaceName t then none else some (beforeComma t) := by
  rw [baseType, h]
  simp [hne, hcolon]

theorem baseType_tokensOf (h : ClassHeader) : baseType (tokensOf h.text) = headerBase h := by
  obtain ⟨c, r, hbase, hc⟩ := exists_beforeComma_token h.bases.first
  have hlast := h.getLast?_tokensOf_text
  rw [ClassHeader.lastToken] at hlast
  rw [headerBase]
  by_cases hafter : h.after.1 = []
  · rw [if_neg (not_not.mpr hafter)] at hlast ⊢
    have hcolon : ∀ s : Text, beforeComma (':' :: s) = ':' :: beforeComma s := fun s => rfl
    by_cases hbefore : h.before.1 = []
    · -- the token starts with the name of the class, and that is what the test is made on
      have hname : ',' ∉ h.name.text := notMem_of_nameChars h.name.nameChars (by simp)
      have hbeforeComma : beforeComma (h.name.text ++ ':' :: h.bases.token)
          = h.name.text ++ ':' :: beforeComma h.bases.first.token := by
        rw [beforeComma_append_of_notMem hname, hcolon, beforeComma_bases]
      have hinterface : isInterfaceName (h.name.text ++ ':' :: h.bases.token)
          = isInterfaceName h.name.text := by
        have hupper : isUpper ':' = false := by decide
        exact isInterfaceName_append h.name.ne_nil (by simpa using hupper)
      rw [if_neg (not_not.mpr hbefore)] at hlast ⊢
      rw [baseType_of_getLast? hlast, hbeforeComma, hinterface]
      · rw [hbeforeComma]
        simp
      · rw [hbeforeComma, hbase]
        simp [List.append_eq_singleton_iff]
    · -- it starts with the colon, and so is never taken for an interface
      rw [if_pos hbefore] at hlast ⊢
      rw [baseType_of_getLast? hlast, hcolon, beforeComma_bases]
      · rfl
      · simp [hcolon]
      · simp [hcolon, beforeComma_bases, hbase]
  · rw [if_pos hafter] at hlast ⊢
    rw [baseType_of_getLast? hlast, beforeComma_bases, isInterfaceName_bases, isInterfaceName_token]
    · simp [beforeComma_bases, hbase]
    · rw [beforeComma_bases, hbase]
      rintro ⟨⟩
      exact absurd hc (by decide)

/-! ## The first base -/

section FirstBase

variable (h : ClassHeader)

theorem firstBase_eq_none_iff :
    firstBase h = none ↔ ∀ b ∈ h.bases.all, isInterfaceName b.name.text = true := by
  rw [firstBase, List.find?_eq_none, List.forall_mem_map]
  simp only [isInterfaceName_token, Bool.not_eq_true', Bool.not_eq_false]

theorem firstBase_of_not_isInterfaceName
    (hfirst : isInterfaceName h.bases.first.name.text = false) :
    firstBase h = some h.bases.first.token := by
  rw [firstBase, Bases.all, List.map_cons, List.find?_cons_of_pos]
  rw [isInterfaceName_token, hfirst]
  rfl

/-- No base has a colon in it. -/
theorem colon_notMem_of_firstBase {t : Text} (ht : firstBase h = some t) : ':' ∉ t := by
  obtain ⟨b, -, rfl⟩ := List.mem_map.mp (List.mem_of_find?_eq_some ht)
  have hcolon : ¬IsTypeChar ':' := by decide
  exact fun hmem => hcolon (Base.isTypeChar_of_mem (b.token_subset_text hmem))

theorem headerBase_eq_firstBase_iff : headerBase h = firstBase h ↔ ReadsFirstBase h := by
  -- what starts in front of the colon is no base
  have hcolon : ∀ {t : Text}, ':' ∈ t → some t ≠ firstBase h := fun ht heq =>
    colon_notMem_of_firstBase h heq.symm ht
  rw [headerBase, ReadsFirstBase]
  by_cases hafter : h.after.1 = []
  · rw [if_neg (not_not.mpr hafter)]
    by_cases hbefore : h.before.1 = []
    · rw [if_neg (not_not.mpr hbefore)]
      cases hname : isInterfaceName h.name.text with
      | true =>
        rw [if_pos rfl, eq_comm, firstBase_eq_none_iff]
        simp [hafter, hbefore]
      | false => simpa [hafter] using hcolon (by simp)
    · simpa [hafter, hbefore] using hcolon (by simp)
  · rw [if_pos hafter]
    cases hfirst : isInterfaceName h.bases.first.name.text with
    | true =>
      rw [if_pos rfl, eq_comm, firstBase_eq_none_iff]
      simp [hafter]
    | false =>
      rw [firstBase_of_not_isInterfaceName h hfirst, if_neg Bool.false_ne_true, Option.some.injEq,
        beforeComma_eq_self_iff]
      simp [hafter]

end FirstBase

/-! ## Reading -/

/-- The base type of a record is what is read from its only class header, and it is imported from
where it is found. It is the first base that is no interface exactly if the order of the bases and
the blanks around the colon let that one be read. -/
theorem read_base_type {ctx : ReadContext} {source : SourceFile} {m : Model} {h : ClassHeader}
    {above below : List Text} {raw : Text} (hread : read ctx source = .ok m)
    (hrecord : m.isEnum = false) (hlines : source.lines = above ++ raw :: below)
    (hraw : stripComment raw = h.text)
    (honly : ∀ line ∈ above ++ below, (Line.classify line).kind ≠ .classHeader) :
    m.inherits = headerBase h
      ∧ m.inheritsFrom = m.inherits.bind (fun base => ctx.imports.find? base source.folder)
      ∧ (m.inherits = firstBase h ↔ ReadsFirstBase h) := by
  obtain ⟨hnone, rfl⟩ := find?_isDecisive_of_read hread hrecord
  -- with the other keyword, the header would make the source an enumeration
  have henum : hasWord "enum".toList h.text = false := by
    by_contra henum
    rw [Bool.not_eq_false] at henum
    have hkind : (Line.classify raw).kind = .enumHeader := by
      rw [kind_classify_eq_enumHeader_iff, hraw]
      exact ⟨h.isDirective_text, henum, h.brace_notMem_text⟩
    have hdecisive := List.find?_eq_none.mp hnone raw (by simp [hlines])
    exact hdecisive (by rw [isDecisive, hkind]; rfl)
  have hother : ∀ lines : List Text, (∀ line ∈ lines, (Line.classify line).kind ≠ .classHeader) →
      (lines.map Line.classify).filterMap lineBase = [] := by
    intro lines hlines
    rw [List.filterMap_map, List.filterMap_eq_nil_iff]
    intro line hline
    exact if_neg (hlines line hline)
  have hline : lineBase (Line.classify raw) = headerBase h := by
    rw [h.classify_text hraw henum, lineBase, if_pos rfl, baseType_tokensOf]
  have hinherits : (readRecord ctx source).inherits = headerBase h := by
    have habove := hother above fun line hline => honly line (List.mem_append_left _ hline)
    have hbelow := hother below fun line hline => honly line (List.mem_append_right _ hline)
    simp only [readRecord, hlines, List.map_append, List.map_cons, List.filterMap_append,
      List.filterMap_cons, habove, hbelow, hline]
    cases headerBase h <;> rfl
  refine ⟨hinherits, rfl, ?_⟩
  rw [hinherits]
  exact headerBase_eq_firstBase_iff h

/-! ### Two bases in either order -/

/-- A base without arguments. -/
def plainBase (t : Text) (h : t ≠ [] ∧ t.all isNameChar = true ∧ t ∉ modifiers) : Base where
  name := asciiQualified t ⟨h.1, h.2.1⟩
  free := h.2.2

def documentBase : Base := plainBase "Document".toList (by decide)

def auditableBase : Base := plainBase "IAuditable".toList (by decide)

/-- The header of a class with two bases, with single blanks behind its marks. -/
def receiptHeader (first second : Base) : ClassHeader where
  front := "public class ".toList
  nameChars := by
    have hnames : (words "public class ".toList).all (·.all isNameChar) = true := by decide
    exact fun w hw => List.all_eq_true.mp (List.all_eq_true.mp hnames w hw)
  keyword := by decide
  apart := (Option.all_eq_true _ _).mp (by decide)
  name := asciiQualified "Receipt".toList (by decide)
  before := ⟨[' '], isGap_blank⟩
  after := ⟨[' '], isGap_blank⟩
  bases := { first, others := [(⟨[], isGap_nil⟩, ⟨[' '], isGap_blank⟩, second)] }
  closing := ⟨[], isGap_nil⟩

/-- A source that declares nothing but the class of a header. -/
def receipt (header : Text) : SourceFile where
  name := "Receipt".toList
  folder := "Billing".toList
  path := Path.ofText "/src/Billing/Receipt.cs".toList
  root := Path.ofText "/src".toList
  lines := [header, "\x7b".toList, "\x7d".toList]

/-- The source of the base, in another folder. -/
def documentSource : SourceFile where
  name := "Document".toList
  folder := "Common".toList
  path := Path.ofText "/src/Common/Document.cs".toList
  root := Path.ofText "/src".toList

/-- What `receipt` is read with. -/
def receiptContext : ReadContext where
  imports := { registry := { entries := [documentSource] }, anchor := "/src".toList }

/-- With the class in front of the interface, the class is the base type and imported from its
folder. -/
theorem read_base_type_receipt :
    ∃ m, read receiptContext (receipt "public class Receipt : Document, IAuditable".toList) = .ok m
      ∧ m.inherits = some "Document".toList
      ∧ m.inheritsFrom = some "../Common/document".toList := by
  have hread : read receiptContext (receipt "public class Receipt : Document, IAuditable".toList)
      = .ok (readRecord receiptContext
        (receipt "public class Receipt : Document, IAuditable".toList)) := by
    decide +kernel
  obtain ⟨-, hfrom, hright⟩ :=
    @read_base_type _ _ _ (receiptHeader documentBase auditableBase) [] _ _ hread rfl rfl
      (by decide) (by decide)
  have hfirst : firstBase (receiptHeader documentBase auditableBase) = some "Document".toList := by
    decide
  have hinherits := (hright.mpr (Or.inl ⟨by decide, by decide⟩)).trans hfirst
  refine ⟨_, hread, hinherits, ?_⟩
  rw [hfrom, hinherits]
  decide +kernel

/-- Behind an interface, the class goes unnoticed. -/
theorem class_behind_interface :
    "public class Receipt : IAuditable, Document".toList
        = (receiptHeader auditableBase documentBase).text
      ∧ firstBase (receiptHeader auditableBase documentBase) = some "Document".toList
      ∧ ∃ m, read receiptContext (receipt "public class Receipt : IAuditable, Document".toList)
          = .ok m
        ∧ m.inherits = none := by
  refine ⟨by decide, by decide, readRecord receiptContext
    (receipt "public class Receipt : IAuditable, Document".toList), by decide +kernel, ?_⟩
  decide +kernel

end Typings.Model
