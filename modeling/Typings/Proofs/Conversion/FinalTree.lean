import Typings.Proofs.Conversion.Run
import Typings.Proofs.Declaration
import Typings.Proofs.Output

/-!
# The tree that a run leaves

A run that succeeds determines every entry of the tree: the written files, the directories on the
way to them, to the roots and to the output, and all that was there before and was not cleared.
-/

namespace Typings.Conversion

open Discovery FileTree Typings.Path Text

variable {settings : Settings} {base : Path} {s s' : Session} {t t₁ t' : FileTree} {c : Conversion}

/-- Whether a written file lies below a place. -/
def OnWayToWritten (c : Conversion) (q : List Text) : Prop :=
  ∃ p ∈ c.written, p.parent.GoesThrough q

/-- The tree that a successful run leaves of another tree. -/
structure LeavesTree (settings : Settings) (base : Path) (t : FileTree) (c : Conversion)
    (t' : FileTree) : Prop where
  /-- Each written file holds the declaration of the last model with its path. -/
  written : ∀ p ∈ c.written, ∃ m,
    lastAt? settings.generator c.output p.place c.models = some m
    ∧ t'.find? p.place = some (.file (encode (settings.declaration m)))
  /-- Below an output directory that is given there is nothing else, but for the directories that
  hold written files. -/
  below : settings.convertDirectory.isGiven = true → ∀ q, (∀ p ∈ c.written, p.place ≠ q) →
    c.output.segments <+: q → q ≠ c.output.segments →
    KeptOrMade (OnWayToWritten c q) none (t'.find? q)
  /-- Outside of it everything is as it was, but for the roots and the output directory. -/
  outside : settings.convertDirectory.isGiven = true → ∀ q,
    ¬(c.output.segments <+: q ∧ q ≠ c.output.segments) →
    KeptOrMade (LeadsToRoot settings base q ∨ c.output.GoesThrough q) (t.find? q) (t'.find? q)
  /-- Without an output directory everything is as it was, but for the written files, the
  directories that hold them, and the roots. -/
  elsewhere : settings.convertDirectory.isGiven = false → ∀ q, (∀ p ∈ c.written, p.place ≠ q) →
    KeptOrMade (LeadsToRoot settings base q ∨ OnWayToWritten c q) (t.find? q) (t'.find? q)

/-! ## Written files -/

section Written

variable (hwritten : c.written = c.models.map (settings.generator.outputPath c.output))

include hwritten

/-- A place is that of a written file if and only if some model goes there last. -/
theorem lastAt?_isSome_iff_written {q : List Text} :
    (lastAt? settings.generator c.output q c.models).isSome ↔ ∃ p ∈ c.written, p.place = q := by
  rw [lastAt?_isSome_iff, hwritten]
  simp

theorem lastAt?_eq_none_of_written {q : List Text} (hq : ∀ p ∈ c.written, p.place ≠ q) :
    lastAt? settings.generator c.output q c.models = none := by
  rw [← Option.not_isSome_iff_eq_none, lastAt?_isSome_iff_written hwritten]
  rintro ⟨p, hp, heq⟩
  exact hq p hp heq

theorem onWayToWritten_iff {q : List Text} : OnWayToWritten c q
    ↔ ∃ m ∈ c.models, (settings.generator.outputPath c.output m).parent.GoesThrough q := by
  rw [OnWayToWritten, hwritten]
  simp

variable (hemitted : Emitted settings.generator c.output c.models c.models t₁ t')

include hemitted

/-- What was emitted is the declaration of the last model at each written path. -/
theorem written_of_emitted {p : Path} (hp : p ∈ c.written) : ∃ m,
    lastAt? settings.generator c.output p.place c.models = some m
    ∧ t'.find? p.place = some (.file (encode (settings.declaration m))) := by
  obtain ⟨m, hm⟩ := Option.isSome_iff_exists.mp
    ((lastAt?_isSome_iff_written hwritten).mpr ⟨p, hp, rfl⟩)
  obtain ⟨content, hcontent, hfile⟩ := hemitted.last _ m hm
  rw [settings.generate_eq] at hcontent
  cases hcontent
  exact ⟨m, hm, hfile⟩

/-- Away from written files emitting only makes the directories that hold them. -/
theorem keptOrMade_of_emitted {q : List Text} (hq : ∀ p ∈ c.written, p.place ≠ q) :
    KeptOrMade (OnWayToWritten c q) (t₁.find? q) (t'.find? q) := by
  have hlast := lastAt?_eq_none_of_written hwritten hq
  refine keptOrMade_of ?_ fun hway _ => ?_
  · rw [onWayToWritten_iff hwritten]
    exact hemitted.others q hlast
  · exact hemitted.ways q hlast ((onWayToWritten_iff hwritten).mp hway)

end Written

/-! ## Places below and outside of the output -/

section Below

variable (hplain : c.output.IsPlain)
  (hbelow : ∀ p ∈ c.written, ∃ below, below ≠ [] ∧ (∀ n ∈ below, IsName n)
    ∧ p = ⟨c.output.root, c.output.segments ++ below⟩)

include hplain hbelow

/-- A written file is at its path, strictly below the output. -/
theorem place_written {p : Path} (hp : p ∈ c.written) :
    p.IsPlain ∧ p.place = p.segments ∧ c.output.segments <+: p.place
      ∧ p.place ≠ c.output.segments := by
  obtain ⟨below, hne, hnames, rfl⟩ := hbelow p hp
  have hpath : (⟨c.output.root, c.output.segments ++ below⟩ : Path).IsPlain :=
    hplain.below (dotDot_notMem_of_names hnames)
  rw [place_of_isPlain hpath]
  exact ⟨hpath, rfl, List.prefix_append _ _, by simpa using hne⟩

/-- What is on the way to a written file but not strictly below the output is on the way to the
output. -/
theorem goesThrough_of_onWayToWritten {q : List Text} (hway : OnWayToWritten c q)
    (hq : ¬(c.output.segments <+: q ∧ q ≠ c.output.segments)) : q <+: c.output.segments := by
  obtain ⟨p, hp, hway⟩ := hway
  obtain ⟨hpath, hplace, hstart, -⟩ := place_written hplain hbelow hp
  have hthrough := (goesThrough_iff_of_isPlain hpath).mp hway.of_parent
  rw [← hplace] at hthrough
  rcases List.prefix_or_prefix_of_prefix hthrough hstart with hq' | hq'
  · exact hq'
  · have heq : q = c.output.segments := by
      by_contra hne
      exact hq ⟨hq', hne⟩
    rw [heq]

end Below

/-! ## All entries -/

section Reached

variable (hgrown : GrownBy (LeadsToRoot settings base) s.files t)
  (hwritten : c.written = c.models.map (settings.generator.outputPath c.output))
  (hreached : Reached settings base c.toSurvey c.output c.models t t')

include hgrown hreached

/-- After a survey that succeeds all roots are there, and everything else is as it was. -/
theorem keptOrMade_of_reached (q : List Text) :
    KeptOrMade (LeadsToRoot settings base q) (s.files.find? q) (t.find? q) :=
  keptOrMade_of (hgrown.entry q) fun hway _ => hreached.surveyed.directory hway

include hwritten

/-- Every path that is written lies strictly below the output, and leads there by names alone. -/
theorem exists_below_of_written (hs : s.files.WellFormed) : ∀ p ∈ c.written,
    ∃ below, below ≠ [] ∧ (∀ n ∈ below, IsName n)
      ∧ p = ⟨c.output.root, c.output.segments ++ below⟩ := by
  intro p hp
  rw [hwritten] at hp
  obtain ⟨m, hm, rfl⟩ := List.mem_map.mp hp
  have hfoldered := hreached.surveyed.foldered hs hgrown hm
  exact ⟨_, settings.generator.below_ne_nil m,
    fun _ => settings.generator.isName_of_mem_below hfoldered,
    settings.generator.outputPath_eq hfoldered c.output⟩

/-- Outside of an output directory that was cleared, emitting changes nothing: what holds written
files out there is there already. -/
theorem keptOrMade_outside (hs : s.files.WellFormed) {output : Path}
    (houtput : outputOf settings base = .ok (some output)) (hc : c.output = output)
    (hreplaced : ReplacedFor output t t₁) (hholds : t₁.Holds output)
    (hemitted : Emitted settings.generator c.output c.models c.models t₁ t') {q : List Text}
    (hq : ¬(c.output.segments <+: q ∧ q ≠ c.output.segments)) :
    KeptOrMade (c.output.GoesThrough q) (t.find? q) (t'.find? q) := by
  subst hc
  have hplain := isPlain_of_outputOf houtput
  have habove : ∀ {way}, way <+: c.output.segments → t₁.find? way = some .directory :=
    hreplaced.directory_above hplain hholds (hgrown.closed hs.closed)
  have hbelow := exists_below_of_written hgrown hwritten hreached hs
  have hnot : ∀ p ∈ c.written, p.place ≠ q := by
    rintro p hp rfl
    obtain ⟨-, -, hstart, hne⟩ := place_written hplain hbelow hp
    exact hq ⟨hstart, hne⟩
  have hkept := keptOrMade_of_emitted hwritten hemitted hnot
  -- a directory that emitting would make out there is on the way to the output, and so it is no
  -- longer missing
  have hsame : t'.find? q = t₁.find? q := hkept.eq_of fun hway => by
    rw [habove (goesThrough_of_onWayToWritten hplain hbelow hway hq)]
    simp
  rw [hsame]
  exact keptOrMade_of (hreplaced.find?_outside hplain hholds hq) fun hway _ =>
    habove ((goesThrough_iff_of_isPlain hplain).mp hway)

/-- What has been reached when all models are written determines every entry. -/
theorem leavesTree_of_reached (hs : s.files.WellFormed) :
    LeavesTree settings base s.files c t' := by
  have hroots := keptOrMade_of_reached hgrown hreached
  obtain ⟨t₁, hprepared, hemitted⟩ := hreached.written
  have hfiles : ∀ p ∈ c.written, ∃ m,
      lastAt? settings.generator c.output p.place c.models = some m
      ∧ t'.find? p.place = some (.file (encode (settings.declaration m))) :=
    fun p hp => written_of_emitted hwritten hemitted hp
  rcases hprepared with ⟨houtput, hbase, rfl⟩ | ⟨houtput, hreplaced, hholds⟩
  · -- nothing was cleared, so what was emitted is added to what the survey left
    have hgiven : settings.convertDirectory.isGiven = false := isGiven_of_outputOf houtput
    refine ⟨hfiles, by simp [hgiven], by simp [hgiven], fun _ q hq => ?_⟩
    exact (hroots q).trans (keptOrMade_of_emitted hwritten hemitted hq)
  · have hgiven : settings.convertDirectory.isGiven = true := isGiven_of_outputOf houtput
    refine ⟨hfiles, fun _ q hq hin hne => ?_, fun _ q hq => ?_, by simp [hgiven]⟩
    · have hkept := keptOrMade_of_emitted hwritten hemitted hq
      rwa [hreplaced.find?_below (isPlain_of_outputOf houtput) hin hne] at hkept
    · exact (hroots q).trans
        (keptOrMade_outside hgrown hwritten hreached hs houtput rfl hreplaced hholds hemitted hq)

end Reached

/-- A run that succeeds leaves every entry as `LeavesTree` says, and every path that it writes lies
strictly below its output. -/
theorem run_leavesTree (hs : s.files.WellFormed)
    (h : Session.run (run settings base) s = (.ok c, s')) :
    LeavesTree settings base s.files c s'.files
    ∧ c.written = c.models.map (settings.generator.outputPath c.output)
    ∧ outputOf settings base
      = .ok (if settings.convertDirectory.isGiven then some c.output else none)
    ∧ (settings.convertDirectory.isGiven = false → c.output = base)
    ∧ ∀ p ∈ c.written, ∃ below, below ≠ [] ∧ (∀ n ∈ below, IsName n)
      ∧ p = ⟨c.output.root, c.output.segments ++ below⟩ := by
  obtain ⟨t, hgrown, hwritten, hreached⟩ := run_ok hs.closed h
  obtain ⟨t₁, hprepared, -⟩ := hreached.written
  obtain ⟨houtput, hbase⟩ := hprepared.output
  exact ⟨leavesTree_of_reached hgrown hwritten hreached hs, hwritten, houtput, hbase,
    exists_below_of_written hgrown hwritten hreached hs⟩

/-- A base directory with two sources in one folder, and an output directory with an earlier
file. -/
def cleared : FileTree :=
  { entries :=
      [(["b".toList], .directory), (["b".toList, "w".toList], .directory),
       (["b".toList, "w".toList, "A.cs".toList], .file (encode "public class A\n".toList)),
       (["b".toList, "w".toList, "B.cs".toList], .file (encode "public class B : A\n".toList)),
       (["b".toList, "out".toList], .directory),
       (["b".toList, "out".toList, "old.ts".toList], .file [])] }

/-- Settings with a missing working directory and the output directory. -/
def clearedSettings : Settings :=
  { workingDirectories := .text "w;x".toList, convertDirectory := .text "out".toList }

theorem wellFormed_cleared : cleared.WellFormed :=
  ⟨by decide, by decide, by decide⟩

/-- The run on `cleared` writes two files and determines all entries. -/
theorem run_leavesTree_cleared : ∃ c s',
    Session.run (run clearedSettings (ofText "/b".toList)) { files := cleared } = (.ok c, s')
    ∧ c.written = [ofText "/b/out/a.ts".toList, ofText "/b/out/b.ts".toList]
    ∧ LeavesTree clearedSettings (ofText "/b".toList) cleared c s'.files := by
  have hwritten : writtenPaths
      (Session.run (run clearedSettings (ofText "/b".toList)) { files := cleared }).1
      = [ofText "/b/out/a.ts".toList, ofText "/b/out/b.ts".toList] := by decide +kernel
  rcases hrun : Session.run (run clearedSettings (ofText "/b".toList)) { files := cleared } with
    ⟨e | c, s'⟩
  · rw [hrun] at hwritten
    exact absurd hwritten (by simp [writtenPaths])
  · rw [hrun] at hwritten
    exact ⟨c, s', rfl, hwritten, (run_leavesTree wellFormed_cleared hrun).1⟩

end Typings.Conversion
