import Typings.Proofs.Conversion.Rejection
import Typings.Proofs.Declaration

/-!
# What becomes of the sources

A run that fails early leaves every source alone. Once it has touched its output, a source is lost
exactly if it lies at or below an output directory that was cleared, or if a declaration with other
bytes was written over it.
-/

namespace Typings.Conversion

open Discovery FileTree Typings.Path Text

variable {settings : Settings} {base : Path}

/-! ## Sources -/

/-- A source of some settings: a file below one of the roots whose name has the extension. -/
def IsSource (settings : Settings) (base : Path) (t : FileTree) (q : List Text) (bytes : Bytes) :
    Prop :=
  ∃ root spelled names, .ok root ∈ rootsOf settings base ∧ q = root.place ++ names
    ∧ HasSource t settings.extension? root spelled names bytes

theorem IsSource.find? {t : FileTree} {q : List Text} {bytes : Bytes}
    (h : IsSource settings base t q bytes) : t.find? q = some (.file bytes) := by
  obtain ⟨root, spelled, names, -, rfl, hhas⟩ := h
  exact hhas.file

section Discovered

variable {t files : FileTree} (ht : t.WellFormed) {allowed : List Text → Prop}
  (hgrown : GrownBy allowed t files) {roots : List Path}
  (hroots : rootsOf settings base = roots.map .ok)

include ht hgrown

/-- The place of a file below a root has no double dots. -/
theorem place_below_of_hasSource {root : Path} {spelled : Text} {names : List Text} {bytes : Bytes}
    (h : HasSource files settings.extension? root spelled names bytes) :
    (⟨root.root, root.segments ++ names⟩ : Path).place = root.place ++ names := by
  have hne : root.place ++ names ≠ [] := by simp [h.below]
  have hnamed := ht.named _ (mem_of_find? hne (hgrown.file_iff.mp h.file))
  exact place_below _ _ fun hmem => (hnamed _ (List.mem_append_right _ hmem)).2.2.1 rfl

include hroots

/-- What a scan of the entered roots finds are sources, also if it stops early. -/
theorem isSource_of_mem_scanAll {source : SourceFile}
    (h : source ∈ (scanAll files settings.extension? roots).1) :
    ∃ bytes, IsSource settings base t source.path.place bytes
      ∧ linesOf source.path bytes = .ok source.lines := by
  obtain ⟨root, hroot, spelled, names, bytes, hhas, hload⟩ :=
    hasSource_of_mem_scanAll (hgrown.distinct ht.distinct) h
  obtain ⟨lines, hlines, rfl⟩ := loadSource_ok hload
  refine ⟨bytes, ⟨root, spelled, names, ?_, place_below_of_hasSource ht hgrown hhas,
    hhas.extension, hhas.below, hhas.named, hgrown.file_iff.mp hhas.file⟩, hlines⟩
  rw [hroots]
  exact List.mem_map_of_mem hroot

/-- A scan without an error finds all sources. -/
theorem mem_scanAll_of_isSource {sources : List SourceFile}
    (h : scanAll files settings.extension? roots = (sources, none)) {q : List Text} {bytes : Bytes}
    (hq : IsSource settings base t q bytes) : ∃ source ∈ sources, source.path.place = q := by
  obtain ⟨root, spelled, names, hroot, rfl, hhas⟩ := hq
  rw [hroots] at hroot
  obtain ⟨entered, hentered, heq⟩ := List.mem_map.mp hroot
  cases heq
  have hhas : HasSource files settings.extension? root spelled names bytes :=
    ⟨hhas.extension, hhas.below, hhas.named, hgrown.file_iff.mpr hhas.file⟩
  obtain ⟨source, hsource, hload⟩ :=
    mem_scanAll_of_hasSource (hgrown.distinct ht.distinct) h hentered hhas
  obtain ⟨lines, -, rfl⟩ := loadSource_ok hload
  exact ⟨_, hsource, place_below_of_hasSource ht hgrown hhas⟩

end Discovered

/-! ## Losses -/

/-- How far a run has come with the output: the output, whether it was cleared, and the models whose
declarations were written. -/
structure Extent (settings : Settings) (base : Path) (t : FileTree) (r : Except Failure Conversion)
    (output : Path) (cleared : Bool) (done : List Model) : Prop where
  /-- A run that succeeds clears the output that it was given and writes all models. -/
  success : ∀ c, r = .ok c → output = c.output ∧ done = c.models
    ∧ cleared = settings.convertDirectory.isGiven
  /-- A run that rejects its sources or settings does neither. -/
  rejection : isRejected r = true → cleared = false ∧ done = []
  /-- Only an output that is given is cleared. -/
  given : cleared = true → outputOf settings base = .ok (some output)
  /-- What was written are declarations of the models that the run has found, in their order. -/
  written : done ≠ [] → ∃ files found, GrownBy (LeadsToRoot settings base) t files
    ∧ Surveyed settings base files found ∧ done <+: found.models
    ∧ outputOf settings base = .ok (if cleared then some output else none)
    ∧ (cleared = false → output = base)

/-- Whether a run that has come so far spares a file: a declaration that was written there has the
same bytes, or none was written there and the file was not cleared away. -/
def Spares (settings : Settings) (output : Path) (cleared : Bool) (done : List Model)
    (q : List Text) (bytes : Bytes) : Prop :=
  match lastAt? settings.generator output q done with
  | some m => encode (settings.declaration m) = bytes
  | none => cleared = true → ¬output.segments <+: q

/-- Once the declarations are reached, the output is cleared if it is given, and `Spares` tells
which files are left. -/
theorem Reached.file_iff {found : Survey} {output : Path} {done : List Model} {t t' : FileTree}
    (h : Reached settings base found output done t t') {q : List Text} {bytes : Bytes}
    (hfile : t.find? q = some (.file bytes)) :
    t'.find? q = some (.file bytes)
      ↔ Spares settings output settings.convertDirectory.isGiven done q bytes := by
  obtain ⟨-, t₁, hprepared, hemitted⟩ := h
  rw [Spares]
  cases hlast : lastAt? settings.generator output q done with
  | some m =>
    obtain ⟨content, hcontent, hwritten⟩ := hemitted.last q m hlast
    rw [settings.generate_eq] at hcontent
    cases hcontent
    rw [hwritten]
    simp
  | none =>
    have hsame : t'.find? q = some (.file bytes) ↔ t₁.find? q = some (.file bytes) := by
      rcases hemitted.others q hlast with heq | ⟨hnone, hdir, -⟩
      · rw [heq]
      · simp [hnone, hdir]
    rw [hsame]
    rcases hprepared with ⟨houtput, -, rfl⟩ | ⟨houtput, hreplaced, -⟩
    · simp [isGiven_of_outputOf houtput, hfile]
    · simp [isGiven_of_outputOf houtput, hreplaced.file_iff hfile]

/-- A base directory whose output directory lies below it and holds a source. -/
def nested : FileTree :=
  { entries :=
      [(["b".toList], .directory), (["b".toList, "gen".toList], .directory),
       (["b".toList, "gen".toList, "A.cs".toList], .file (encode "public class A\n".toList))] }

/-- The output directory inside of the base directory, which is the only root. -/
def nestedSettings : Settings := { convertDirectory := .text "gen".toList }

theorem wellFormed_nested : nested.WellFormed :=
  ⟨by decide, by decide, by decide⟩

theorem isSource_nested : IsSource nestedSettings (ofText "/b".toList) nested
    ["b".toList, "gen".toList, "A.cs".toList] (encode "public class A\n".toList) := by
  refine ⟨ofText "/b".toList, ".cs".toList, ["gen".toList, "A.cs".toList], ?_, by decide +kernel,
    by decide +kernel, by decide +kernel, by decide +kernel, by decide +kernel⟩
  exact List.mem_singleton.mpr rfl

theorem find?_nested :
    (Session.run (run nestedSettings (ofText "/b".toList)) { files := nested }).2.files.find?
      ["b".toList, "gen".toList, "A.cs".toList] = none := by
  decide +kernel

/-- Whether a run succeeds or fails, each of its sources is left with the bytes that it had exactly
if the run spares it. -/
theorem source_kept_iff {s s' : Session} (hs : s.files.WellFormed) {r : Except Failure Conversion}
    (h : Session.run (run settings base) s = (r, s')) :
    ∃ output cleared done, Extent settings base s.files r output cleared done
      ∧ ∀ q bytes, IsSource settings base s.files q bytes →
        (s'.files.find? q = some (.file bytes) ↔ Spares settings output cleared done q bytes) := by
  obtain ⟨t, hgrown, hcases⟩ := run_cases hs.closed h
  have hbefore : ∀ {q bytes}, IsSource settings base s.files q bytes →
      t.find? q = some (.file bytes) := fun hq => hgrown.file_iff.mpr hq.find?
  rcases hcases with ⟨e, rfl, rfl⟩ | ⟨e, output, rfl, he, houtput, hreplaced | hmade⟩
    | ⟨e, found, output, done, rfl, he, hdone, hreached⟩ | ⟨c, rfl, -, hreached⟩
  · -- the output was not touched
    refine ⟨base, false, [], ⟨by simp, fun _ => ⟨rfl, rfl⟩, by simp, by simp⟩, fun q bytes hq => ?_⟩
    simp [Spares, lastAt?, hbefore hq]
  · -- the output was cleared and could not be made again
    refine ⟨output, true, [], ⟨by simp, by simp [isRejected, he], fun _ => houtput, by simp⟩,
      fun q bytes hq => ?_⟩
    rw [hreplaced.file_iff (hbefore hq)]
    simp [Spares, lastAt?]
  · -- the output could not be cleared
    refine ⟨base, false, [], ⟨by simp, fun _ => ⟨rfl, rfl⟩, by simp, by simp⟩, fun q bytes hq => ?_⟩
    rw [hmade.file_iff]
    simp [Spares, lastAt?, hbefore hq]
  · obtain ⟨t₁, hprepared, -⟩ := hreached.written
    obtain ⟨houtput, hbase⟩ := hprepared.output
    refine ⟨output, settings.convertDirectory.isGiven, done, ⟨by simp, by simp [isRejected, he],
      fun hgiven => by rw [houtput, if_pos hgiven],
      fun _ => ⟨t, found, hgrown, hreached.surveyed, hdone, houtput, hbase⟩⟩,
      fun q bytes hq => hreached.file_iff (hbefore hq)⟩
  · obtain ⟨t₁, hprepared, -⟩ := hreached.written
    obtain ⟨houtput, hbase⟩ := hprepared.output
    refine ⟨c.output, settings.convertDirectory.isGiven, c.models, ⟨fun c' hc' => ?_,
      by simp [isRejected], fun hgiven => by rw [houtput, if_pos hgiven],
      fun _ => ⟨t, c.toSurvey, hgrown, hreached.surveyed, List.prefix_rfl, houtput, hbase⟩⟩,
      fun q bytes hq => hreached.file_iff (hbefore hq)⟩
    cases hc'
    exact ⟨rfl, rfl, rfl⟩

/-- The run on `nested` does not spare its source. -/
theorem source_kept_iff_nested : ∃ output cleared done,
    Extent nestedSettings (ofText "/b".toList) nested
      (Session.run (run nestedSettings (ofText "/b".toList)) { files := nested }).1
      output cleared done
    ∧ ¬Spares nestedSettings output cleared done ["b".toList, "gen".toList, "A.cs".toList]
      (encode "public class A\n".toList) := by
  obtain ⟨output, cleared, done, hextent, hkept⟩ :=
    source_kept_iff (s := { files := nested }) wellFormed_nested (Prod.eta _).symm
  refine ⟨output, cleared, done, hextent, fun hspared => ?_⟩
  have hfound := (hkept _ _ isSource_nested).mpr hspared
  rw [find?_nested] at hfound
  cases hfound

/-- A run may lose a source that it has read: here the only one is cleared away with the output
directory, which holds no root and is therefore accepted. -/
theorem nested_source_lost :
    IsSource nestedSettings (ofText "/b".toList) nested
      ["b".toList, "gen".toList, "A.cs".toList] (encode "public class A\n".toList)
    ∧ writtenPaths (Session.run (run nestedSettings (ofText "/b".toList)) { files := nested }).1
      = [ofText "/b/gen/gen/a.ts".toList]
    ∧ (Session.run (run nestedSettings (ofText "/b".toList)) { files := nested }).2.files.find?
      ["b".toList, "gen".toList, "A.cs".toList] ≠ some (.file (encode "public class A\n".toList)) :=
  ⟨isSource_nested, by decide +kernel, by rw [find?_nested]; simp⟩

end Typings.Conversion
