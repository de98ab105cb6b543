import Typings.Proofs.Conversion.Run

/-!
# Rejected runs

A run that rejects the sources or the settings does so before it touches anything: all that it may
leave behind are directories on the way to its roots.
-/

namespace Typings.Conversion

open Discovery FileTree

/-- Whether a run ended because it rejected the sources or the settings. -/
def isRejected : Except Failure Conversion → Bool
  | .ok _ => false
  | .error e => e.isRejection

/-- Where a run rejects its sources or its settings, all that was there is still there, all that is
new are directories on the way to the roots, and nothing counts as written. -/
theorem rejection_touches_nothing {settings : Settings} {base : Path} {s s' : Session}
    (hs : s.files.WellFormed) {r : Except Failure Conversion}
    (h : Session.run (run settings base) s = (r, s')) (hr : isRejected r = true) :
    (∀ q, s'.files.find? q = s.files.find? q
      ∨ (s.files.find? q = none ∧ s'.files.find? q = some .directory
        ∧ LeadsToRoot settings base q))
    ∧ (∀ q bytes, s'.files.find? q = some (.file bytes) ↔ s.files.find? q = some (.file bytes))
    ∧ writtenPaths r = [] := by
  obtain ⟨t, hgrown, hcases⟩ := run_cases hs.closed h
  rcases hcases with ⟨e, rfl, rfl⟩ | ⟨e, output, rfl, he, -⟩ | ⟨e, found, output, done, rfl, he, -⟩
    | ⟨c, rfl, -⟩
  · exact ⟨hgrown.entry, fun q bytes => hgrown.file_iff, rfl⟩
  · -- replacing the output fails with an error of the files
    rw [isRejected, he] at hr
    cases hr
  · rw [isRejected, he] at hr
    cases hr
  · cases hr

/-- A folder with a source that opens its body on its own line, beside an earlier output. -/
def unreadable : FileTree :=
  { entries :=
      [(["b".toList], .directory), (["b".toList, "w".toList], .directory),
       (["b".toList, "w".toList, "A.cs".toList],
        .file (Text.encode "public class A \x7b\n".toList)),
       (["b".toList, "out".toList], .directory),
       (["b".toList, "out".toList, "a.ts".toList], .file [])] }

/-- Settings with a working directory that is missing beside the one that has the source. -/
def unreadableSettings : Settings :=
  { workingDirectories := .text "x/y;w".toList, convertDirectory := .text "out".toList }

/-- The run creates the missing working directory, rejects the source and keeps the output. -/
theorem rejection_touches_nothing_unreadable :
    isRejected (Session.run (run unreadableSettings (Path.ofText "/b".toList))
      { files := unreadable }).1 = true
    ∧ ∀ q bytes, (Session.run (run unreadableSettings (Path.ofText "/b".toList))
        { files := unreadable }).2.files.find? q = some (.file bytes)
      ↔ unreadable.find? q = some (.file bytes) := by
  have hwell : unreadable.WellFormed :=
    ⟨by decide +kernel, by decide +kernel, by decide +kernel⟩
  have hrejected : isRejected (Session.run (run unreadableSettings (Path.ofText "/b".toList))
      { files := unreadable }).1 = true := by decide +kernel
  exact ⟨hrejected, (rejection_touches_nothing hwell (Prod.eta _).symm hrejected).2.1⟩

end Typings.Conversion
