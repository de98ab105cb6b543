import Typings.Proofs.Discovery.EnteredRoots

/-!
# Directories that are listed twice

The warning about a repeated working directory compares what is listed as texts, and the roots are
places. Where it is given a root is there twice. A root that is there twice goes unnoticed if it is
listed in two spellings and twice in none.
-/

namespace Typings

open Discovery Session Text

namespace Settings

variable {settings : Settings}

/-- The warning about a repeated working directory. -/
def repeatedWarning : RawText :=
  RawText.ofText "The same working directory is listed more than once".toList

/-- The warning is given if an item is listed twice as a text, and for no other reason. -/
theorem repeatedWarning_mem_iff {warnings : List RawText}
    (h : settings.warnings? = some warnings) :
    repeatedWarning ∈ warnings ↔ ¬settings.directoryItems.Nodup := by
  obtain ⟨extension, -, rfl⟩ := Option.map_eq_some_iff.mp h
  -- the other warnings start with other letters
  have hextension : ∀ rest : RawText, repeatedWarning
      ≠ RawText.ofText "source_extension should start with '.': ".toList ++ rest := by
    intro rest heq
    have hhead := congrArg List.head? heq
    simp [repeatedWarning, RawText.ofText] at hhead
  have houtput : repeatedWarning
      ≠ RawText.ofText ("No convert_directory set - output goes to the current ".toList
        ++ "directory and is not cleared between runs".toList) := by decide
  simp only [List.mem_append, List.mem_ite_nil_left, List.mem_singleton, hextension extension,
    houtput, and_false, false_or]
  exact and_iff_left rfl

end Settings

namespace Discovery

variable {settings : Settings} {base : Path} {s s' : Session} {roots : List Path}

/-- The roots are different if the items are, and lead to different places. -/
theorem nodup_roots_iff (h : rootsOf settings base = roots.map .ok) :
    roots.Nodup ↔ settings.directoryItems.Nodup
      ∧ ∀ i ∈ settings.directoryItems, ∀ j ∈ settings.directoryItems,
        rootOf base i = rootOf base j → i = j := by
  have hok : Function.Injective (Except.ok : Path → Except RawText Path) :=
    fun _ _ heq => Except.ok.inj heq
  rw [← List.nodup_map_iff hok, ← h, rootsOf]
  split
  · constructor
    · intro hnodup
      have hitems := hnodup.of_map
      exact ⟨hitems, (List.nodup_map_iff_inj_on hitems).mp hnodup⟩
    · rintro ⟨hitems, hinj⟩
      exact (List.nodup_map_iff_inj_on hitems).mpr hinj
  · next hnone =>
    rw [settings.directoryItems_eq, Settings.namedItems_of_not_hasRoots (by simpa using hnone)]
    simp

/-- The settings warn of a repeated working directory if one is listed twice as a text, without the
blanks around it. Among the roots one is there twice exactly if they do, or if two different texts
are listed that lead to the same place. -/
theorem repeated_root_iff {extension : RawText} (hext : settings.extension? = some extension)
    (h : run (enterRoots settings base) s = (.ok roots, s')) :
    ∃ warnings, settings.warnings? = some warnings
      ∧ (Settings.repeatedWarning ∈ warnings ↔ ¬settings.directoryItems.Nodup)
      ∧ (¬roots.Nodup ↔ Settings.repeatedWarning ∈ warnings
        ∨ ∃ i ∈ settings.directoryItems, ∃ j ∈ settings.directoryItems,
          i ≠ j ∧ rootOf base i = rootOf base j) := by
  obtain ⟨warnings, hwarnings⟩ : ∃ warnings, settings.warnings? = some warnings := by
    rw [Settings.warnings?, hext]
    exact ⟨_, rfl⟩
  have hmem := Settings.repeatedWarning_mem_iff hwarnings
  refine ⟨warnings, hwarnings, hmem, ?_⟩
  rw [hmem, nodup_roots_iff ((enterRoots_cases h).2 roots rfl), not_and_or]
  refine or_congr_right ?_
  simp only [not_forall, exists_prop]
  exact exists_congr fun i => and_congr_right fun _ => exists_congr fun j =>
    and_congr_right fun _ => and_comm

/-- Settings that list one directory twice as a text, and once more in another spelling. -/
def listedThrice : Settings :=
  { workingDirectory := .text "src".toList, workingDirectories := .text " src ;; ./src".toList }

/-- The directory that is listed more than once, seen from `/b`. -/
def listedRoot : Path := Path.ofText "/b/src".toList

/-- Both reasons for a repeated root at once. -/
theorem repeated_root_iff_thrice :
    listedThrice.extension? = some (RawText.ofText ".cs".toList)
    ∧ ∃ s', run (enterRoots listedThrice (Path.ofText "/b".toList)) { files := baseOnly }
        = (.ok [listedRoot, listedRoot, listedRoot], s')
      ∧ ∃ warnings, listedThrice.warnings? = some warnings
        ∧ Settings.repeatedWarning ∈ warnings ∧ ¬[listedRoot, listedRoot, listedRoot].Nodup := by
  obtain ⟨s', henter⟩ : ∃ s', run (enterRoots listedThrice (Path.ofText "/b".toList))
      { files := baseOnly } = (.ok [listedRoot, listedRoot, listedRoot], s') :=
    exists_run_of_toOption (by decide +kernel)
  have hext : listedThrice.extension? = some (RawText.ofText ".cs".toList) := rfl
  obtain ⟨warnings, hwarnings, hmem, hroots⟩ := repeated_root_iff hext henter
  have hlisted : Settings.repeatedWarning ∈ warnings := hmem.mpr (by decide +kernel)
  exact ⟨hext, s', henter, warnings, hwarnings, hlisted, hroots.mpr (.inl hlisted)⟩

/-- Settings that list one directory in two spellings. -/
def listedApart : Settings := { workingDirectories := .text "src;./src".toList }

/-- A root that is listed in two spellings is there twice, and nothing warns of it. -/
theorem repeated_root_unnoticed :
    (∃ s', run (enterRoots listedApart (Path.ofText "/b".toList)) { files := baseOnly }
      = (.ok [listedRoot, listedRoot], s'))
    ∧ ¬[listedRoot, listedRoot].Nodup
    ∧ ∃ warnings, listedApart.warnings? = some warnings
      ∧ Settings.repeatedWarning ∉ warnings :=
  ⟨exists_run_of_toOption (by decide +kernel), by simp, _, rfl, by decide +kernel⟩

end Discovery

end Typings
