import Typings.Proofs.Conversion.Sources
import Typings.Proofs.Conversion.Success
import Typings.Proofs.Discovery.Visit

/-!
# Locality

What one source holds decides about the declarations of its own models and about no others: of any
other source, a declaration depends on the name and the folder alone.
-/

namespace Typings.Conversion

open Discovery FileTree Typings.Path Session Text

variable {settings : Settings} {base : Path}

/-- Whether a model has the name and the folder of a source that is found at a place. -/
def IsModelOf (settings : Settings) (base : Path) (t : FileTree) (f : List Text) (m : Model) :
    Prop :=
  ∃ root spelled names bytes, .ok root ∈ rootsOf settings base ∧ f = root.place ++ names
    ∧ HasSource t settings.extension? root spelled names bytes
    ∧ m.name = (sourceOf spelled root names []).name
    ∧ m.folder = (sourceOf spelled root names []).folder

/-- The models of a source are named after its file. -/
theorem IsModelOf.name_eq {t : FileTree} {f : List Text} {m : Model}
    (h : IsModelOf settings base t f m) {spelled : Text}
    (hspelled : settings.extension?.bind RawText.text? = some spelled) :
    m.name = pascalCase (stem spelled (f.getLast?.getD [])) := by
  obtain ⟨root, other, names, bytes, -, rfl, hhas, hname, -⟩ := h
  have hextension := hhas.extension
  rw [hspelled] at hextension
  cases hextension
  rw [hname, List.getLast?_append_of_ne_nil _ hhas.below, sourceOf]

/-! ## Sources and models of two trees -/

section Changed

variable {s s' t p u u' v w : FileTree} {c d : Conversion} {f : List Text}
  (h : Succeeded settings base s s' c t p) (h' : Succeeded settings base u u' d v w)
  (hs : s.WellFormed) (hu : u.WellFormed)
  (hfile : ∃ bytes, s.find? f = some (.file bytes))
  (hfile' : ∃ bytes, u.find? f = some (.file bytes))
  (hsame : ∀ q, q ≠ f → u.find? q = s.find? q)

include h h'

theorem roots_eq : d.roots = c.roots := by
  have hroots := h.surveyed.roots.symm.trans h'.surveyed.roots
  exact (List.map_injective_iff.mpr (fun _ _ => Except.ok.inj) hroots).symm

theorem output_eq : d.output = c.output := h.prepared.output_unique h'.prepared

theorem anchor_eq : d.anchor = c.anchor := by
  have hanchor := h'.surveyed.anchor
  rw [roots_eq h h', h.surveyed.anchor] at hanchor
  exact (Except.ok.inj hanchor).symm

include hsame

/-- After the surveys the trees are equal but for the file that differs. -/
theorem find?_surveyed_eq {q : List Text} (hq : q ≠ f) : v.find? q = t.find? q := by
  have hkept := h'.keptOrMade q
  rw [hsame q hq] at hkept
  exact (h.keptOrMade q).unique hkept Iff.rfl

include hs hu hfile hfile'

/-- The sources that are found are the same, in the same order. Only those at the place that differs
may have other lines. -/
theorem forall₂_sources {registry registry' : Registry}
    (hscan : scanAll t settings.extension? c.roots = (registry.entries, none))
    (hscan' : scanAll v settings.extension? d.roots = (registry'.entries, none)) :
    List.Forall₂ (fun a b => b.name = a.name ∧ b.folder = a.folder
        ∧ (b.lines = a.lines ∨ ∀ m : Model, m.name = a.name → m.folder = a.folder →
          IsModelOf settings base s f m))
      registry.entries registry'.entries := by
  rw [roots_eq h h'] at hscan'
  obtain ⟨hnone, hentries⟩ := scanAll_eq_iff.mp hscan
  obtain ⟨hnone', hentries'⟩ := scanAll_eq_iff.mp hscan'
  have hfiles : ∀ q, (∃ bytes, t.find? q = some (.file bytes))
      ↔ ∃ bytes, v.find? q = some (.file bytes) := by
    intro q
    by_cases hq : q = f
    · subst hq
      obtain ⟨bytes, hbytes⟩ := hfile
      obtain ⟨bytes', hbytes'⟩ := hfile'
      exact iff_of_true ⟨bytes, h.grown.file_iff.mpr hbytes⟩ ⟨bytes', h'.grown.file_iff.mpr hbytes'⟩
    · rw [find?_surveyed_eq h h' hsame hq]
  rw [hentries, hentries']
  refine List.rel_flatMap (R := fun root root' => root = root' ∧ root ∈ c.roots)
    (List.forall₂_same.mpr fun root hroot => ⟨rfl, hroot⟩) ?_
  rintro root _ ⟨rfl, hroot⟩
  have hitem : .ok root ∈ rootsOf settings base := by
    rw [h.surveyed.roots]
    exact List.mem_map_of_mem hroot
  refine (forall₂_scan (h.grown.distinct hs.distinct) (h'.grown.distinct hu.distinct)
    (h.surveyed.isDirectory hroot) (h'.surveyed.isDirectory ((roots_eq h h').symm ▸ hroot))
    (fun names _ => hfiles (root.place ++ names)) (hnone root hroot) (hnone' root hroot)).imp ?_
  rintro a b ⟨spelled, names, bytes, bytes', hhas, hbytes', ha, hb⟩
  by_cases hplace : root.place ++ names = f
  · obtain ⟨lines, -, rfl⟩ := loadSource_ok ha
    obtain ⟨lines', -, rfl⟩ := loadSource_ok hb
    refine ⟨rfl, rfl, Or.inr fun m hname hfolder => ?_⟩
    exact ⟨root, spelled, names, bytes, hitem, hplace.symm, ⟨hhas.extension, hhas.below,
      hhas.named, h.grown.file_iff.mp hhas.file⟩, hname, hfolder⟩
  · rw [find?_surveyed_eq h h' hsame hplace, hhas.file] at hbytes'
    cases hbytes'
    rw [ha] at hb
    cases hb
    exact ⟨rfl, rfl, Or.inl rfl⟩

/-- The models are the same, in the same order. Only those of the source that differs may declare
something else. -/
theorem forall₂_models : List.Forall₂ (fun m n => n.name = m.name ∧ n.folder = m.folder
    ∧ (n = m ∨ IsModelOf settings base s f m)) c.models d.models := by
  obtain ⟨registry, hscan, hmodels⟩ := h.surveyed.models
  obtain ⟨registry', hscan', hmodels'⟩ := h'.surveyed.models
  have hsources := forall₂_sources h h' hs hu hfile hfile' hsame hscan hscan'
  rw [anchor_eq h h'] at hmodels'
  -- look-ups answer with sources of the same name and folder
  have hlookup : ∀ name, (registry'.find? name).map (fun file => (file.name, file.folder))
      = (registry.find? name).map fun file => (file.name, file.folder) := by
    intro name
    refine map_find?_of_forall₂ (List.forall₂_reverse_iff.mpr hsources) ?_ ?_
    · rintro a b ⟨hname, -⟩
      rw [hname]
    · rintro a b ⟨hname, hfolder, -⟩ -
      rw [hname, hfolder]
  refine forall₂_of_forall₂ ?_ hsources (forall₂_of_modelsOf hmodels) (forall₂_of_modelsOf hmodels')
  rintro a b m n ⟨hname, hfolder, hlines⟩ hm hn
  obtain ⟨hmname, hmfolder⟩ := Model.name_folder_of_read hm
  obtain ⟨hnname, hnfolder⟩ := Model.name_folder_of_read hn
  refine ⟨by rw [hnname, hname, hmname], by rw [hnfolder, hfolder, hmfolder], ?_⟩
  rcases hlines with hlines | hown
  · rw [read_contextOf_eq hlookup hname hfolder hlines, hm] at hn
    exact Or.inl (Except.ok.inj hn).symm
  · exact Or.inr (hown m hmname hmfolder)

/-- The same files are written. -/
theorem written_eq : d.written = c.written := by
  rw [h.written, h'.written, output_eq h h']
  have hmodels := forall₂_models h h' hs hu hfile hfile' hsame
  refine List.forall₂_eq_eq_eq.le _ _ (List.forall₂_map_left_iff.mpr
    (List.forall₂_map_right_iff.mpr (hmodels.flip.imp ?_)))
  rintro n m ⟨hname, hfolder, -⟩
  exact settings.generator.outputPath_congr hname hfolder c.output

/-- Where no declaration of the source that differs goes, the last one is the same. -/
theorem map_lastAt?_eq {q : List Text} (hown : ∀ m ∈ c.models, IsModelOf settings base s f m →
      (settings.generator.outputPath c.output m).place ≠ q) :
    (lastAt? settings.generator c.output q d.models).map settings.generator.generate
      = (lastAt? settings.generator c.output q c.models).map settings.generator.generate := by
  have hmodels := (List.forall₂_and_left _ _).mpr
    ⟨fun _ hm => hm, forall₂_models h h' hs hu hfile hfile' hsame⟩
  refine map_find?_of_forall₂ (List.forall₂_reverse_iff.mpr hmodels) ?_ ?_
  · rintro m n ⟨-, hname, hfolder, -⟩
    rw [settings.generator.outputPath_congr hname hfolder]
  · rintro m n ⟨hm, -, -, rfl | hmodel⟩ hplace
    · rfl
    · exact absurd (of_decide_eq_true hplace) (hown m hm hmodel)

/-- Where no declaration of the source that differs goes, the runs leave the same. The place of that
source itself is left with what is written there, if anything is. -/
theorem find?_left_eq {q : List Text} (hq : q ≠ f ∨ ∃ p ∈ c.written, p.place = q)
    (hown : ∀ m ∈ c.models, IsModelOf settings base s f m →
      (settings.generator.outputPath c.output m).place ≠ q) :
    u'.find? q = s'.find? q := by
  have houtput := output_eq h h'
  have hemitted := h'.emitted
  have hprepared := h'.prepared
  have hways := onWayToWritten_iff (q := q) h'.written
  rw [houtput] at hemitted hprepared hways
  refine find?_of_emitted h.emitted hemitted (fun hlast => ?_)
    (map_lastAt?_eq h h' hs hu hfile hfile' hsame hown) ?_
  · refine h.prepared.find?_eq hprepared (h.grown.closed hs.closed) (h'.grown.closed hu.closed)
      fun _ => find?_surveyed_eq h h' hsame ?_
    rcases hq with hq | ⟨p, hp, rfl⟩
    · exact hq
    · have := (lastAt?_isSome_iff_written h.written).mpr ⟨p, hp, rfl⟩
      rw [hlast] at this
      cases this
  · rw [← hways, ← onWayToWritten_iff h.written, OnWayToWritten, OnWayToWritten,
      written_eq h h' hs hu hfile hfile' hsame]

end Changed

/-- Two runs on trees that differ only in the bytes of one source write the same files. Each of them
holds the same declaration, except where the declaration of a model of that source goes. The rest of
the trees that the runs leave is the same as well, but for the source itself. -/
theorem run_local {s₁ s₁' s₂ s₂' : Session} {c₁ c₂ : Conversion} {f : List Text}
    {bytes₁ bytes₂ : Bytes} (hs₁ : s₁.files.WellFormed) (hs₂ : s₂.files.WellFormed)
    (hsource : IsSource settings base s₁.files f bytes₁)
    (hchanged : s₂.files.find? f = some (.file bytes₂))
    (hsame : ∀ q, q ≠ f → s₂.files.find? q = s₁.files.find? q)
    (hrun₁ : Session.run (run settings base) s₁ = (.ok c₁, s₁'))
    (hrun₂ : Session.run (run settings base) s₂ = (.ok c₂, s₂')) :
    c₂.written = c₁.written
    ∧ (∀ p ∈ c₁.written, (∀ m ∈ c₁.models, IsModelOf settings base s₁.files f m →
        settings.generator.outputPath c₁.output m ≠ p) →
      ∃ bytes, s₁'.files.find? p.place = some (.file bytes)
        ∧ s₂'.files.find? p.place = some (.file bytes))
    ∧ ∀ q, q ≠ f → (∀ m ∈ c₁.models, IsModelOf settings base s₁.files f m →
        (settings.generator.outputPath c₁.output m).place ≠ q) →
      s₂'.files.find? q = s₁'.files.find? q := by
  obtain ⟨t, p, h₁⟩ := run_succeeded hs₁.closed hrun₁
  obtain ⟨v, w, h₂⟩ := run_succeeded hs₂.closed hrun₂
  have hfile₁ : ∃ bytes, s₁.files.find? f = some (.file bytes) := ⟨_, hsource.find?⟩
  have hfile₂ : ∃ bytes, s₂.files.find? f = some (.file bytes) := ⟨_, hchanged⟩
  refine ⟨written_eq h₁ h₂ hs₁ hs₂ hfile₁ hfile₂ hsame, fun p hp hown => ?_,
    fun q hq => find?_left_eq h₁ h₂ hs₁ hs₂ hfile₁ hfile₂ hsame (Or.inl hq)⟩
  obtain ⟨m, -, hwritten⟩ := written_of_emitted h₁.written h₁.emitted hp
  refine ⟨_, hwritten, ?_⟩
  rw [← hwritten]
  refine find?_left_eq h₁ h₂ hs₁ hs₂ hfile₁ hfile₂ hsame (Or.inr ⟨p, hp, rfl⟩)
    fun n hn hmodel hplace => hown n hn hmodel ?_
  -- different paths lead to different places
  rw [h₁.written] at hp
  obtain ⟨k, hk, rfl⟩ := List.mem_map.mp hp
  exact settings.generator.outputPath_inj (h₁.surveyed.foldered hs₁ h₁.grown hn)
    (h₁.surveyed.foldered hs₁ h₁.grown hk) hplace

/-- The place of the first source of `cleared`. -/
def firstPlace : List Text := ["b".toList, "w".toList, "A.cs".toList]

/-- The first source of `cleared` with a property. -/
def changed : FileTree :=
  cleared.insert firstPlace (.file (encode "public class A\n\x7b\n    public int X;\n\x7d\n".toList))

theorem wellFormed_changed : changed.WellFormed :=
  ⟨by decide, by decide, by decide⟩

theorem isSource_firstPlace : IsSource clearedSettings (ofText "/b".toList) cleared firstPlace
    (encode "public class A\n".toList) := by
  refine ⟨ofText "/b/w".toList, ".cs".toList, ["A.cs".toList], ?_, by decide +kernel,
    by decide +kernel, by decide +kernel, by decide +kernel, by decide +kernel⟩
  exact List.mem_map.mpr ⟨"w".toList.map .char, by decide +kernel, by rfl⟩

/-- What the first source of `cleared` holds does not matter for the declaration of the second,
which inherits from it. -/
theorem run_local_cleared : ∃ c₁ c₂ s₁ s₂,
    Session.run (run clearedSettings (ofText "/b".toList)) { files := cleared } = (.ok c₁, s₁)
    ∧ Session.run (run clearedSettings (ofText "/b".toList)) { files := changed } = (.ok c₂, s₂)
    ∧ c₂.written = c₁.written
    ∧ ofText "/b/out/b.ts".toList ∈ c₁.written
    ∧ s₂.files.find? ["b".toList, "out".toList, "b.ts".toList]
      = s₁.files.find? ["b".toList, "out".toList, "b.ts".toList] := by
  have hfirst : (Session.run (run clearedSettings (ofText "/b".toList))
      { files := cleared }).1.toOption.map (fun c => decide (ofText "/b/out/b.ts".toList ∈ c.written
        ∧ ∀ m ∈ c.models, m.name = "A".toList →
          clearedSettings.generator.outputPath c.output m ≠ ofText "/b/out/b.ts".toList))
      = some true := by decide +kernel
  have hsecond : (Session.run (run clearedSettings (ofText "/b".toList))
      { files := changed }).1.toOption.isSome = true := by decide +kernel
  rcases hrun₁ : Session.run (run clearedSettings (ofText "/b".toList)) { files := cleared } with
    ⟨e | c₁, s₁⟩
  · rw [hrun₁] at hfirst
    cases hfirst
  rcases hrun₂ : Session.run (run clearedSettings (ofText "/b".toList)) { files := changed } with
    ⟨e | c₂, s₂⟩
  · rw [hrun₂] at hsecond
    cases hsecond
  rw [hrun₁] at hfirst
  obtain ⟨hmem, hother⟩ := of_decide_eq_true (Option.some.inj hfirst)
  have hsame : ∀ q, q ≠ firstPlace → changed.find? q = cleared.find? q := by
    intro q hq
    rw [changed, find?_insert _ (by decide), if_neg hq]
  have hplace : changed.find? firstPlace
      = some (.file (encode "public class A\n\x7b\n    public int X;\n\x7d\n".toList)) := by
    rw [changed, find?_insert _ (by decide), if_pos rfl]
  obtain ⟨hwritten, hdeclared, -⟩ := run_local wellFormed_cleared wellFormed_changed
    isSource_firstPlace hplace hsame hrun₁ hrun₂
  have hown : ∀ m ∈ c₁.models, IsModelOf clearedSettings (ofText "/b".toList) cleared firstPlace m →
      clearedSettings.generator.outputPath c₁.output m ≠ ofText "/b/out/b.ts".toList := by
    intro m hm hmodel
    refine hother m hm ?_
    rw [hmodel.name_eq (by decide +kernel : _ = some ".cs".toList)]
    decide +kernel
  obtain ⟨bytes, hbytes₁, hbytes₂⟩ := hdeclared _ hmem hown
  exact ⟨c₁, c₂, s₁, s₂, rfl, rfl, hwritten, hmem, hbytes₂.trans hbytes₁.symm⟩

end Typings.Conversion
