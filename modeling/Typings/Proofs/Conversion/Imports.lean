import Typings.Proofs.Conversion.FinalTree
import Typings.Proofs.Model.ImportPath

/-!
# Imports of written files

Every import of a written file leads to the written file that declares the imported name. Where the
output itself is given with double dots, the path that an import is normalised to is that of the
file once the file's own path is normalised.
-/

namespace Typings

open Discovery FileTree Typings.Path Text

/-- From the file of one model, the import of another leads to the file of that other model, below
whichever output directory both are written. -/
theorem ImportPaths.normalise_import (imports : ImportPaths) {g : Generator}
    (hstyle : g.style = imports.style) {m target : Model} (hm : Foldered m.folder m.name)
    (htarget : Foldered target.folder target.name) (output : Path) :
    ((g.outputPath output m).parent.join (ofText (importText
        ((imports.outputFolder target.folder).relative (imports.outputFolder m.folder))
        (imports.style.fileStem target.name) ++ Generator.extension))).normalise
      = (g.outputPath output target).normalise := by
  obtain ⟨here, hhere, hfolder⟩ := hm.folder
  obtain ⟨there, hthere, hfolder'⟩ := htarget.folder
  obtain ⟨shared, up, down, hup, hdown, hwalk⟩ := imports.exists_walk hhere hthere
  have hfile := Generator.isName_append_extension
    (imports.style.slash_notMem_fileStem htarget.name)
  have hhere' := imports.style.isName_of_mem_map_segment hhere
  have hthere' := imports.style.isName_of_mem_map_segment hthere
  rw [hup] at hhere'
  rw [hdown] at hthere'
  rw [hfolder, hfolder', hwalk, ofText_importText (fun s hs => hthere' s (by simp [hs])) hfile,
    g.outputPath_eq hm, g.outputPath_eq htarget, Generator.below, Generator.below, hstyle, hfolder,
    hfolder', imports.style.ofText_directory hhere, imports.style.ofText_directory hthere, hup,
    hdown, parent, join, if_pos rfl, ← List.append_assoc output.segments, List.dropLast_concat,
    List.append_assoc (List.replicate up.length dotDot),
    normalise_walk _ _ _ (dotDot_notMem_of_names fun s hs => hhere' s (by simp [hs]))
      (dotDot_notMem_of_names fun s hs => hhere' s (by simp [hs]))]
  simp

namespace Conversion

variable {settings : Settings} {base : Path} {s s' : Session} {c : Conversion}

/-- The file of the last model with the imported name is where an import of a model leads. -/
structure LeadsTo (settings : Settings) (c : Conversion) (t : FileTree) (m : Model) (i : Import)
    (target : Model) : Prop where
  last : c.models.reverse.find? (fun n => n.name = i.name) = some target
  name : target.name = i.name
  written : settings.generator.outputPath c.output target ∈ c.written
  /-- What the import says, read from the folder of the importing file, is the path of the file. -/
  path : ((settings.generator.outputPath c.output m).parent.join
      (ofText (i.path ++ Generator.extension))).normalise
    = (settings.generator.outputPath c.output target).normalise
  /-- The file is there and holds the declaration of the name. -/
  declared : t.find? (settings.generator.outputPath c.output target).place
    = some (.file (encode (settings.declaration target)))
  dotted : "./".toList <+: i.path ∨ "../".toList <+: i.path

/-- Every import of a model that was found is said by the import paths to lead to the last model
with the imported name. -/
theorem Surveyed.exists_target {files : FileTree} {found : Survey}
    (h : Surveyed settings base files found) {m : Model} (hm : m ∈ found.models) {i : Import}
    (hi : i ∈ m.imports) :
    ∃ (imports : ImportPaths) (target : Model), imports.style = settings.pathStyle
      ∧ found.models.reverse.find? (fun n => n.name = i.name) = some target
      ∧ i.path = ImportPaths.importText
        ((imports.outputFolder target.folder).relative (imports.outputFolder m.folder))
        (imports.style.fileStem target.name) := by
  obtain ⟨registry, -, hmodels⟩ := h.models
  have hread := forall₂_of_readModels hmodels
  obtain ⟨source, -, hsource⟩ := exists_of_forall₂ hread hm
  have hpath := Model.find?_of_mem_imports hsource hi
  rw [ImportPaths.find?, Option.map_eq_some_iff] at hpath
  obtain ⟨file, hfile, hpath⟩ := hpath
  have hsame : ∀ {context : ReadContext} (x : SourceFile) (n : Model),
      Model.read context x = .ok n → (x.name == i.name) = decide (n.name = i.name) := by
    intro context x n hxn
    rw [(Model.name_folder_of_read hxn).1, Bool.eq_iff_iff, beq_iff_eq, decide_eq_true_iff]
  obtain ⟨target, htarget, hreadTarget⟩ :=
    find?_of_forall₂ (List.forall₂_reverse_iff.mpr hread) hsame hfile
  obtain ⟨hname, hfolder⟩ := Model.name_folder_of_read hreadTarget
  refine ⟨{ registry, anchor := found.anchor, style := settings.pathStyle }, target, rfl, htarget,
    ?_⟩
  rw [hname, hfolder, ← hpath]

section Reached

variable {t t' : FileTree}
  (hwritten : c.written = c.models.map (settings.generator.outputPath c.output))
  (hreached : Reached settings base c.toSurvey c.output c.models t t')
  (hfoldered : ∀ {m}, m ∈ c.models → Foldered m.folder m.name)

include hwritten hreached hfoldered

/-- Where different models have different output paths, none is written over: the file of each is
its declaration. -/
theorem find?_outputPath_of_nodup
    (hdistinct : (c.models.map (settings.generator.outputPath c.output)).Nodup) {m : Model}
    (hm : m ∈ c.models) : t'.find? (settings.generator.outputPath c.output m).place
      = some (.file (encode (settings.declaration m))) := by
  obtain ⟨t₁, -, hemitted⟩ := hreached.written
  have hin : settings.generator.outputPath c.output m ∈ c.written := by
    rw [hwritten]
    exact List.mem_map_of_mem hm
  obtain ⟨n, hlast, hfile⟩ := written_of_emitted hwritten hemitted hin
  obtain ⟨hn, hplace⟩ := mem_of_lastAt? hlast
  have hpath := settings.generator.outputPath_inj (hfoldered hn) (hfoldered hm) hplace
  have hsame : n = m := List.inj_on_of_nodup_map hdistinct hn hm hpath
  rwa [hsame] at hfile

/-- Where the file of each model is its declaration, imports lead to declarations. -/
theorem exists_leadsTo
    (hfile : ∀ {m}, m ∈ c.models → t'.find? (settings.generator.outputPath c.output m).place
      = some (.file (encode (settings.declaration m)))) {m : Model} (hm : m ∈ c.models)
    {i : Import} (hi : i ∈ m.imports) : ∃ target, LeadsTo settings c t' m i target := by
  obtain ⟨imports, target, hstyle, hlast, hpath⟩ := hreached.surveyed.exists_target hm hi
  have htarget : target ∈ c.models := List.mem_reverse.mp (List.mem_of_find?_eq_some hlast)
  have hname : target.name = i.name := by simpa using List.find?_some hlast
  refine ⟨target, hlast, hname, ?_, ?_, hfile htarget, ?_⟩
  · rw [hwritten]
    exact List.mem_map_of_mem htarget
  · rw [hpath]
    exact imports.normalise_import hstyle.symm (hfoldered hm) (hfoldered htarget) c.output
  · obtain ⟨-, -, hdotted, -⟩ := ImportPaths.exists_importText
      ((imports.outputFolder target.folder).relative (imports.outputFolder m.folder)) rfl
      (imports.style.fileStem target.name)
    rw [hpath]
    exact hdotted

end Reached

/-- If the models of a run that succeeds have different output paths, each model is written to its
own, and each of its imports leads to the written file that declares the imported name. An import
is never that of a bare name, and it leaves the output only as far as the path of the output
does. -/
theorem run_imports_lead (hs : s.files.WellFormed)
    (h : Session.run (run settings base) s = (.ok c, s'))
    (hdistinct : (c.models.map (settings.generator.outputPath c.output)).Nodup) :
    c.written = c.models.map (settings.generator.outputPath c.output)
    ∧ (settings.convertDirectory.isGiven = true → c.output.IsPlain)
    ∧ ∀ m ∈ c.models,
      (∃ below, below ≠ [] ∧ (∀ n ∈ below, IsName n)
        ∧ settings.generator.outputPath c.output m
          = ⟨c.output.root, c.output.segments ++ below⟩)
      ∧ (c.output.IsPlain → (settings.generator.outputPath c.output m).normalise
        = settings.generator.outputPath c.output m)
      ∧ s'.files.find? (settings.generator.outputPath c.output m).place
        = some (.file (encode (settings.declaration m)))
      ∧ ∀ i ∈ m.imports, ∃ target, LeadsTo settings c s'.files m i target := by
  obtain ⟨t, hgrown, hwritten, hreached⟩ := run_ok hs.closed h
  have hfoldered : ∀ {m}, m ∈ c.models → Foldered m.folder m.name :=
    hreached.surveyed.foldered hs hgrown
  obtain ⟨t₁, hprepared, -⟩ := hreached.written
  have hfile : ∀ {m}, m ∈ c.models →
      s'.files.find? (settings.generator.outputPath c.output m).place
        = some (.file (encode (settings.declaration m))) :=
    find?_outputPath_of_nodup hwritten hreached hfoldered hdistinct
  refine ⟨hwritten, fun hgiven => ?_, fun m hm => ⟨?_, fun hplain => ?_, hfile hm, fun i hi => ?_⟩⟩
  · have houtput := hprepared.output.1
    rw [if_pos hgiven] at houtput
    exact isPlain_of_outputOf houtput
  · exact ⟨_, settings.generator.below_ne_nil m,
      fun _ => settings.generator.isName_of_mem_below (hfoldered hm),
      settings.generator.outputPath_eq (hfoldered hm) c.output⟩
  · exact normalise_of_isPlain (settings.generator.isPlain_outputPath (hfoldered hm) hplain)
  · exact exists_leadsTo hwritten hreached hfoldered hfile hm hi

/-- The run on `cleared` writes a file that imports another, and the import leads there. -/
theorem run_imports_lead_cleared : ∃ c s',
    Session.run (run clearedSettings (ofText "/b".toList)) { files := cleared } = (.ok c, s')
    ∧ ∃ m ∈ c.models, ∃ i ∈ m.imports, ∃ target,
      LeadsTo clearedSettings c s'.files m i target := by
  have hcheck : (Session.run (run clearedSettings (ofText "/b".toList))
      { files := cleared }).1.toOption.map (fun c =>
        decide ((c.models.map (clearedSettings.generator.outputPath c.output)).Nodup
          ∧ ∃ m ∈ c.models, ∃ i ∈ m.imports, i.name = "A".toList)) = some true := by
    decide +kernel
  rcases hrun : Session.run (run clearedSettings (ofText "/b".toList)) { files := cleared } with
    ⟨e | c, s'⟩
  · rw [hrun] at hcheck
    cases hcheck
  · rw [hrun] at hcheck
    obtain ⟨hdistinct, m, hm, i, hi, -⟩ := of_decide_eq_true (Option.some.inj hcheck)
    obtain ⟨-, -, hmodels⟩ := run_imports_lead wellFormed_cleared hrun hdistinct
    exact ⟨c, s', rfl, m, hm, i, hi, (hmodels m hm).2.2.2 i hi⟩

/-- A base directory that is reached by double dots, with a source that inherits from one above. -/
def climbing : FileTree :=
  { entries :=
      [(["b".toList], .directory),
       (["b".toList, "A.cs".toList], .file (encode "public class A\n".toList)),
       (["b".toList, "c".toList], .directory),
       (["b".toList, "c".toList, "D.cs".toList], .file (encode "public class D : A\n".toList))] }

/-- What an import is normalised to need not be one of the written paths: those of `climbing` keep
the double dots of the base directory. -/
theorem import_not_written : ∃ c s',
    Session.run (run {} (ofText "/b/c/..".toList)) { files := climbing } = (.ok c, s')
    ∧ (c.models.map (({} : Settings).generator.outputPath c.output)).Nodup
    ∧ ∃ m ∈ c.models, ∃ i ∈ m.imports,
      ((({} : Settings).generator.outputPath c.output m).parent.join
        (ofText (i.path ++ Generator.extension))).normalise ∉ c.written := by
  have hcheck : (Session.run (run {} (ofText "/b/c/..".toList))
      { files := climbing }).1.toOption.map (fun c =>
        decide ((c.models.map (({} : Settings).generator.outputPath c.output)).Nodup
          ∧ ∃ m ∈ c.models, ∃ i ∈ m.imports,
            ((({} : Settings).generator.outputPath c.output m).parent.join
              (ofText (i.path ++ Generator.extension))).normalise ∉ c.written)) = some true := by
    decide +kernel
  rcases hrun : Session.run (run {} (ofText "/b/c/..".toList)) { files := climbing } with
    ⟨e | c, s'⟩
  · rw [hrun] at hcheck
    cases hcheck
  · rw [hrun] at hcheck
    exact ⟨c, s', rfl, of_decide_eq_true (Option.some.inj hcheck)⟩

end Conversion

end Typings
