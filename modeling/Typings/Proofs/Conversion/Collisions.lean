import Typings.Proofs.Conversion.Imports
import Typings.Proofs.FileStem

/-!
# Models that share an output file

Two models are written to one file exactly if their re-cased folders and file stems agree. Nothing
in a conversion looks for that, and the later model takes the place of the earlier. With names in
ASCII and without hyphens this comes about in one way only: in the default style, and with two names
in one folder of which one is the other in capitals.
-/

namespace Typings

open Discovery FileTree Typings.Path Text

/-- Whether a style gives two models one output file. -/
def PathStyle.Clash (style : PathStyle) (m n : Model) : Prop :=
  style.directory m.folder = style.directory n.folder
    ∧ style.fileStem m.name = style.fileStem n.name

instance (style : PathStyle) (m n : Model) : Decidable (style.Clash m n) :=
  inferInstanceAs (Decidable (style.directory m.folder = style.directory n.folder
    ∧ style.fileStem m.name = style.fileStem n.name))

/-- Below any output directory, the models with one output path are those that clash. -/
theorem Generator.outputPath_eq_iff (g : Generator) {m n : Model} (hm : Foldered m.folder m.name)
    (hn : Foldered n.folder n.name) (output : Path) :
    g.outputPath output m = g.outputPath output n ↔ g.style.Clash m n := by
  rw [g.outputPath_eq hm, g.outputPath_eq hn, Path.mk.injEq]
  constructor
  · rintro ⟨-, h⟩
    obtain ⟨hfolder, hfile⟩ := List.append_inj' (List.append_cancel_left h) rfl
    obtain ⟨⟨here, hhere, hm⟩, -⟩ := hm
    obtain ⟨⟨there, hthere, hn⟩, -⟩ := hn
    have hsame : here.map g.style.segment = there.map g.style.segment := by
      rwa [hm, hn, g.style.ofText_directory hhere, g.style.ofText_directory hthere] at hfolder
    refine ⟨?_, List.append_cancel_right (List.cons.inj hfile).1⟩
    rw [hm, hn, g.style.directory_joinWith hhere, g.style.directory_joinWith hthere, hsame]
  · rintro ⟨hfolder, hstem⟩
    rw [below, below, hfolder, hstem]
    exact ⟨rfl, rfl⟩

/-- Models with plain names, none of them with a hyphen, clash only in the default style, in one
folder, and with equal names but for capitals. -/
theorem PathStyle.clash_iff (style : PathStyle) {m n : Model} (hm : IsPlainName m.name)
    (hn : IsPlainName n.name) (hm' : '-' ∉ m.name) (hn' : '-' ∉ n.name) (hne : m.name ≠ n.name) :
    style.Clash m n ↔ style = .default ∧ m.folder = n.folder
      ∧ (InCapitals m.name n.name ∨ InCapitals n.name m.name) := by
  cases style with
  | default =>
    rw [Clash, fileStem, fileStem, camelCase_eq_iff hm hn, or_iff_right hne]
    simp only [directory, true_and]
  | kebab =>
    rw [Clash, fileStem, fileStem, kebabCase_inj hm hn hm' hn']
    simp only [hne, and_false, reduceCtorEq, false_and]

/-- Among models with different plain names, none of them with a hyphen, clashes are told by the
capitals of the names in one folder. -/
theorem PathStyle.pairwise_not_clash_iff (style : PathStyle) {models : List Model}
    (hplain : ∀ m ∈ models, IsPlainName m.name ∧ '-' ∉ m.name)
    (hnames : (models.map Model.name).Nodup) :
    models.Pairwise (fun m n => ¬style.Clash m n)
      ↔ (style = .default → models.Pairwise fun m n => m.folder = n.folder →
        ¬InCapitals m.name n.name ∧ ¬InCapitals n.name m.name) := by
  have hdistinct : models.Pairwise fun m n => m.name ≠ n.name := List.pairwise_map.mp hnames
  have hiff : ∀ {m n}, m ∈ models → n ∈ models → m.name ≠ n.name → (¬style.Clash m n
      ↔ (style = .default → m.folder = n.folder →
        ¬InCapitals m.name n.name ∧ ¬InCapitals n.name m.name)) := by
    intro m n hm hn hne
    rw [style.clash_iff (hplain m hm).1 (hplain n hn).1 (hplain m hm).2 (hplain n hn).2 hne]
    simp only [not_and, not_or]
  constructor
  · intro h hstyle
    refine (h.and hdistinct).imp_of_mem fun hm hn hmn => ?_
    exact (hiff hm hn hmn.2).mp hmn.1 hstyle
  · intro h
    by_cases hstyle : style = .default
    · refine ((h hstyle).and hdistinct).imp_of_mem fun hm hn hmn => ?_
      exact (hiff hm hn hmn.2).mpr fun _ => hmn.1
    · refine hdistinct.imp_of_mem fun hm hn hne => ?_
      exact (hiff hm hn hne).mpr fun hdefault => absurd hdefault hstyle

namespace Conversion

variable {settings : Settings} {base : Path} {s s' : Session} {c : Conversion}

/-- What comes of models that share no name. Their output paths are different exactly if no two
models clash, and then every declaration is in the file of its model. Where the names are in ASCII
and have no hyphen, the output paths are different in kebab case, and in the default style unless
one name is another of the same folder in capitals. -/
theorem run_nodup_written_iff (hs : s.files.WellFormed)
    (h : Session.run (run settings base) s = (.ok c, s'))
    (hnames : (c.models.map Model.name).Nodup) :
    c.written = c.models.map (settings.generator.outputPath c.output)
    ∧ (c.written.Nodup ↔ c.models.Pairwise fun m n => ¬settings.pathStyle.Clash m n)
    ∧ (c.written.Nodup → ∀ m ∈ c.models,
      s'.files.find? (settings.generator.outputPath c.output m).place
        = some (.file (encode (settings.declaration m))))
    ∧ ((∀ m ∈ c.models, (∀ ch ∈ m.name, ch.toNat < 0x80) ∧ '-' ∉ m.name) →
      (c.written.Nodup ↔ (settings.pathStyle = .default → c.models.Pairwise fun m n =>
        m.folder = n.folder → ¬InCapitals m.name n.name ∧ ¬InCapitals n.name m.name))) := by
  obtain ⟨t, hgrown, hwritten, hreached⟩ := run_ok hs.closed h
  have hfoldered : ∀ {m}, m ∈ c.models → Foldered m.folder m.name :=
    hreached.surveyed.foldered hs hgrown
  have hclash : c.written.Nodup ↔ c.models.Pairwise fun m n => ¬settings.pathStyle.Clash m n := by
    rw [hwritten, List.Nodup, List.pairwise_map]
    refine List.Pairwise.iff_of_mem fun hm hn => not_congr ?_
    exact settings.generator.outputPath_eq_iff (hfoldered hm) (hfoldered hn) c.output
  refine ⟨hwritten, hclash, fun hdistinct m hm => ?_, fun hascii => ?_⟩
  · rw [hwritten] at hdistinct
    exact find?_outputPath_of_nodup hwritten hreached hfoldered hdistinct hm
  · rw [hclash]
    refine settings.pathStyle.pairwise_not_clash_iff (fun m hm => ⟨?_, (hascii m hm).2⟩) hnames
    obtain ⟨spelled, root, names, lines, -, hname, -⟩ :=
      hreached.surveyed.exists_sourceOf hs hgrown hm
    have hplain := (hascii m hm).1
    rw [hname] at hplain ⊢
    exact isPlainName_pascalCase hplain

/-- The two models of the run on `cleared` do not clash, and both declarations are there. -/
theorem run_nodup_written_iff_cleared : ∃ c s',
    Session.run (run clearedSettings (ofText "/b".toList)) { files := cleared } = (.ok c, s')
    ∧ c.models.length = 2 ∧ c.written.Nodup
    ∧ ∀ m ∈ c.models, s'.files.find? (clearedSettings.generator.outputPath c.output m).place
      = some (.file (encode (clearedSettings.declaration m))) := by
  have hcheck : (Session.run (run clearedSettings (ofText "/b".toList))
      { files := cleared }).1.toOption.map (fun c =>
        decide (c.models.length = 2 ∧ (c.models.map Model.name).Nodup
          ∧ c.models.Pairwise fun m n => ¬clearedSettings.pathStyle.Clash m n)) = some true := by
    decide +kernel
  rcases hrun : Session.run (run clearedSettings (ofText "/b".toList)) { files := cleared } with
    ⟨e | c, s'⟩
  · rw [hrun] at hcheck
    cases hcheck
  · rw [hrun] at hcheck
    obtain ⟨hlength, hnames, hclash⟩ := of_decide_eq_true (Option.some.inj hcheck)
    obtain ⟨-, hiff, hdeclared, -⟩ := run_nodup_written_iff wellFormed_cleared hrun hnames
    have hdistinct := hiff.mpr hclash
    exact ⟨c, s', rfl, hlength, hdistinct, hdeclared hdistinct⟩

/-- Two sources in one folder, and the name of one is the name of the other in capitals. -/
def capitals : FileTree :=
  { entries :=
      [(["b".toList], .directory), (["b".toList, "src".toList], .directory),
       (["b".toList, "src".toList, "ID.cs".toList], .file (encode "public class ID\n".toList)),
       (["b".toList, "src".toList, "Id.cs".toList], .file (encode "public class Id\n".toList))] }

/-- Settings with a working directory beside the output directory. -/
def capitalsSettings : Settings :=
  { workingDirectories := .text "src".toList, convertDirectory := .text "out".toList }

theorem wellFormed_capitals : capitals.WellFormed :=
  ⟨by decide, by decide, by decide⟩

/-- Models that share no name are not safe from each other: of those of `capitals` the second is
written over the first. -/
theorem capitals_overwritten : capitals.WellFormed ∧ ∃ c s',
    Session.run (run capitalsSettings (ofText "/b".toList)) { files := capitals } = (.ok c, s')
    ∧ (c.models.map Model.name).Nodup ∧ ¬c.written.Nodup
    ∧ ∃ m ∈ c.models, s'.files.find? (capitalsSettings.generator.outputPath c.output m).place
      ≠ some (.file (encode (capitalsSettings.declaration m))) := by
  refine ⟨wellFormed_capitals, ?_⟩
  have hcheck : (fun r : Except Failure Conversion × Session => r.1.toOption.map fun c =>
      decide ((c.models.map Model.name).Nodup ∧ ¬c.written.Nodup
        ∧ ∃ m ∈ c.models, r.2.files.find? (capitalsSettings.generator.outputPath c.output m).place
          ≠ some (.file (encode (capitalsSettings.declaration m)))))
      (Session.run (run capitalsSettings (ofText "/b".toList)) { files := capitals })
      = some true := by
    decide +kernel
  rcases hrun : Session.run (run capitalsSettings (ofText "/b".toList)) { files := capitals } with
    ⟨e | c, s'⟩
  · rw [hrun] at hcheck
    cases hcheck
  · rw [hrun] at hcheck
    exact ⟨c, s', rfl, of_decide_eq_true (Option.some.inj hcheck)⟩

end Conversion

end Typings
