import Typings.Declaration
import Typings.Proofs.Naming

/-!
# Where declarations go

The declaration of a model goes strictly below the output directory: to a folder whose segments are
the re-cased segments of the source folder, under a name that ends with the extension.
-/

namespace Typings.Generator

open Typings.Path Text

variable (g : Generator) {m : Model}

/-- The segments of a declaration file from the output directory on. -/
def below (m : Model) : List Text :=
  (ofText (g.style.directory m.folder)).segments ++ [g.style.fileStem m.name ++ extension]

theorem below_ne_nil (m : Model) : g.below m ≠ [] := by simp [below]

/-- A text without slashes names a file once the extension is put behind it. -/
theorem isName_append_extension {t : Text} (h : '/' ∉ t) : IsName (t ++ extension) := by
  have hlength : (t ++ extension).length = t.length + 3 := by rw [List.length_append]; rfl
  refine ⟨fun hnil => ?_, fun hdot => ?_, fun hdots => ?_, ?_⟩
  · simp [hnil] at hlength
  · simp [hdot, dot] at hlength
  · simp [hdots, dotDot] at hlength
  · rw [List.mem_append, not_or]
    exact ⟨h, by decide⟩

/-- The path of a declaration file depends on the name and the folder of its model alone. -/
theorem outputPath_congr {n : Model} (hname : n.name = m.name) (hfolder : n.folder = m.folder)
    (output : Path) : g.outputPath output n = g.outputPath output m := by
  rw [outputPath, outputPath, hname, hfolder]

variable (h : Foldered m.folder m.name)

include h

/-- Every segment from the output directory on is a name. -/
theorem isName_of_mem_below {s : Text} (hs : s ∈ g.below m) : IsName s := by
  obtain ⟨⟨names, hnames, hfolder⟩, hname⟩ := h
  rw [below, hfolder, g.style.ofText_directory hnames] at hs
  rcases List.mem_append.mp hs with hs | hs
  · exact g.style.isName_of_mem_map_segment hnames s hs
  · rw [List.mem_singleton.mp hs]
    exact isName_append_extension (g.style.slash_notMem_fileStem hname)

/-- The path of a declaration file is the output directory with these segments below it. -/
theorem outputPath_eq (output : Path) :
    g.outputPath output m = ⟨output.root, output.segments ++ g.below m⟩ := by
  have hfile := isName_append_extension (g.style.slash_notMem_fileStem h.name)
  rw [outputPath, ofText_name hfile, join, if_pos rfl, below, List.append_assoc]

theorem place_outputPath (output : Path) :
    (g.outputPath output m).place = output.place ++ g.below m := by
  rw [g.outputPath_eq h]
  exact place_below _ _ (dotDot_notMem_of_names fun _ => g.isName_of_mem_below h)

/-- An output without double dots gives paths without double dots. -/
theorem isPlain_outputPath {output : Path} (houtput : output.IsPlain) :
    (g.outputPath output m).IsPlain := by
  rw [g.outputPath_eq h]
  exact houtput.below (dotDot_notMem_of_names fun _ => g.isName_of_mem_below h)

/-- Different paths lead to different places. -/
theorem outputPath_inj {output : Path} {n : Model} (hn : Foldered n.folder n.name)
    (hplace : (g.outputPath output m).place = (g.outputPath output n).place) :
    g.outputPath output m = g.outputPath output n := by
  rw [g.place_outputPath h, g.place_outputPath hn] at hplace
  rw [g.outputPath_eq h, g.outputPath_eq hn, List.append_cancel_left hplace]

end Typings.Generator
