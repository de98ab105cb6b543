import Typings.Proofs.FileStem
import Typings.Proofs.Output

/-!
# The two path styles

Kebab case does not see whether the first letter of a name was lowered before, so the file stem in
kebab case can be made of the one in camel case. A declaration file lies at the same depth in both
styles, and segment by segment the one path is the other in kebab case.
-/

namespace Typings

open Typings.Path Text

/-! ## File stems -/

/-- A name with a small letter has the same kebab case as its camel case has. -/
theorem kebabCase_camelCase {t : Text} (h : t.any isLowerLetter = true) :
    kebabCase (camelCase t) = kebabCase t := by
  cases t with
  | nil => rfl
  | cons c t =>
    rw [camelCase]
    by_cases hc : isLower c = true
    · rw [if_pos hc]
    · rw [if_neg hc, if_pos h]
      obtain ⟨w, humps, hwords, hw, -⟩ := nameWords_cons t
      obtain ⟨d, r, hlower, hr⟩ := exists_lowerChar_eq_cons c
      -- the lowered character goes to the first word whatever it is
      have hlowered : nameWords (lowerChar c ++ t) = (lowerChar c ++ w) :: humps := by
        rw [hlower]
        exact nameWords_append d hr hwords
      have hsigma : ∀ e ∈ w, e.toNat ≠ 0x3A3 := by
        intro e he hsigma
        have hupper := hw e he
        rw [eq_of_toNat_sigma hsigma] at hupper
        exact absurd hupper (by decide)
      rw [kebabCase, kebabCase, hlowered, hwords, List.map_cons, List.map_cons,
        lower_lowerChar_append hsigma]

/-! ## Output paths -/

/-- The path of a declaration file in kebab case is the default one, with each segment below the
output directory and the file stem in kebab case. -/
theorem Generator.exists_outputPaths (g : Generator) {m : Model} (h : Foldered m.folder m.name)
    (hname : m.name.any isLowerLetter = true) (output : Path) : ∃ folders stem,
    ({ g with style := .default } : Generator).outputPath output m
        = ⟨output.root, output.segments ++ folders ++ [stem ++ extension]⟩
      ∧ ({ g with style := .kebab } : Generator).outputPath output m = ⟨output.root,
        output.segments ++ folders.map kebabCase ++ [kebabCase stem ++ extension]⟩ := by
  obtain ⟨names, hnames, hfolder⟩ := h.folder
  have hpath : ∀ style : PathStyle, ({ g with style } : Generator).outputPath output m
      = ⟨output.root, output.segments ++ names.map style.segment
        ++ [style.fileStem m.name ++ extension]⟩ := by
    intro style
    rw [outputPath_eq _ h, below, hfolder, style.ofText_directory hnames, List.append_assoc]
  refine ⟨names, camelCase m.name, ?_, ?_⟩
  · rw [hpath .default]
    congr 3
    exact List.map_id names
  · rw [hpath .kebab, kebabCase_camelCase hname]
    rfl

end Typings
