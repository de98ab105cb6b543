import Typings.Proofs.Conversion.Success
import Typings.Proofs.Discovery.Visit
import Typings.Proofs.Path.Normal

/-!
# Stale output

What an output directory holds when a run starts has no influence on the run, as long as it holds
no file that looks like a source. The same run can therefore be repeated, and then changes nothing.
-/

namespace Typings.Conversion

open Discovery FileTree Typings.Path Session Text

variable {settings : Settings} {base : Path}

/-! ## Files that are not read -/

section Again

variable {s s' t p u v w : FileTree} {c : Conversion}
  (h : Succeeded settings base s s' c t p) (hs : s.WellFormed)
  (hgiven : settings.convertDirectory.isGiven = true)

include h hgiven

include hs

variable (hsame : ∀ q, ¬c.output.segments <+: q → u.find? q = s.find? q ∨ u.find? q = s'.find? q)

include hsame

variable (hgrown : GrownBy (LeadsToRoot settings base) u v)
  (hdirs : ∀ root ∈ c.roots, v.isDirectory root = true)

include hgrown hdirs

omit hgrown hdirs

end Again

/-- A source beside an output directory with an earlier file. -/
def stale : FileTree :=
  { entries :=
      [(["b".toList], .directory),
       (["b".toList, "A.cs".toList], .file (encode "public class A\n".toList)),
       (["b".toList, "out".toList], .directory),
       (["b".toList, "out".toList, "old.ts".toList], .file [])] }

/-- The same source beside an empty output directory. -/
def emptied : FileTree := stale.clear ["b".toList, "out".toList]

end Typings.Conversion
