import Mathlib.Data.List.Nodup
import Typings.Proofs.Declaration
import Typings.Proofs.FileStem
import Typings.Proofs.Model.StatedValue

/-!
# Names of members

Members and properties are written with their names in camel case. Names that differ in more than
case stay apart. Names that differ in nothing but case may meet, and in ASCII there are two ways to:
one is the other in capitals, or one is the other with its first letter raised.
-/

namespace Typings

open Text

/-! ## Names up to case -/

section Ascii

variable {s t : Text} (hs : ∀ c ∈ s, c.toNat < 0x80) (ht : ∀ c ∈ t, c.toNat < 0x80)

include ht

include hs

end Ascii

/-! ## Printed names -/

namespace Declaration

end Declaration

/-- An enumeration with two members. -/
def pair (first second : Text) : SourceFile where
  name := "Key".toList
  folder := []
  path := Path.ofText "/src/Key.cs".toList
  root := Path.ofText "/src".toList
  lines := ["public enum Key".toList, "\x7b".toList, "    ".toList ++ first ++ [','],
    "    ".toList ++ second ++ [','], "\x7d".toList]

end Typings
