import Typings.Proofs.Discovery.VisitOrder
import Typings.Proofs.Text.Raw

/-!
# Everything is found once

If all files that have the source extension can be decoded, a scan of a directory finds each of them
once and nothing else, tells from where below the root it comes, and keeps the order of the visit.
-/

namespace Typings.Discovery

open FileTree Typings.Path Text

variable {files : FileTree} {root : Path} {extension : Text}

/-! ## One file -/

end Typings.Discovery
