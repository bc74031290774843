import PropertyAssignment.Assignment.Basic
import PropertyAssignment.JavaType.Imports

/-!
# The imports of an assignment

The code of an assignment mentions types in three places besides the source value: in casts, as the
type of a loop's variable, and in a replacement. Every node adds what it mentions to what the
assignment inside it needs.
-/

namespace PropertyAssignment.Assignment

mutual

/-- The imports that the code of the assignment needs. -/
def importTypes : Assignment → ImportSet
  | .source value => value.imports
  | .cast type inner => inner.importTypes.union type.requiredImports
  | .guarded _ inner => inner.importTypes
  | .set _ inner => inner.importTypes
  | .mergeOrReplace _ _ replacement inner =>
    inner.importTypes.union (replacementImports replacement)
  | .mergeInto _ _ inner => inner.importTypes
  | .addEach _ element _ inner => inner.importTypes.union element.requiredImports

def replacementImports : Option Assignment → ImportSet
  | none => .empty
  | some replacement => replacement.importTypes

end

/-- The imports that the outermost node adds to those of the assignment inside it; none for a
source value, which has no assignment inside. -/
def ownImports? : Assignment → Option ImportSet
  | .source _ => none
  | .cast type _ => some type.requiredImports
  | .mergeOrReplace _ _ replacement _ => some (replacementImports replacement)
  | .addEach _ element _ _ => some element.requiredImports
  | .guarded .. | .set .. | .mergeInto .. => some .empty

end PropertyAssignment.Assignment
