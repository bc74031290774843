import PropertyAssignment.Code.Expr
import PropertyAssignment.ImportSet

/-!
# Source values

What is known of a value before it is decided how to write it: the expression that yields it, how
it came about, and the imports its expression needs.
-/

namespace PropertyAssignment

/-- How a value came about. -/
inductive ValueKind where
  /-- The source's own value, unchanged. A container is shared with the source. -/
  | direct
  /-- A value that went through a built-in conversion. -/
  | converted
  /-- The result of a mapping method, which is always a fresh value. -/
  | mapped
deriving DecidableEq, Repr

def ValueKind.isDirect (kind : ValueKind) : Bool :=
  kind = .direct

/-- A value expression with its kind and the imports it needs. -/
structure SourceValue where
  expr : Expr
  kind : ValueKind := .direct
  imports : ImportSet := .empty

namespace SourceValue

def withImport (value : SourceValue) (name : QualifiedName) : SourceValue :=
  { value with imports := value.imports.insert name }

def withImports (value : SourceValue) (imports : ImportSet) : SourceValue :=
  { value with imports := value.imports.union imports }

end SourceValue

end PropertyAssignment
