import PropertyAssignment.ImportSet
import PropertyAssignment.JavaType.Basic

/-!
# The imports that a type needs

Code that mentions a type mentions the type and all its arguments by simple name. Each of those
names has to be imported unless it is primitive or implicitly imported.
-/

namespace PropertyAssignment.JavaType

/-- Whether the type's own name has to be imported. -/
def isImportable (type : JavaType) : Bool :=
  !type.isPrimitive && !type.name.isImplicitlyImported

/-- The imports with the type's own name added, if it has to be imported. -/
def addOwnImport (type : JavaType) (imports : ImportSet) : ImportSet :=
  if type.isImportable then imports.insert type.name else imports

mutual

/-- The imports with those of the type added: first its own name, then its arguments in order. -/
def addImports : JavaType → ImportSet → ImportSet
  | ⟨name, arguments, container⟩, imports =>
    addAllImports arguments (addOwnImport ⟨name, arguments, container⟩ imports)

def addAllImports : List JavaType → ImportSet → ImportSet
  | [], imports => imports
  | type :: rest, imports => addAllImports rest (type.addImports imports)

end

/-- The imports that mentioning the type needs. -/
def requiredImports (type : JavaType) : ImportSet :=
  type.addImports .empty

theorem addAllImports_eq_foldl (types : List JavaType) (imports : ImportSet) :
    addAllImports types imports = types.foldl (fun set type => type.addImports set) imports := by
  induction types generalizing imports with
  | nil => rfl
  | cons type rest ih => simp [addAllImports, ih]

end PropertyAssignment.JavaType
