import PropertyAssignment.JavaType.Imports

/-!
# The types in a type and the imports that they need

A type is a tree, and its nodes are the type itself and the nodes of its arguments. The imports that
mentioning a type needs are the names of the nodes that have to be imported, put in one after the
other in pre-order. An argument is never left out because of the type around it.
-/

namespace PropertyAssignment

namespace ImportSet

theorem insertMany_append (set : ImportSet) (names others : List QualifiedName) :
    set.insertMany (names ++ others) = (set.insertMany names).insertMany others :=
  List.foldl_append

end ImportSet

namespace JavaType

mutual

/-- The type and, behind it, all types in its arguments, in pre-order. -/
def nodes : JavaType → List JavaType
  | ⟨name, arguments, container⟩ => ⟨name, arguments, container⟩ :: nodesOfAll arguments

def nodesOfAll : List JavaType → List JavaType
  | [] => []
  | type :: rest => type.nodes ++ nodesOfAll rest

end

/-- The names in the types that have to be imported, in order. -/
def importableNames (types : List JavaType) : List QualifiedName :=
  (types.filter isImportable).map name

theorem nodes_eq_cons (type : JavaType) : type.nodes = type :: nodesOfAll type.arguments := by
  obtain ⟨name, arguments, container⟩ := type
  rfl

theorem importableNames_append (types others : List JavaType) :
    importableNames (types ++ others) = importableNames types ++ importableNames others := by
  simp [importableNames]

theorem addOwnImport_eq_insertMany (type : JavaType) (imports : ImportSet) :
    type.addOwnImport imports = imports.insertMany (importableNames [type]) := by
  unfold addOwnImport importableNames
  by_cases importable : type.isImportable
  · simp [importable, ImportSet.insertMany]
  · simp [importable, ImportSet.insertMany]

theorem addAllImports_eq_insertMany {types : List JavaType} (imports : ImportSet)
    (each : ∀ type ∈ types, ∀ imports : ImportSet,
      type.addImports imports = imports.insertMany (importableNames type.nodes)) :
    addAllImports types imports = imports.insertMany (importableNames (nodesOfAll types)) := by
  induction types generalizing imports with
  | nil => rfl
  | cons type rest ih =>
    rw [addAllImports, nodesOfAll, importableNames_append, ImportSet.insertMany_append,
      each type List.mem_cons_self, ih _ fun other member => each other (.tail type member)]

/-- A type adds the importable names of its nodes, in pre-order. -/
theorem addImports_eq_insertMany (type : JavaType) (imports : ImportSet) :
    type.addImports imports = imports.insertMany (importableNames type.nodes) := by
  induction type generalizing imports with
  | mk name arguments container ih =>
    rw [addImports, addAllImports_eq_insertMany _ ih, addOwnImport_eq_insertMany,
      ← ImportSet.insertMany_append, ← importableNames_append, nodes, List.singleton_append]

theorem mem_requiredImports {type : JavaType} {identity : Identity} :
    identity ∈ type.requiredImports.identities ↔
      ∃ node ∈ type.nodes, node.isImportable = true ∧ node.name.identity = identity := by
  rw [requiredImports, addImports_eq_insertMany, ImportSet.mem_identities_insertMany,
    importableNames]
  simp [ImportSet.identities, ImportSet.empty, and_assoc]

theorem mem_requiredImports_of_ne {type : JavaType} {identity : Identity}
    (notOwn : identity ≠ type.name.identity) :
    identity ∈ type.requiredImports.identities ↔
      ∃ node ∈ nodesOfAll type.arguments,
        node.isImportable = true ∧ node.name.identity = identity := by
  simp only [mem_requiredImports, nodes_eq_cons, List.mem_cons, exists_eq_or_imp]
  exact or_iff_right fun own => notOwn own.2.symm

end JavaType

end PropertyAssignment
