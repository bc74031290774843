import PropertyAssignment.JavaType.Imports
import PropertyAssignment.Proofs.ContainerClassification
import PropertyAssignment.Proofs.RequiredImports

/-!
# The implementation of a type

The implementation of a type is a type that can be constructed: it has no implementation other than
itself. It differs from the type in the root only, so it has the same arguments and needs the same
imports but for the two root names. Where the kind of a type is that of the table for its name, as
it is for every written type that is a container, the implementation is of this kind, too. Hence it
has the elements and the bulk insertion of the type.
-/

namespace PropertyAssignment

namespace WellKnownContainer

/-- An implementation that is an entry of the table is its own implementation there. -/
theorem implementation_of_find?_implementation {known other : WellKnownContainer}
    (inTable : known ∈ all) (found : find? known.implementation = some other) :
    other.implementation = known.implementation := by
  have checked : ∀ known ∈ all, ∀ other ∈ find? known.implementation,
      other.implementation = known.implementation := by
    decide +kernel
  exact checked known inTable other found

end WellKnownContainer

namespace JavaType

open WellKnownContainer

theorem implementation?_implementation (type : JavaType) :
    type.implementation.implementation? = none := by
  rcases implementation?_cases type with own | ⟨known, inTable, _, other⟩
  · rw [implementation, own, Option.getD_none, own]
  · rw [implementation, other, Option.getD_some, implementation?,
      dotted_parse_implementation inTable]
    cases found : find? known.implementation with
    | none => rfl
    | some implementing => simp [implementation_of_find?_implementation inTable found]

theorem implementation_implementation (type : JavaType) :
    type.implementation.implementation = type.implementation := by
  rw [implementation, implementation?_implementation, Option.getD_none]

theorem container_implementation {type : JavaType} (classified : type.IsClassifiedByName) :
    type.implementation.container = type.container := by
  cases found : find? type.name.dotted with
  | none => simp [implementation, implementation?, found]
  | some known =>
    have kind : type.container = some known.kind := by
      rw [classified, kindOf?, found, Option.map_some]
    by_cases concrete : known.implementation = type.name.dotted
    · simp [implementation, implementation?, found, concrete]
    · simp [implementation, implementation?, found, concrete, kind]

theorem isClassifiedByName_of_container {written : String} {arguments : List JavaType}
    (isContainer : (generic written arguments).container ≠ none) :
    (generic written arguments).IsClassifiedByName := by
  obtain ⟨kind, isKind⟩ := Option.ne_none_iff_exists'.mp isContainer
  exact (isClassifiedByName_generic_iff written arguments).mpr
    (.inl (dotted_parse_of_kindOf? isKind))

theorem elementType?_congr {first second : JavaType}
    (container : first.container = second.container)
    (arguments : first.arguments = second.arguments) :
    first.elementType? = second.elementType? := by
  rw [elementType?, elementType?, container, arguments]

/-- The implementation of a type has the same arguments, and no new type is made for the
implementation of an implementation. For every written type that is a container, with or without
arguments, the implementation is of the same kind and has the same element type and the same bulk
insertion. The imports that the implementation needs are those of the type, but for the names of the
two themselves. -/
theorem implementation_isProjection :
    (∀ type : JavaType, type.implementation.arguments = type.arguments ∧
      type.implementation.implementation? = none ∧
      type.implementation.implementation = type.implementation) ∧
    (∀ (written : String) (arguments : List JavaType),
      (generic written arguments).container ≠ none →
      (generic written arguments).implementation.container =
        (generic written arguments).container ∧
      (generic written arguments).implementation.elementType? =
        (generic written arguments).elementType? ∧
      (generic written arguments).implementation.bulkInsert? =
        (generic written arguments).bulkInsert?) ∧
    ∀ (type : JavaType) (identity : Identity),
      identity ≠ type.name.identity → identity ≠ type.implementation.name.identity →
      (identity ∈ type.implementation.requiredImports.identities ↔
        identity ∈ type.requiredImports.identities) := by
  refine ⟨?projection, ?kind, ?imports⟩
  case projection =>
    intro type
    exact ⟨arguments_implementation type, implementation?_implementation type,
      implementation_implementation type⟩
  case kind =>
    intro written arguments isContainer
    have container := container_implementation (isClassifiedByName_of_container isContainer)
    refine ⟨container, elementType?_congr container (arguments_implementation _), ?_⟩
    rw [bulkInsert?, bulkInsert?, container]
  case imports =>
    intro type identity notOwn notOfImplementation
    rw [mem_requiredImports_of_ne notOfImplementation, mem_requiredImports_of_ne notOwn,
      arguments_implementation]

/-- A sorted map from numbers to lists of items: as a tree map it is still a map and needs the same
imports for its arguments, at any depth. -/
theorem implementation_isProjection_sortedMap :
    let items := generic "java.util.List" [declared "com.acme.Item"]
    let sortedMap := generic "java.util.SortedMap" [declared "java.math.BigDecimal", items]
    let item := (QualifiedName.parse "com.acme.Item").identity
    sortedMap.container ≠ none ∧ sortedMap.implementation.container = sortedMap.container ∧
      sortedMap.implementation.bulkInsert? = sortedMap.bulkInsert? ∧
      item ≠ sortedMap.name.identity ∧ item ≠ sortedMap.implementation.name.identity ∧
      (item ∈ sortedMap.implementation.requiredImports.identities ↔
        item ∈ sortedMap.requiredImports.identities) := by
  intro items sortedMap item
  obtain ⟨_, kind, imports⟩ := implementation_isProjection
  have isContainer : sortedMap.container ≠ none := by decide +kernel
  obtain ⟨container, _, bulkInsert⟩ := kind _ _ isContainer
  have notOwn : item ≠ sortedMap.name.identity := by decide +kernel
  have notOfImplementation : item ≠ sortedMap.implementation.name.identity := by decide +kernel
  exact ⟨isContainer, container, bulkInsert, notOwn, notOfImplementation,
    imports sortedMap item notOwn notOfImplementation⟩

end JavaType

end PropertyAssignment
