/-!
# Options

How a generation unit treats containers, null values and values that are already there.
-/

namespace PropertyAssignment

/-- Which access methods of a container property are preferred. -/
inductive CollectionStrategy where
  /-- Setters and getters only. -/
  | accessorOnly
  /-- The adder where neither a setter nor a getter will do. -/
  | setterPreferred
  /-- The adder wherever there is one. -/
  | adderPreferred
  /-- Existing containers are never changed. -/
  | targetImmutable
deriving DecidableEq, Repr

/-- When a presence check guards an assignment. -/
inductive NullCheckStrategy where
  /-- For converted values and for containers. -/
  | onImplicitConversion
  | always
deriving DecidableEq, Repr

structure Options where
  collection : CollectionStrategy := .accessorOnly
  nullCheck : NullCheckStrategy := .onImplicitConversion
  updateExisting : Bool := false
deriving DecidableEq, Repr

/-- The options for methods that update an existing target. -/
def Options.forUpdate : Options :=
  ⟨.accessorOnly, .onImplicitConversion, true⟩

end PropertyAssignment
