import PropertyAssignment.Name

/-!
# Types of the generated code

A type is a qualified name with type arguments and, if it is a container, the kind of container.
Types are compared by identity, which the name and the arguments determine; the container kind
takes no part in it. In code a type is written with its simple name and its type arguments.
-/

namespace PropertyAssignment

/-- The two kinds of containers: collections of elements, and maps from keys to values. -/
inductive ContainerKind where
  | sequence
  | map
deriving DecidableEq, Repr

/-- The method that adds all elements or entries of another container of the kind. -/
def ContainerKind.bulkInsert : ContainerKind → String
  | .sequence => "addAll"
  | .map => "putAll"

/-- A type with its type arguments. -/
structure JavaType where
  name : QualifiedName
  arguments : List JavaType
  container : Option ContainerKind
deriving Repr, Inhabited

namespace JavaType

def primitiveNames : List String :=
  ["boolean", "byte", "short", "int", "long", "char", "float", "double"]

/-- Whether the type is a primitive one: a primitive name outside every package. -/
def isPrimitive (type : JavaType) : Bool :=
  type.name.isUnqualified && primitiveNames.contains type.name.simple

def isContainer (type : JavaType) : Bool :=
  type.container.isSome

def bulkInsert? (type : JavaType) : Option String :=
  type.container.map ContainerKind.bulkInsert

/-- The element type of a collection: its first type argument, if it has one. -/
def elementType? (type : JavaType) : Option JavaType :=
  match type.container with
  | some .sequence => type.arguments.head?
  | _ => none

mutual

/-- The identity of the type, made from its name and the identities of its arguments. -/
def identity : JavaType → Identity
  | ⟨name, arguments, _⟩ => Identity.ofInstance name.identity (identities arguments)

def identities : List JavaType → List Identity
  | [] => []
  | type :: rest => type.identity :: identities rest

end

mutual

/-- The type as code writes it, for instance with two arguments between angle brackets. -/
def text : JavaType → String
  | ⟨name, [], _⟩ => name.simple
  | ⟨name, first :: rest, _⟩ =>
    name.simple ++ "<" ++ ", ".intercalate (first.text :: texts rest) ++ ">"

def texts : List JavaType → List String
  | [] => []
  | type :: rest => type.text :: texts rest

end

/-- Whether two types are the same type, that is, have the same identity. -/
def same (a b : JavaType) : Bool :=
  a.identity == b.identity

theorem identities_eq_map (types : List JavaType) : identities types = types.map identity := by
  induction types with
  | nil => rfl
  | cons type rest ih => simp [identities, ih]

theorem texts_eq_map (types : List JavaType) : texts types = types.map text := by
  induction types with
  | nil => rfl
  | cons type rest ih => simp [texts, ih]

mutual

/-- Induction over a type and, at once, over all its arguments. -/
@[induction_eliminator]
theorem induction {motive : JavaType → Prop}
    (mk : ∀ name arguments container, (∀ argument ∈ arguments, motive argument) →
      motive ⟨name, arguments, container⟩) : ∀ type, motive type
  | ⟨name, arguments, container⟩ => mk name arguments container (induction_all mk arguments)

theorem induction_all {motive : JavaType → Prop}
    (mk : ∀ name arguments container, (∀ argument ∈ arguments, motive argument) →
      motive ⟨name, arguments, container⟩) : ∀ types : List JavaType, ∀ type ∈ types, motive type
  | [], _, member => absurd member List.not_mem_nil
  | first :: rest, type, member =>
    (List.mem_cons.mp member).elim (fun same => same ▸ induction mk first)
      (induction_all mk rest type)

end

end JavaType

end PropertyAssignment
