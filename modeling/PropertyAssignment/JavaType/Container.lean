import PropertyAssignment.JavaType.Basic

/-!
# Well-known containers

The container types of the standard collection library, with their kind and with the concrete type
to construct when a copy of such a container is needed. A concrete type is its own implementation.
A type given by its written name is classified by looking the name up exactly as written, while
the implementation of a type is looked up by the dotted form of its name.
-/

namespace PropertyAssignment

/-- A container type of the standard library, by the dotted forms of its name and of the name of
the concrete type that implements it. -/
structure WellKnownContainer where
  dotted : String
  kind : ContainerKind
  implementation : String
deriving DecidableEq, Repr

namespace WellKnownContainer

def collections : List WellKnownContainer := [
  ⟨"java.util.Collection", .sequence, "java.util.ArrayList"⟩,
  ⟨"java.util.List", .sequence, "java.util.ArrayList"⟩,
  ⟨"java.util.ArrayList", .sequence, "java.util.ArrayList"⟩,
  ⟨"java.util.LinkedList", .sequence, "java.util.LinkedList"⟩,
  ⟨"java.util.Set", .sequence, "java.util.HashSet"⟩,
  ⟨"java.util.HashSet", .sequence, "java.util.HashSet"⟩,
  ⟨"java.util.LinkedHashSet", .sequence, "java.util.LinkedHashSet"⟩,
  ⟨"java.util.SortedSet", .sequence, "java.util.TreeSet"⟩,
  ⟨"java.util.NavigableSet", .sequence, "java.util.TreeSet"⟩,
  ⟨"java.util.TreeSet", .sequence, "java.util.TreeSet"⟩,
  ⟨"java.util.Queue", .sequence, "java.util.ArrayDeque"⟩,
  ⟨"java.util.Deque", .sequence, "java.util.ArrayDeque"⟩]

def maps : List WellKnownContainer := [
  ⟨"java.util.Map", .map, "java.util.HashMap"⟩,
  ⟨"java.util.HashMap", .map, "java.util.HashMap"⟩,
  ⟨"java.util.LinkedHashMap", .map, "java.util.LinkedHashMap"⟩,
  ⟨"java.util.SortedMap", .map, "java.util.TreeMap"⟩,
  ⟨"java.util.NavigableMap", .map, "java.util.TreeMap"⟩,
  ⟨"java.util.TreeMap", .map, "java.util.TreeMap"⟩,
  ⟨"java.util.concurrent.ConcurrentMap", .map, "java.util.concurrent.ConcurrentHashMap"⟩]

def all : List WellKnownContainer :=
  collections ++ maps

/-- The well-known container of exactly this dotted name. -/
def find? (dotted : String) : Option WellKnownContainer :=
  all.find? fun known => known.dotted == dotted

end WellKnownContainer

namespace JavaType

/-- The type of a written name with type arguments. It is a container if the name, exactly as
written, is that of a well-known one. -/
def generic (written : String) (arguments : List JavaType) : JavaType where
  name := .parse written
  arguments := arguments
  container := (WellKnownContainer.find? written).map (·.kind)

def declared (written : String) : JavaType :=
  generic written []

/-- The concrete type to construct for a container of this type, if that is another type: the
implementation of a well-known container that is not its own one, with the same arguments. -/
def implementation? (type : JavaType) : Option JavaType := do
  let known ← WellKnownContainer.find? type.name.dotted
  if known.implementation = type.name.dotted then none
  else some ⟨.parse known.implementation, type.arguments, some known.kind⟩

/-- The concrete type to construct for a container of this type. -/
def implementation (type : JavaType) : JavaType :=
  type.implementation?.getD type

end JavaType

end PropertyAssignment
