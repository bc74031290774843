import PropertyAssignment.Options
import PropertyAssignment.Property
import PropertyAssignment.SourceValue

/-!
# Choosing how to write a property

A strategy says by which access methods a value gets into a property. The choice depends on the
property, the options and the kind of the value only. A property without container type needs a
setter. For a container the adder comes first if adders are preferred, then the setter, then the
getter, whose container is filled in place, and last the adder where the options allow it.
-/

namespace PropertyAssignment

inductive WriteStrategy where
  /-- Hand the elements to the adder one by one. -/
  | addEach (adder : String) (element : JavaType)
  /-- Fill the container that is there, or set one where there is none. -/
  | mergeOrReplace (setter getter : String)
  /-- Call the setter, with a copy of the value or with the value itself. -/
  | set (setter : String) (copy : Bool)
  /-- Fill the container that the getter returns. -/
  | mergeInto (getter : String)
deriving Repr

inductive SelectionError where
  /-- There is no method to write through. -/
  | noWriteAccess (property : String)
  /-- There is only a getter, and the type is no container. -/
  | containerRequired (property typeText : String)
  /-- An adder is there, but the element type is unknown. -/
  | elementTypeUnknown (property typeText : String)
deriving DecidableEq, Repr

namespace SelectionError

def property : SelectionError → String
  | .noWriteAccess property => property
  | .containerRequired property _ => property
  | .elementTypeUnknown property _ => property

def message : SelectionError → String
  | .noWriteAccess property =>
    "target property '" ++ property ++ "' has no setter, adder or accessor to write through"
  | .containerRequired property typeText =>
    "target property '" ++ property ++ "' of type '" ++ typeText ++
      "' has only an accessor, which requires a collection or map type"
  | .elementTypeUnknown property typeText =>
    "cannot use adder for target property '" ++ property ++ "': '" ++ typeText ++
      "' has no element type"

end SelectionError

/-- Whether an adder may be used where neither a setter nor a getter will do. -/
def CollectionStrategy.allowsAdder : CollectionStrategy → Bool
  | .setterPreferred | .adderPreferred => true
  | .accessorOnly | .targetImmutable => false

/-- Whether containers that are already there may be changed. -/
def CollectionStrategy.allowsMerge (strategy : CollectionStrategy) : Bool :=
  strategy ≠ .targetImmutable

namespace WriteStrategy

def forPlain (property : Property) : Except SelectionError WriteStrategy :=
  match property.setter?, property.getter? with
  | some setter, _ => .ok (.set setter false)
  | none, some _ => .error (.containerRequired property.name property.type.text)
  | none, none => .error (.noWriteAccess property.name)

/-- The strategy for a container property that has to be written through its adder. -/
def throughAdder (property : Property) (options : Options) :
    Except SelectionError WriteStrategy :=
  match property.adder? with
  | some adder =>
    if options.collection.allowsAdder then
      match property.type.elementType? with
      | some element => .ok (.addEach adder element)
      | none => .error (.elementTypeUnknown property.name property.type.text)
    else .error (.noWriteAccess property.name)
  | none => .error (.noWriteAccess property.name)

/-- The strategy for a container property by its setter and getter, or else its adder. -/
def throughAccessors (property : Property) (options : Options) (kind : ValueKind) :
    Except SelectionError WriteStrategy :=
  match property.setter?, property.getter? with
  | some setter, some getter =>
    if options.updateExisting && options.collection.allowsMerge then
      .ok (.mergeOrReplace setter getter)
    else .ok (.set setter kind.isDirect)
  | some setter, none => .ok (.set setter kind.isDirect)
  | none, some getter =>
    if options.collection.allowsMerge then .ok (.mergeInto getter)
    else throughAdder property options
  | none, none => throughAdder property options

def forContainer (property : Property) (options : Options) (kind : ValueKind) :
    Except SelectionError WriteStrategy :=
  match options.collection, property.adder?, property.type.elementType? with
  | .adderPreferred, some adder, some element => .ok (.addEach adder element)
  | _, _, _ => throughAccessors property options kind

/-- The strategy for writing a value of the kind to the property. -/
def select (property : Property) (options : Options) (kind : ValueKind) :
    Except SelectionError WriteStrategy :=
  if property.type.isContainer then forContainer property options kind else forPlain property

end WriteStrategy

end PropertyAssignment
