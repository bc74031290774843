import PropertyAssignment.WriteStrategy

/-!
# The routes of a selection

A selection tries the ways to write a property in a fixed order. `Route` lists what it can come to,
each time with all that was found out about the property on the way there; an access method is
there if it has a name and the name is not empty. From the list it can be read when a property can
be written at all, which of the errors says that it cannot, and when each strategy is chosen.
-/

namespace PropertyAssignment

def IsMethod (method : Option String) (name : String) : Prop :=
  method = some name ∧ name ≠ ""

def IsGiven (method : Option String) : Prop :=
  ∃ name, IsMethod method name

theorem filter_eq_some_iff_isMethod {method : Option String} {name : String} :
    (method.filter fun name => !name.isEmpty) = some name ↔ IsMethod method name := by
  simp [IsMethod, Option.filter_eq_some_iff]

theorem filter_eq_none_iff_not_isGiven {method : Option String} :
    (method.filter fun name => !name.isEmpty) = none ↔ ¬ IsGiven method := by
  simp [IsGiven, ← filter_eq_some_iff_isMethod, Option.eq_none_iff_forall_ne_some]

theorem JavaType.isContainer_of_elementType? {type : JavaType} (known : type.elementType?.isSome) :
    type.isContainer = true := by
  unfold JavaType.elementType? at known
  split at known
  next isSequence => exact congrArg Option.isSome isSequence
  next => cases known

namespace CollectionStrategy

variable {strategy : CollectionStrategy}

theorem allowsMerge_iff : strategy.allowsMerge = true ↔ strategy ≠ .targetImmutable := by
  simp [allowsMerge]

theorem allowsMerge_eq_false_iff :
    strategy.allowsMerge = false ↔ strategy = .targetImmutable := by
  simp [allowsMerge]

theorem allowsAdder_iff :
    strategy.allowsAdder = true ↔ strategy = .setterPreferred ∨ strategy = .adderPreferred := by
  cases strategy <;> simp [allowsAdder]

end CollectionStrategy

/-- The elements have a type, and they go to an adder before anything else is tried. -/
def Property.PrefersAdder (property : Property) (options : Options) : Prop :=
  options.collection = .adderPreferred ∧ IsGiven property.adder ∧
    property.type.elementType?.isSome

namespace WriteStrategy

/-- What a selection comes to, with what was found out on the way. -/
inductive Route (property : Property) (options : Options) (kind : ValueKind) :
    Except SelectionError WriteStrategy → Prop
  | plain (setter : String) (isPlain : property.type.isContainer = false)
    (hasSetter : IsMethod property.setter setter) :
    Route property options kind (.ok (.set setter false))
  /-- A getter by itself is of no use where there is no container to fill. -/
  | plainGetter (isPlain : property.type.isContainer = false)
    (noSetter : ¬ IsGiven property.setter) (hasGetter : IsGiven property.getter) :
    Route property options kind (.error (.containerRequired property.name property.type.text))
  | plainWithout (isPlain : property.type.isContainer = false)
    (noSetter : ¬ IsGiven property.setter) (noGetter : ¬ IsGiven property.getter) :
    Route property options kind (.error (.noWriteAccess property.name))
  | preferredAdder (adder : String) (element : JavaType)
    (preferred : options.collection = .adderPreferred) (hasAdder : IsMethod property.adder adder)
    (hasElement : property.type.elementType? = some element) :
    Route property options kind (.ok (.addEach adder element))
  | update (setter getter : String) (isContainer : property.type.isContainer = true)
    (notPreferred : ¬ property.PrefersAdder options) (hasSetter : IsMethod property.setter setter)
    (hasGetter : IsMethod property.getter getter) (updates : options.updateExisting = true)
    (mayChange : options.collection ≠ .targetImmutable) :
    Route property options kind (.ok (.mergeOrReplace setter getter))
  | replace (setter : String) (isContainer : property.type.isContainer = true)
    (notPreferred : ¬ property.PrefersAdder options) (hasSetter : IsMethod property.setter setter)
    (noUpdate : ¬ IsGiven property.getter ∨ options.updateExisting = false ∨
      options.collection = .targetImmutable) :
    Route property options kind (.ok (.set setter kind.isDirect))
  | fill (getter : String) (isContainer : property.type.isContainer = true)
    (notPreferred : ¬ property.PrefersAdder options) (noSetter : ¬ IsGiven property.setter)
    (hasGetter : IsMethod property.getter getter)
    (mayChange : options.collection ≠ .targetImmutable) :
    Route property options kind (.ok (.mergeInto getter))
  /-- The last resort, where neither a setter nor a getter will do. -/
  | lastAdder (adder : String) (element : JavaType)
    (notPreferred : ¬ property.PrefersAdder options) (noSetter : ¬ IsGiven property.setter)
    (noFill : ¬ IsGiven property.getter ∨ options.collection = .targetImmutable)
    (allowed : options.collection = .setterPreferred ∨ options.collection = .adderPreferred)
    (hasAdder : IsMethod property.adder adder)
    (hasElement : property.type.elementType? = some element) :
    Route property options kind (.ok (.addEach adder element))
  /-- The last resort fails as the elements have no type. -/
  | untypedAdder (isContainer : property.type.isContainer = true)
    (noSetter : ¬ IsGiven property.setter)
    (noFill : ¬ IsGiven property.getter ∨ options.collection = .targetImmutable)
    (allowed : options.collection = .setterPreferred ∨ options.collection = .adderPreferred)
    (hasAdder : IsGiven property.adder) (noElement : property.type.elementType? = none) :
    Route property options kind (.error (.elementTypeUnknown property.name property.type.text))
  | without (isContainer : property.type.isContainer = true) (noSetter : ¬ IsGiven property.setter)
    (noFill : ¬ IsGiven property.getter ∨ options.collection = .targetImmutable)
    (noAdder : ¬ IsGiven property.adder ∨
      ¬ (options.collection = .setterPreferred ∨ options.collection = .adderPreferred)) :
    Route property options kind (.error (.noWriteAccess property.name))

section Selection
variable {property : Property} {options : Options} {kind : ValueKind}

theorem route_forPlain (isPlain : property.type.isContainer = false) :
    Route property options kind (forPlain property) := by
  unfold forPlain
  split
  next setter hasSetter => exact .plain setter isPlain (filter_eq_some_iff_isMethod.mp hasSetter)
  next getter noSetter hasGetter =>
    exact .plainGetter isPlain (filter_eq_none_iff_not_isGiven.mp noSetter)
      ⟨getter, filter_eq_some_iff_isMethod.mp hasGetter⟩
  next noSetter noGetter =>
    exact .plainWithout isPlain (filter_eq_none_iff_not_isGiven.mp noSetter)
      (filter_eq_none_iff_not_isGiven.mp noGetter)

theorem route_throughAdder (isContainer : property.type.isContainer = true)
    (notPreferred : ¬ property.PrefersAdder options) (noSetter : ¬ IsGiven property.setter)
    (noFill : ¬ IsGiven property.getter ∨ options.collection = .targetImmutable) :
    Route property options kind (throughAdder property options) := by
  unfold throughAdder
  split
  next adder hasAdder =>
    have hasAdder := filter_eq_some_iff_isMethod.mp hasAdder
    split
    next allowed =>
      have allowed := CollectionStrategy.allowsAdder_iff.mp allowed
      split
      next element hasElement =>
        exact .lastAdder adder element notPreferred noSetter noFill allowed hasAdder hasElement
      next noElement =>
        exact .untypedAdder isContainer noSetter noFill allowed ⟨adder, hasAdder⟩ noElement
    next forbidden =>
      rw [CollectionStrategy.allowsAdder_iff] at forbidden
      exact .without isContainer noSetter noFill (.inr forbidden)
  next noAdder =>
    exact .without isContainer noSetter noFill (.inl (filter_eq_none_iff_not_isGiven.mp noAdder))

theorem route_throughAccessors (isContainer : property.type.isContainer = true)
    (notPreferred : ¬ property.PrefersAdder options) :
    Route property options kind (throughAccessors property options kind) := by
  unfold throughAccessors
  split
  next setter getter hasSetter hasGetter =>
    have hasSetter := filter_eq_some_iff_isMethod.mp hasSetter
    split
    next update =>
      rw [Bool.and_eq_true, CollectionStrategy.allowsMerge_iff] at update
      exact .update setter getter isContainer notPreferred hasSetter
        (filter_eq_some_iff_isMethod.mp hasGetter) update.1 update.2
    next noUpdate =>
      rw [Bool.not_eq_true, Bool.and_eq_false_iff,
        CollectionStrategy.allowsMerge_eq_false_iff] at noUpdate
      exact .replace setter isContainer notPreferred hasSetter (.inr noUpdate)
  next setter hasSetter noGetter =>
    exact .replace setter isContainer notPreferred (filter_eq_some_iff_isMethod.mp hasSetter)
      (.inl (filter_eq_none_iff_not_isGiven.mp noGetter))
  next getter noSetter hasGetter =>
    have noSetter := filter_eq_none_iff_not_isGiven.mp noSetter
    split
    next mayChange =>
      exact .fill getter isContainer notPreferred noSetter
        (filter_eq_some_iff_isMethod.mp hasGetter) (CollectionStrategy.allowsMerge_iff.mp mayChange)
    next immutable =>
      rw [Bool.not_eq_true, CollectionStrategy.allowsMerge_eq_false_iff] at immutable
      exact route_throughAdder isContainer notPreferred noSetter (.inr immutable)
  next noSetter noGetter =>
    exact route_throughAdder isContainer notPreferred (filter_eq_none_iff_not_isGiven.mp noSetter)
      (.inl (filter_eq_none_iff_not_isGiven.mp noGetter))

theorem route_forContainer (isContainer : property.type.isContainer = true) :
    Route property options kind (forContainer property options kind) := by
  unfold forContainer
  split
  next adder element preferred hasAdder hasElement =>
    exact .preferredAdder adder element preferred (filter_eq_some_iff_isMethod.mp hasAdder)
      hasElement
  next noAdder =>
    refine route_throughAccessors isContainer ?_
    rintro ⟨preferred, ⟨adder, hasAdder⟩, hasElement⟩
    obtain ⟨element, hasElement⟩ := Option.isSome_iff_exists.mp hasElement
    exact noAdder adder element preferred (filter_eq_some_iff_isMethod.mpr hasAdder) hasElement

theorem route_select (property : Property) (options : Options) (kind : ValueKind) :
    Route property options kind (select property options kind) := by
  unfold select
  split
  next isContainer => exact route_forContainer isContainer
  next isPlain => exact route_forPlain (Bool.eq_false_iff.mpr isPlain)

end Selection

/-- The strategy calls methods that the property has, each by its own name, and hands elements of
the property's element type to an adder. -/
def CallsMethodsOf (property : Property) : WriteStrategy → Prop
  | .addEach adder element =>
    IsMethod property.adder adder ∧ property.type.elementType? = some element
  | .mergeOrReplace setter getter =>
    IsMethod property.setter setter ∧ IsMethod property.getter getter
  | .set setter _ => IsMethod property.setter setter
  | .mergeInto getter => IsMethod property.getter getter

section Routes
variable {property : Property} {options : Options} {kind : ValueKind}
  {outcome : Except SelectionError WriteStrategy} (route : Route property options kind outcome)
include route

theorem Route.exists_ok_iff :
    (∃ strategy, outcome = .ok strategy) ↔
      IsGiven property.setter ∨
        property.type.isContainer = true ∧
          (IsGiven property.getter ∧ options.collection ≠ .targetImmutable ∨
            IsGiven property.adder ∧ property.type.elementType?.isSome ∧
              (options.collection = .setterPreferred ∨ options.collection = .adderPreferred)) := by
  cases route <;> grind [IsGiven, JavaType.isContainer_of_elementType?]

theorem Route.eq_elementTypeUnknown_iff :
    outcome = .error (.elementTypeUnknown property.name property.type.text) ↔
      property.type.isContainer = true ∧ IsGiven property.adder ∧
        property.type.elementType? = none ∧
        (options.collection = .setterPreferred ∨ options.collection = .adderPreferred) ∧
        ¬ IsGiven property.setter ∧ ¬ IsGiven property.getter := by
  cases route <;> grind [IsGiven]

theorem Route.eq_containerRequired_iff :
    outcome = .error (.containerRequired property.name property.type.text) ↔
      property.type.isContainer = false ∧ IsGiven property.getter ∧ ¬ IsGiven property.setter := by
  cases route <;> grind [IsGiven, JavaType.isContainer_of_elementType?]

/-- An error shows the property's own name, and its own type. -/
theorem Route.error_cases {error : SelectionError} (fails : outcome = .error error) :
    error = .elementTypeUnknown property.name property.type.text ∨
      error = .containerRequired property.name property.type.text ∨
      error = .noWriteAccess property.name := by
  cases route <;> cases fails <;> simp

theorem Route.error_property {error : SelectionError} (fails : outcome = .error error) :
    error.property = property.name := by
  rcases route.error_cases fails with rfl | rfl | rfl <;> rfl

theorem Route.exists_addEach_iff :
    (∃ adder element, outcome = .ok (.addEach adder element)) ↔
      IsGiven property.adder ∧ property.type.elementType?.isSome ∧
        (options.collection = .adderPreferred ∨ options.collection = .setterPreferred ∧
          ¬ IsGiven property.setter ∧ ¬ IsGiven property.getter) := by
  cases route <;>
    grind [IsGiven, Property.PrefersAdder, JavaType.isContainer_of_elementType?]

theorem Route.exists_mergeOrReplace_iff :
    (∃ setter getter, outcome = .ok (.mergeOrReplace setter getter)) ↔
      property.type.isContainer = true ∧ ¬ property.PrefersAdder options ∧
        IsGiven property.setter ∧ IsGiven property.getter ∧ options.updateExisting = true ∧
        options.collection ≠ .targetImmutable := by
  cases route <;> grind [IsGiven, Property.PrefersAdder]

theorem Route.exists_mergeInto_iff :
    (∃ getter, outcome = .ok (.mergeInto getter)) ↔
      property.type.isContainer = true ∧ ¬ property.PrefersAdder options ∧
        ¬ IsGiven property.setter ∧ IsGiven property.getter ∧
        options.collection ≠ .targetImmutable := by
  cases route <;> grind [IsGiven, Property.PrefersAdder]

theorem Route.eq_set_of_immutable (immutable : options.collection = .targetImmutable)
    {strategy : WriteStrategy} (chosen : outcome = .ok strategy) :
    ∃ setter copy, strategy = .set setter copy := by
  cases route <;> grind

theorem Route.callsMethodsOf {strategy : WriteStrategy} (chosen : outcome = .ok strategy) :
    strategy.CallsMethodsOf property := by
  cases route with
  | plainGetter | plainWithout | untypedAdder | without => cases chosen
  | plain _ _ hasMethod | replace _ _ _ hasMethod | fill _ _ _ _ hasMethod =>
    cases chosen
    exact hasMethod
  | preferredAdder _ _ _ hasAdder hasElement | lastAdder _ _ _ _ _ _ hasAdder hasElement =>
    cases chosen
    exact ⟨hasAdder, hasElement⟩
  | update _ _ _ _ hasSetter hasGetter =>
    cases chosen
    exact ⟨hasSetter, hasGetter⟩

theorem Route.copy_eq {setter : String} {copy : Bool} (chosen : outcome = .ok (.set setter copy)) :
    copy = (property.type.isContainer && kind.isDirect) := by
  cases route <;> cases chosen <;> simp [*]

end Routes

/-- The outcome of a selection, told by what the property has: whether it can be written, which
error says that it cannot, and when each strategy is chosen. -/
structure IsDecidedByAccess (property : Property) (options : Options) (kind : ValueKind)
    (outcome : Except SelectionError WriteStrategy) : Prop where
  plain : property.type.isContainer = false →
    ((∃ strategy, outcome = .ok strategy) ↔ IsGiven property.setter)
  container : property.type.isContainer = true →
    ((∃ strategy, outcome = .ok strategy) ↔
      IsGiven property.setter ∨
        IsGiven property.getter ∧ options.collection ≠ .targetImmutable ∨
        IsGiven property.adder ∧ property.type.elementType?.isSome ∧
          (options.collection = .setterPreferred ∨ options.collection = .adderPreferred))
  elementTypeUnknown :
    outcome = .error (.elementTypeUnknown property.name property.type.text) ↔
      property.type.isContainer = true ∧ IsGiven property.adder ∧
        property.type.elementType? = none ∧
        (options.collection = .setterPreferred ∨ options.collection = .adderPreferred) ∧
        ¬ IsGiven property.setter ∧ ¬ IsGiven property.getter
  containerRequired :
    outcome = .error (.containerRequired property.name property.type.text) ↔
      property.type.isContainer = false ∧ IsGiven property.getter ∧ ¬ IsGiven property.setter
  /-- In every other case of failure there is no method to write through. -/
  otherErrors : ∀ error, outcome = .error error →
    error = .elementTypeUnknown property.name property.type.text ∨
      error = .containerRequired property.name property.type.text ∨
      error = .noWriteAccess property.name
  errorProperty : ∀ error, outcome = .error error → error.property = property.name
  methods : ∀ strategy, outcome = .ok strategy → strategy.CallsMethodsOf property
  immutable : options.collection = .targetImmutable → ∀ strategy, outcome = .ok strategy →
    ∃ setter copy, strategy = .set setter copy
  /-- The adder comes first where it is preferred, else last where it is allowed at all. -/
  addsEach : (∃ adder element, outcome = .ok (.addEach adder element)) ↔
    IsGiven property.adder ∧ property.type.elementType?.isSome ∧
      (options.collection = .adderPreferred ∨ options.collection = .setterPreferred ∧
        ¬ IsGiven property.setter ∧ ¬ IsGiven property.getter)
  merges : (∃ setter getter, outcome = .ok (.mergeOrReplace setter getter)) ↔
    property.type.isContainer = true ∧ ¬ property.PrefersAdder options ∧
      IsGiven property.setter ∧ IsGiven property.getter ∧ options.updateExisting = true ∧
      options.collection ≠ .targetImmutable
  fills : (∃ getter, outcome = .ok (.mergeInto getter)) ↔
    property.type.isContainer = true ∧ ¬ property.PrefersAdder options ∧
      ¬ IsGiven property.setter ∧ IsGiven property.getter ∧ options.collection ≠ .targetImmutable
  copies : ∀ setter copy, outcome = .ok (.set setter copy) →
    copy = (property.type.isContainer && kind.isDirect)

/-- A selection succeeds exactly where there is a route to write by, and it calls no method that the
property does not have. -/
theorem select_isDecidedByAccess (property : Property) (options : Options) (kind : ValueKind) :
    IsDecidedByAccess property options kind (select property options kind) := by
  have route := route_select property options kind
  have succeeds := route.exists_ok_iff
  exact {
    plain := fun isPlain => by simpa [isPlain] using succeeds
    container := fun isContainer => by simpa [isContainer] using succeeds
    elementTypeUnknown := route.eq_elementTypeUnknown_iff
    containerRequired := route.eq_containerRequired_iff
    otherErrors := fun _ => route.error_cases
    errorProperty := fun _ => route.error_property
    methods := fun _ => route.callsMethodsOf
    immutable := fun immutable _ => route.eq_set_of_immutable immutable
    addsEach := route.exists_addEach_iff
    merges := route.exists_mergeOrReplace_iff
    fills := route.exists_mergeInto_iff
    copies := fun _ _ => route.copy_eq }

end WriteStrategy

end PropertyAssignment
