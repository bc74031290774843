import PropertyAssignment.Proofs.TypeIdentity
import PropertyAssignment.WriteStrategy

/-!
# What a selection takes from the type

How a property is written depends on its type by two things only: whether it is a container, and
which element type it has. Types that agree in these lead to the same strategy, up to the
identity of the element type, or to the same error, in which each type shows its own text. An
update of a property with setter and getter tells containers from other types.
-/

namespace PropertyAssignment

namespace Property

def ofType (property : Property) (type : JavaType) : Property :=
  { property with type := type }

section
variable (property : Property) (type : JavaType)

@[simp] theorem type_ofType : (property.ofType type).type = type := rfl

@[simp] theorem name_ofType : (property.ofType type).name = property.name := rfl

@[simp] theorem setter?_ofType : (property.ofType type).setter? = property.setter? := rfl

@[simp] theorem getter?_ofType : (property.ofType type).getter? = property.getter? := rfl

@[simp] theorem adder?_ofType : (property.ofType type).adder? = property.adder? := rfl

end

end Property

def SelectionError.withTypeText (typeText : String) : SelectionError → SelectionError
  | .noWriteAccess property => .noWriteAccess property
  | .containerRequired property _ => .containerRequired property typeText
  | .elementTypeUnknown property _ => .elementTypeUnknown property typeText

namespace WriteStrategy

/-- Whether two strategies do the same, the types of elements compared by identity. -/
def Agrees : WriteStrategy → WriteStrategy → Prop
  | .addEach adder element, .addEach otherAdder otherElement =>
    adder = otherAdder ∧ element.same otherElement = true
  | .mergeOrReplace setter getter, .mergeOrReplace otherSetter otherGetter =>
    setter = otherSetter ∧ getter = otherGetter
  | .set setter copy, .set otherSetter otherCopy => setter = otherSetter ∧ copy = otherCopy
  | .mergeInto getter, .mergeInto otherGetter => getter = otherGetter
  | _, _ => False

/-- Whether two selections have the same outcome. An error of the second one shows its own type, in
the text given. -/
def SelectionsAgree (typeText : String) :
    Except SelectionError WriteStrategy → Except SelectionError WriteStrategy → Prop
  | .ok first, .ok second => first.Agrees second
  | .error first, .error second => second = first.withTypeText typeText
  | _, _ => False

section
variable {first second : JavaType} (property : Property) (options : Options) (kind : ValueKind)

theorem forPlain_agrees :
    SelectionsAgree second.text (forPlain (property.ofType first))
      (forPlain (property.ofType second)) := by
  simp only [forPlain, Property.setter?_ofType, Property.getter?_ofType]
  cases property.setter? with
  | some setter => exact ⟨rfl, rfl⟩
  | none => cases property.getter? <;> rfl

theorem elementTypes_cases
    (elements : first.elementType?.map JavaType.identity =
      second.elementType?.map JavaType.identity) :
    first.elementType? = none ∧ second.elementType? = none ∨
      ∃ element other, first.elementType? = some element ∧ second.elementType? = some other ∧
        element.same other = true := by
  cases ofFirst : first.elementType? with
  | none =>
    cases ofSecond : second.elementType? with
    | none => exact .inl ⟨rfl, rfl⟩
    | some other => simp [ofFirst, ofSecond] at elements
  | some element =>
    cases ofSecond : second.elementType? with
    | none => simp [ofFirst, ofSecond] at elements
    | some other =>
      rw [ofFirst, ofSecond] at elements
      exact .inr ⟨element, other, rfl, rfl, JavaType.same_iff.mpr (Option.some.inj elements)⟩

variable (elements : first.elementType?.map JavaType.identity =
  second.elementType?.map JavaType.identity)
include elements

theorem throughAdder_agrees :
    SelectionsAgree second.text (throughAdder (property.ofType first) options)
      (throughAdder (property.ofType second) options) := by
  simp only [throughAdder, Property.adder?_ofType, Property.type_ofType]
  cases property.adder? with
  | none => rfl
  | some adder =>
    cases options.collection.allowsAdder with
    | false => rfl
    | true =>
      rcases elementTypes_cases elements with
        ⟨noFirst, noSecond⟩ | ⟨element, other, ofFirst, ofSecond, same⟩
      · rw [noFirst, noSecond]
        rfl
      · rw [ofFirst, ofSecond]
        exact ⟨rfl, same⟩

theorem throughAccessors_agrees :
    SelectionsAgree second.text (throughAccessors (property.ofType first) options kind)
      (throughAccessors (property.ofType second) options kind) := by
  simp only [throughAccessors, Property.setter?_ofType, Property.getter?_ofType]
  cases property.setter? with
  | some setter =>
    cases property.getter? with
    | none => exact ⟨rfl, rfl⟩
    | some getter =>
      cases options.updateExisting && options.collection.allowsMerge <;> exact ⟨rfl, rfl⟩
  | none =>
    cases property.getter? with
    | none => exact throughAdder_agrees property options elements
    | some getter =>
      cases options.collection.allowsMerge with
      | false => exact throughAdder_agrees property options elements
      | true => rfl

theorem forContainer_agrees :
    SelectionsAgree second.text (forContainer (property.ofType first) options kind)
      (forContainer (property.ofType second) options kind) := by
  have byAccessors := throughAccessors_agrees property options kind elements
  simp only [forContainer, Property.adder?_ofType, Property.type_ofType]
  rcases elementTypes_cases elements with
    ⟨noFirst, noSecond⟩ | ⟨element, other, ofFirst, ofSecond, same⟩
  · rw [noFirst, noSecond]
    cases options.collection <;> cases property.adder? <;> exact byAccessors
  · rw [ofFirst, ofSecond]
    cases options.collection with
    | adderPreferred =>
      cases property.adder? with
      | none => exact byAccessors
      | some adder => exact ⟨rfl, same⟩
    | accessorOnly | setterPreferred | targetImmutable => exact byAccessors

/-- The selection depends on the type only by whether it is a container and by its element type. -/
theorem select_agrees (containers : first.isContainer = second.isContainer) :
    SelectionsAgree second.text (select (property.ofType first) options kind)
      (select (property.ofType second) options kind) := by
  rw [select, select, Property.type_ofType, Property.type_ofType, containers]
  cases second.isContainer with
  | true => exact forContainer_agrees property options kind elements
  | false => exact forPlain_agrees property

end

theorem select_forUpdate {property : Property} {setter getter : String}
    (hasSetter : property.setter? = some setter) (hasGetter : property.getter? = some getter)
    (kind : ValueKind) : select property .forUpdate kind =
      .ok (if property.type.isContainer then .mergeOrReplace setter getter
        else .set setter false) := by
  cases isContainer : property.type.isContainer with
  | true =>
    have byAccessors : throughAccessors property .forUpdate kind =
        .ok (.mergeOrReplace setter getter) := by
      rw [throughAccessors, hasSetter, hasGetter]
      rfl
    rw [select, isContainer]
    exact byAccessors
  | false =>
    rw [select, isContainer]
    simp [forPlain, hasSetter]

theorem isContainer_eq_of_selectionsAgree {first second : JavaType}
    (agree : ∀ (property : Property) options kind,
      SelectionsAgree second.text (select (property.ofType first) options kind)
        (select (property.ofType second) options kind)) :
    first.isContainer = second.isContainer := by
  let property : Property :=
    { name := "tags", type := first, setter := some "setTags", getter := some "getTags" }
  have update (type : JavaType) : select (property.ofType type) .forUpdate .direct =
      .ok (if type.isContainer then .mergeOrReplace "setTags" "getTags"
        else .set "setTags" false) :=
    select_forUpdate rfl rfl .direct
  have agreeOnUpdate := agree property .forUpdate .direct
  rw [update, update] at agreeOnUpdate
  cases isFirst : first.isContainer <;> cases isSecond : second.isContainer <;>
    simp [isFirst, isSecond, SelectionsAgree, Agrees] at agreeOnUpdate ⊢

end WriteStrategy

end PropertyAssignment
