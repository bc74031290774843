import Mathlib.Tactic.ByContra
import PropertyAssignment.Proofs.SelectionByType

/-!
# Types of one name and their container kinds

A type is described by a written name and its arguments, or as the implementation of a type so
described. Types of the same name and the same arguments are one type, but the container kind is
looked up by the name as it is written, or comes along with the implementation. So it need not be
the one that the table has for the name: a name written with an empty segment is not found, and
the implementations of three types are no entries of the table. Apart from these, types that are one
are classified as one, and a property is written in the same way whichever of them it has.
-/

namespace PropertyAssignment

namespace WellKnownContainer

def kindOf? (dotted : String) : Option ContainerKind :=
  (find? dotted).map (·.kind)

/-- The types whose implementation is no entry of the table. -/
def implementedOutside : List String :=
  ["java.util.Queue", "java.util.Deque", "java.util.concurrent.ConcurrentMap"]

section
variable {known : WellKnownContainer}

theorem mem_of_find? {dotted : String} (found : find? dotted = some known) :
    known ∈ all ∧ known.dotted = dotted :=
  ⟨List.mem_of_find?_eq_some found, by simpa using List.find?_some found⟩

theorem dotted_parse (inTable : known ∈ all) :
    (QualifiedName.parse known.dotted).dotted = known.dotted := by
  have checked : ∀ known ∈ all, (QualifiedName.parse known.dotted).dotted = known.dotted := by
    decide +kernel
  exact checked known inTable

theorem dotted_parse_implementation (inTable : known ∈ all) :
    (QualifiedName.parse known.implementation).dotted = known.implementation := by
  have checked : ∀ known ∈ all,
      (QualifiedName.parse known.implementation).dotted = known.implementation := by
    decide +kernel
  exact checked known inTable

/-- An implementation is of the kind that it implements, if the table has it at all. -/
theorem kindOf?_implementation (inTable : known ∈ all) :
    kindOf? known.implementation =
      if known.dotted ∈ implementedOutside then none else some known.kind := by
  have checked : ∀ known ∈ all, kindOf? known.implementation =
      if known.dotted ∈ implementedOutside then none else some known.kind := by
    decide +kernel
  exact checked known inTable

theorem kind_eq_of_implementation_eq {other : WellKnownContainer} (inTable : known ∈ all)
    (otherInTable : other ∈ all) (same : known.implementation = other.implementation) :
    known.kind = other.kind := by
  have checked : ∀ known ∈ all, ∀ other ∈ all,
      known.implementation = other.implementation → known.kind = other.kind := by
    decide +kernel
  exact checked known inTable other otherInTable same

theorem dotted_parse_of_kindOf? {written : String} {kind : ContainerKind}
    (found : kindOf? written = some kind) : (QualifiedName.parse written).dotted = written := by
  obtain ⟨known, isKnown, _⟩ := Option.map_eq_some_iff.mp found
  obtain ⟨inTable, rfl⟩ := mem_of_find? isKnown
  exact dotted_parse inTable

end

end WellKnownContainer

namespace JavaType

open WellKnownContainer WriteStrategy

/-- How types are described: by a written name with arguments, or as the implementation of a type
so described. -/
inductive IsDescribed : JavaType → Prop
  | generic (written : String) (arguments : List JavaType) : IsDescribed (generic written arguments)
  | implementation {type : JavaType} (described : IsDescribed type) :
      IsDescribed type.implementation

/-- Whether the container kind of the type is what the table has for its name. -/
def IsClassifiedByName (type : JavaType) : Prop :=
  type.container = kindOf? type.name.dotted

section
variable {type : JavaType}

theorem isClassifiedByName_generic_iff (written : String) (arguments : List JavaType) :
    (generic written arguments).IsClassifiedByName ↔
      (QualifiedName.parse written).dotted = written ∨
        kindOf? (QualifiedName.parse written).dotted = none := by
  show kindOf? written = kindOf? (QualifiedName.parse written).dotted ↔ _
  constructor
  · intro classified
    cases found : kindOf? written with
    | none => exact .inr (classified ▸ found)
    | some kind => exact .inl (dotted_parse_of_kindOf? found)
  · rintro (plain | absent)
    · rw [plain]
    · cases found : kindOf? written with
      | none => exact absent.symm
      | some kind =>
        rw [dotted_parse_of_kindOf? found, found] at absent
        cases absent

/-- A type is its own implementation, or the table has another type as its implementation. -/
theorem implementation?_cases (type : JavaType) :
    type.implementation? = none ∨
      ∃ known ∈ all, known.dotted = type.name.dotted ∧
        type.implementation? =
          some ⟨.parse known.implementation, type.arguments, some known.kind⟩ := by
  unfold implementation?
  cases found : find? type.name.dotted with
  | none => exact .inl rfl
  | some known =>
    obtain ⟨inTable, isDotted⟩ := mem_of_find? found
    by_cases concrete : known.implementation = type.name.dotted
    · exact .inl (by simp [concrete])
    · exact .inr ⟨known, inTable, isDotted, by simp [concrete]⟩

theorem implementation?_ne_none (outside : type.name.dotted ∈ implementedOutside) :
    type.implementation? ≠ none := by
  have checked : ∀ dotted ∈ implementedOutside, ∃ known ∈ all,
      find? dotted = some known ∧ known.implementation ≠ dotted := by
    decide +kernel
  obtain ⟨known, _, found, different⟩ := checked _ outside
  simp [implementation?, found, different]

theorem arguments_implementation (type : JavaType) :
    type.implementation.arguments = type.arguments := by
  rcases implementation?_cases type with own | ⟨known, _, _, other⟩
  · rw [implementation, own, Option.getD_none]
  · rw [implementation, other, Option.getD_some]

theorem isClassifiedByName_implementation_iff (type : JavaType) :
    type.implementation.IsClassifiedByName ↔
      (type.implementation? = none → type.IsClassifiedByName) ∧
        type.name.dotted ∉ implementedOutside := by
  rcases implementation?_cases type with own | ⟨known, inTable, isDotted, other⟩
  · have notOutside : type.name.dotted ∉ implementedOutside := fun outside =>
      implementation?_ne_none outside own
    rw [implementation, own, Option.getD_none]
    exact ⟨fun classified => ⟨fun _ => classified, notOutside⟩,
      fun ⟨classified, _⟩ => classified rfl⟩
  · rw [implementation, other, Option.getD_some, IsClassifiedByName,
      dotted_parse_implementation inTable, kindOf?_implementation inTable, isDotted]
    by_cases outside : type.name.dotted ∈ implementedOutside <;> simp [outside]

/-- A described type that is not classified by its name was either not found, because its name was
written with empty segments, or is an implementation that the table does not have. -/
theorem container_cases (described : type.IsDescribed) :
    type.IsClassifiedByName ∨
      type.container = none ∧ (kindOf? type.name.dotted).isSome ∨
      kindOf? type.name.dotted = none ∧
        ∃ known ∈ all, known.implementation = type.name.dotted ∧
          type.container = some known.kind := by
  induction described with
  | generic written arguments =>
    cases found : kindOf? written with
    | some kind =>
      refine .inl ((isClassifiedByName_generic_iff written arguments).mpr (.inl ?_))
      exact dotted_parse_of_kindOf? found
    | none =>
      cases byName : kindOf? (QualifiedName.parse written).dotted with
      | none => exact .inl ((isClassifiedByName_generic_iff written arguments).mpr (.inr byName))
      | some kind => exact .inr (.inl ⟨found, Option.isSome_of_eq_some byName⟩)
  | @implementation type _ ih =>
    rcases implementation?_cases type with own | ⟨known, inTable, _, other⟩
    · rw [implementation, own]
      exact ih
    · rw [implementation, other, Option.getD_some, IsClassifiedByName,
        dotted_parse_implementation inTable, kindOf?_implementation inTable]
      by_cases outside : known.dotted ∈ implementedOutside
      · exact .inr (.inr ⟨by simp [outside], known, inTable, rfl, rfl⟩)
      · exact .inl (by simp [outside])

end

section
variable {first second : JavaType}

theorem container_eq_iff (describedFirst : first.IsDescribed) (describedSecond : second.IsDescribed)
    (name : first.name = second.name) :
    first.container = second.container ↔
      (first.IsClassifiedByName ↔ second.IsClassifiedByName) := by
  constructor
  · intro container
    rw [IsClassifiedByName, IsClassifiedByName, name, container]
  · intro alike
    by_cases classified : first.IsClassifiedByName
    · calc
        first.container = kindOf? first.name.dotted := classified
        _ = kindOf? second.name.dotted := by rw [name]
        _ = second.container := (alike.mp classified).symm
    · have otherwise := (container_cases describedFirst).resolve_left classified
      have otherwiseSecond :=
        (container_cases describedSecond).resolve_left fun yes => classified (alike.mpr yes)
      rw [name] at otherwise
      rcases otherwise with ⟨absent, inTable⟩ | ⟨notInTable, known, isKnown, same, kind⟩
      · rcases otherwiseSecond with ⟨absentSecond, _⟩ | ⟨notInTable, _⟩
        · rw [absent, absentSecond]
        · rw [notInTable] at inTable
          cases inTable
      · rcases otherwiseSecond with ⟨_, inTable⟩ | ⟨_, other, isOther, sameOther, kindOther⟩
        · rw [notInTable] at inTable
          cases inTable
        · rw [kind, kindOther]
          rw [kind_eq_of_implementation_eq isKnown isOther (same.trans sameOther.symm)]

theorem isContainer_of_not_isClassifiedByName {type : JavaType} (described : type.IsDescribed)
    (otherwise : ¬ type.IsClassifiedByName) :
    type.isContainer = !(kindOf? type.name.dotted).isSome := by
  rcases (container_cases described).resolve_left otherwise with
    ⟨absent, inTable⟩ | ⟨notInTable, known, _, _, kind⟩
  · rw [isContainer, absent, inTable]
    rfl
  · rw [isContainer, kind, notInTable]
    rfl

theorem container_eq_of_isContainer_eq (describedFirst : first.IsDescribed)
    (describedSecond : second.IsDescribed) (name : first.name = second.name)
    (containers : first.isContainer = second.isContainer) : first.container = second.container := by
  refine (container_eq_iff describedFirst describedSecond name).mpr ⟨?_, ?_⟩
  · intro classified
    by_contra otherwise
    rw [isContainer_of_not_isClassifiedByName describedSecond otherwise, isContainer, classified,
      name] at containers
    exact Bool.self_ne_not _ containers
  · intro classified
    by_contra otherwise
    rw [isContainer_of_not_isClassifiedByName describedFirst otherwise, isContainer, classified,
      name] at containers
    exact Bool.not_ne_self _ containers

end

theorem elementType?_map_identity (type : JavaType) :
    type.elementType?.map identity =
      if type.container = some .sequence then (type.arguments.map identity).head? else none := by
  rw [elementType?, List.head?_map]
  rcases type.container with _ | _ | _ <;> rfl

/-- Described types of one name and of the same arguments are one type. They are of one kind exactly
if both are classified by their name or both are not; then their element types are the same, and the
same strategy is selected whichever of them a property has, or the same error but for the text
that shows the type. If they are not of one kind, some selection differs. A written type is
classified by its name unless empty segments keep the name from being found; an implementation is
unless it is the type itself and that is not, or the table does not have it. -/
theorem classification_agrees {first second : JavaType} (describedFirst : first.IsDescribed)
    (describedSecond : second.IsDescribed) (name : first.name = second.name)
    (arguments : first.arguments.map identity = second.arguments.map identity) :
    first.same second = true ∧
    (first.container = second.container ↔
      (first.IsClassifiedByName ↔ second.IsClassifiedByName)) ∧
    (first.container = second.container →
      first.elementType?.map identity = second.elementType?.map identity) ∧
    ((∀ (property : Property) (options : Options) (kind : ValueKind),
      SelectionsAgree second.text (select (property.ofType first) options kind)
        (select (property.ofType second) options kind)) ↔
      first.container = second.container) ∧
    (∀ (written : String) (arguments : List JavaType),
      (generic written arguments).IsClassifiedByName ↔
        (QualifiedName.parse written).dotted = written ∨
          kindOf? (QualifiedName.parse written).dotted = none) ∧
    ∀ type : JavaType, type.implementation.IsClassifiedByName ↔
      (type.implementation? = none → type.IsClassifiedByName) ∧
        type.name.dotted ∉ implementedOutside := by
  have elements (container : first.container = second.container) :
      first.elementType?.map identity = second.elementType?.map identity := by
    rw [elementType?_map_identity, elementType?_map_identity, container, arguments]
  refine ⟨same_of_name_eq name arguments, container_eq_iff describedFirst describedSecond name,
    elements, ⟨?_, ?_⟩, isClassifiedByName_generic_iff, isClassifiedByName_implementation_iff⟩
  · intro agree
    exact container_eq_of_isContainer_eq describedFirst describedSecond name
      (isContainer_eq_of_selectionsAgree agree)
  · intro container property options kind
    have containers : first.isContainer = second.isContainer := by
      rw [isContainer, isContainer, container]
    exact select_agrees property options kind (elements container) containers

/-- The implementation of a sorted set of texts and the tree set that is written so: with adders
preferred both are filled element by element. -/
theorem classification_agrees_treeSets :
    let texts := [declared "java.lang.String"]
    let implementing := (generic "java.util.SortedSet" texts).implementation
    let written := generic "java.util.TreeSet" texts
    let property : Property := { name := "tags", type := written, adder := some "addTag" }
    let options : Options := { collection := .adderPreferred }
    implementing.IsDescribed ∧ written.IsDescribed ∧ implementing.name = written.name ∧
      implementing.arguments.map identity = written.arguments.map identity ∧
      implementing.same written = true ∧ implementing.container = written.container ∧
      implementing.elementType?.map identity = written.elementType?.map identity ∧
      SelectionsAgree written.text (select (property.ofType implementing) options .direct)
        (select (property.ofType written) options .direct) := by
  intro texts implementing written property options
  have describedImplementing : implementing.IsDescribed := .implementation (.generic _ _)
  have describedWritten : written.IsDescribed := .generic _ _
  have name : implementing.name = written.name := by decide +kernel
  have arguments : implementing.arguments.map identity = written.arguments.map identity :=
    congrArg (List.map identity) (arguments_implementation _)
  have container : implementing.container = written.container := by decide +kernel
  obtain ⟨same, _, elements, agree, _⟩ :=
    classification_agrees describedImplementing describedWritten name arguments
  exact ⟨describedImplementing, describedWritten, name, arguments, same, container,
    elements container, agree.mpr container property options .direct⟩

/-- Two pairs of described types with one name and the same arguments, which are the same type. The
list is a container only if it is written without empty segment, so that an update of it fills
the list in the one case and sets it in the other. The array deque is one only as the
implementation of a queue. -/
theorem lists_and_deques_disagree :
    let texts := [declared "java.lang.String"]
    let list := generic "java.util.List" texts
    let spaced := generic "java..util.List" texts
    let implementing := (generic "java.util.Queue" texts).implementation
    let deque := generic "java.util.ArrayDeque" texts
    let property : Property :=
      { name := "tags", type := list, setter := some "setTags", getter := some "getTags" }
    (list.IsDescribed ∧ spaced.IsDescribed ∧ list.name = spaced.name ∧
      list.arguments = spaced.arguments ∧ list.same spaced = true ∧
      list.container = some .sequence ∧ spaced.container = none ∧
      list.elementType?.isSome = true ∧ spaced.elementType?.isSome = false ∧
      select (property.ofType list) .forUpdate .direct =
        .ok (.mergeOrReplace "setTags" "getTags") ∧
      select (property.ofType spaced) .forUpdate .direct = .ok (.set "setTags" false)) ∧
    implementing.IsDescribed ∧ deque.IsDescribed ∧ implementing.name = deque.name ∧
      implementing.arguments = deque.arguments ∧ implementing.same deque = true ∧
      implementing.container = some .sequence ∧ deque.container = none := by
  intro texts list spaced implementing deque property
  have listName : list.name = spaced.name := by decide +kernel
  have sameList : list.same spaced = true := same_of_name_eq listName rfl
  have listContainer : list.container = some .sequence := by decide +kernel
  have spacedContainer : spaced.container = none := by decide +kernel
  have update (type : JavaType) : select (property.ofType type) .forUpdate .direct =
      .ok (if type.isContainer then .mergeOrReplace "setTags" "getTags"
        else .set "setTags" false) :=
    select_forUpdate rfl rfl .direct
  have dequeName : implementing.name = deque.name := by decide +kernel
  have dequeArguments : implementing.arguments = deque.arguments := arguments_implementation _
  have sameDeque : implementing.same deque = true :=
    same_of_name_eq dequeName (by rw [dequeArguments])
  have dequeContainer : implementing.container = some .sequence ∧ deque.container = none := by
    decide +kernel
  refine ⟨⟨.generic _ _, .generic _ _, listName, rfl, sameList, listContainer, spacedContainer,
    ?_, ?_, ?_, ?_⟩, .implementation (.generic _ _), .generic _ _, dequeName, dequeArguments,
    sameDeque, dequeContainer⟩
  · rw [elementType?, listContainer]
    rfl
  · rw [elementType?, spacedContainer]
    rfl
  · rw [update, isContainer, listContainer]
    rfl
  · rw [update, isContainer, spacedContainer]
    rfl

end JavaType

end PropertyAssignment
