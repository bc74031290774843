import PropertyAssignment.Code.Execution
import Mathlib.Data.List.Induction

/-!
# Containers in memory

Sequences and maps are stored apart, but generated code treats them alike: it copies, clears and
fills them. What a container holds is its content, and the three operations are operations on
contents. Each of them touches one container at most, and a copy only one that was not in use, so
a container keeps its content through everything that is done to others.
-/

namespace PropertyAssignment

namespace RunValue

def containerKind? : RunValue → Option ContainerKind
  | .sequence _ => some .sequence
  | .map _ => some .map
  | .null | .bool _ | .text _ | .object _ => none

def IsContainer (value : RunValue) (kind : ContainerKind) : Prop :=
  value.containerKind? = some kind

instance (value : RunValue) (kind : ContainerKind) : Decidable (value.IsContainer kind) :=
  inferInstanceAs (Decidable (_ = _))

/-- The value has no address from the bound on. -/
def IsBelow (bound : Nat) : RunValue → Prop
  | .sequence address | .map address | .object address => address < bound
  | .null | .bool _ | .text _ => True

instance (bound : Nat) : (value : RunValue) → Decidable (value.IsBelow bound)
  | .sequence _ | .map _ | .object _ => inferInstanceAs (Decidable (_ < _))
  | .null | .bool _ | .text _ => isTrue trivial

theorem IsBelow.mono {value : RunValue} {bound larger : Nat} (below : value.IsBelow bound)
    (le : bound ≤ larger) : value.IsBelow larger := by
  cases value with
  | sequence | map | object => exact Nat.lt_of_lt_of_le below le
  | null | bool | text => trivial

theorem IsContainer.ne_null {value : RunValue} {kind : ContainerKind}
    (container : value.IsContainer kind) : value ≠ .null := by
  rintro rfl
  cases container

theorem IsContainer.ne_object {value : RunValue} {kind : ContainerKind}
    (container : value.IsContainer kind) (address : Nat) : value ≠ .object address := by
  rintro rfl
  cases container

end RunValue

namespace SequenceCell

theorem pushAll_of_not_unique (items added : List String) :
    pushAll ⟨false, items⟩ added = ⟨false, items ++ added⟩ := by
  induction added generalizing items with
  | nil => simp [pushAll]
  | cons item rest ih =>
    refine (ih (items ++ [item])).trans ?_
    simp

/-- What is pushed to a set is dropped where it repeats an element, old or new. -/
theorem pushAll_eraseDups (items added : List String) :
    pushAll ⟨true, items.eraseDups⟩ added = ⟨true, (items ++ added).eraseDups⟩ := by
  induction added generalizing items with
  | nil => simp [pushAll]
  | cons item rest ih =>
    have pushed : push ⟨true, items.eraseDups⟩ item = ⟨true, (items ++ [item]).eraseDups⟩ := by
      by_cases old : item ∈ items
      · simp [push, old, List.eraseDups_append, List.removeAll]
      · simp [push, old, List.eraseDups_append, List.removeAll]
        rfl
    have rest := ih (items ++ [item])
    rw [List.append_assoc, List.singleton_append] at rest
    rw [← rest, ← pushed]
    rfl

theorem pushAll_nil (unique : Bool) (added : List String) :
    pushAll ⟨unique, []⟩ added = ⟨unique, if unique then added.eraseDups else added⟩ := by
  cases unique with
  | false => exact pushAll_of_not_unique [] added
  | true => exact pushAll_eraseDups [] added

end SequenceCell

theorem eraseDups_eraseDups (items : List String) :
    items.eraseDups.eraseDups = items.eraseDups := by
  induction items using List.reverseRecOn with
  | nil => rfl
  | append_singleton items item ih =>
    by_cases old : item ∈ items
    · simp [List.eraseDups_append, List.removeAll, old, ih]
    · have last : ([item] : List String).eraseDups = [item] := rfl
      simp [List.eraseDups_append, List.removeAll, old, ih, last]

/-- What a container holds; a value that is no container holds nothing. -/
inductive Content where
  | nothing
  | sequence (cell : SequenceCell)
  | map (entries : String → Option String)

namespace Content

def kind? : Content → Option ContainerKind
  | .nothing => none
  | .sequence _ => some .sequence
  | .map _ => some .map

def isUnique : Content → Bool
  | .sequence cell => cell.unique
  | .nothing | .map _ => false

def empty (unique : Bool) : ContainerKind → Content
  | .sequence => .sequence ⟨unique, []⟩
  | .map => .map fun _ => none

/-- The same elements or entries in another container. With set semantics, and only with it, an
element that is there already is left out. -/
def copied (unique : Bool) : Content → Content
  | .nothing => .nothing
  | .sequence cell => .sequence ⟨unique, if unique then cell.items.eraseDups else cell.items⟩
  | .map entries => .map entries

def cleared : Content → Content
  | .nothing => .nothing
  | .sequence cell => .sequence { cell with items := [] }
  | .map _ => .map fun _ => none

/-- The content after all of another one was put in. -/
def filled : Content → Content → Content
  | .sequence cell, .sequence other => .sequence (cell.pushAll other.items)
  | .map entries, .map other => .map (overlay entries other)
  | content, _ => content

/-- Clearing has nothing to remove. -/
def IsEmpty (content : Content) : Prop :=
  content.cleared = content

@[simp] theorem kind_empty (unique : Bool) (kind : ContainerKind) :
    (empty unique kind).kind? = some kind := by
  cases kind <;> rfl

@[simp] theorem kind_copied (unique : Bool) (content : Content) :
    (content.copied unique).kind? = content.kind? := by
  cases content <;> rfl

/-- Filling what was cleared is copying: whatever was there before does not matter. -/
theorem filled_cleared {content other : Content} (sameKind : content.kind? = other.kind?) :
    content.cleared.filled other = other.copied content.isUnique := by
  cases content with
  | nothing =>
    cases other with
    | nothing => rfl
    | sequence | map => cases sameKind
  | sequence cell =>
    cases other with
    | sequence other => exact congrArg sequence (SequenceCell.pushAll_nil cell.unique other.items)
    | nothing | map => cases sameKind
  | map entries =>
    cases other with
    | map other =>
      refine congrArg map (funext fun key => ?_)
      simp [overlay]
    | nothing | sequence => cases sameKind

theorem copied_cleared (content : Content) :
    content.cleared.copied content.isUnique = content.cleared := by
  cases content with
  | nothing | map => rfl
  | sequence cell =>
    obtain ⟨unique, items⟩ := cell
    cases unique <;> rfl

theorem cleared_copied {content other : Content} (sameKind : content.kind? = other.kind?) :
    (other.copied content.isUnique).cleared = content.cleared := by
  cases content <;> cases other <;>
    first
    | rfl
    | cases sameKind

theorem isUnique_copied {content other : Content} (sameKind : content.kind? = other.kind?) :
    (other.copied content.isUnique).isUnique = content.isUnique := by
  cases content <;> cases other <;>
    first
    | rfl
    | cases sameKind

theorem copied_isUnique_copied (unique : Bool) (content : Content) :
    content.copied (content.copied unique).isUnique = content.copied unique := by
  cases content <;> rfl

/-- The content repeats no element that its container would have dropped. -/
def IsNormal (content : Content) : Prop :=
  content.copied content.isUnique = content

theorem isNormal_empty (unique : Bool) (kind : ContainerKind) : (empty unique kind).IsNormal := by
  cases kind with
  | sequence => cases unique <;> rfl
  | map => rfl

theorem isNormal_copied (unique : Bool) (content : Content) :
    (content.copied unique).IsNormal := by
  cases content with
  | nothing | map => rfl
  | sequence cell =>
    cases unique
    · rfl
    · simp [IsNormal, copied, isUnique, eraseDups_eraseDups]

/-- Copies of copies, one for each flag. -/
def copiedAll (flags : List Bool) (content : Content) : Content :=
  flags.foldl (fun content unique => content.copied unique) content

theorem copiedAll_concat (flags : List Bool) (unique : Bool) (content : Content) :
    (content.copiedAll (flags ++ [unique])) = (content.copiedAll flags).copied unique := by
  simp [copiedAll]

theorem copiedAll_nothing (flags : List Bool) : nothing.copiedAll flags = nothing := by
  induction flags with
  | nil => rfl
  | cons unique rest ih => exact ih

theorem copiedAll_map (flags : List Bool) (entries : String → Option String) :
    (map entries).copiedAll flags = map entries := by
  induction flags with
  | nil => rfl
  | cons unique rest ih => exact ih

/-- The last copy decides on set semantics, and one set on the way is enough to drop what repeats
an element. -/
theorem copiedAll_sequence (flags : List Bool) (cell : SequenceCell) :
    (sequence cell).copiedAll flags =
      sequence ⟨flags.getLastD cell.unique,
        if flags.any id then cell.items.eraseDups else cell.items⟩ := by
  induction flags generalizing cell with
  | nil => rfl
  | cons unique rest ih =>
    refine (ih _).trans ?_
    cases unique with
    | false => simp only [List.getLastD_cons, List.any_cons, id, Bool.false_or]; rfl
    | true =>
      simp only [List.getLastD_cons, List.any_cons, id, Bool.true_or, if_true]
      split
      · rw [eraseDups_eraseDups]
      · rfl

theorem copiedAll_copiedAll (flags : List Bool) (content : Content) :
    (content.copiedAll flags).copiedAll flags = content.copiedAll flags := by
  cases content with
  | nothing => simp only [copiedAll_nothing]
  | map entries => simp only [copiedAll_map]
  | sequence cell =>
    have last : flags.getLastD (flags.getLastD cell.unique) = flags.getLastD cell.unique := by
      cases flags with
      | nil => rfl
      | cons => simp only [List.getLastD_cons]
    simp only [copiedAll_sequence, last]
    split
    · rw [eraseDups_eraseDups]
    · rfl

end Content

namespace Memory

def content (memory : Memory) : RunValue → Content
  | .sequence address => .sequence (memory.sequences address)
  | .map address => .map (memory.maps address)
  | .null | .bool _ | .text _ | .object _ => .nothing

/-- The memory with a container's content replaced by one of its kind. -/
def setContent (memory : Memory) (container : RunValue) (content : Content) : Memory :=
  match container, content with
  | .sequence address, .sequence cell => memory.setSequence address cell
  | .map address, .map entries => memory.setMap address entries
  | _, _ => memory

def clear (memory : Memory) (container : RunValue) : Memory :=
  memory.setContent container (memory.content container).cleared

def fill (memory : Memory) (container source : RunValue) : Memory :=
  memory.setContent container ((memory.content container).filled (memory.content source))

def allocate (memory : Memory) : Content → RunValue × Memory
  | .nothing => (.null, memory)
  | .sequence cell => memory.newSequence cell
  | .map entries => memory.newMap entries

section
variable (memory : Memory) (container source : RunValue) (content : Content)

@[simp] theorem kind_content : (memory.content container).kind? = container.containerKind? := by
  cases container <;> rfl

@[simp] theorem objects_setContent :
    (memory.setContent container content).objects = memory.objects := by
  cases container <;> cases content <;> rfl

@[simp] theorem next_setContent : (memory.setContent container content).next = memory.next := by
  cases container <;> cases content <;> rfl

theorem content_setContent_of_ne {other : RunValue} (different : other ≠ container) :
    (memory.setContent container content).content other = memory.content other := by
  cases container <;> cases content <;> cases other <;>
    simp_all [setContent, Memory.content, setSequence, setMap, updated]

theorem content_setContent_self (sameKind : content.kind? = container.containerKind?) :
    (memory.setContent container content).content container = content := by
  cases container <;> cases content <;>
    first
    | cases sameKind; done
    | simp [setContent, Memory.content, setSequence, setMap, updated]

@[simp] theorem objects_clear : (memory.clear container).objects = memory.objects :=
  objects_setContent ..

@[simp] theorem next_clear : (memory.clear container).next = memory.next :=
  next_setContent ..

@[simp] theorem objects_fill : (memory.fill container source).objects = memory.objects :=
  objects_setContent ..

@[simp] theorem next_fill : (memory.fill container source).next = memory.next :=
  next_setContent ..

theorem content_clear_self :
    (memory.clear container).content container = (memory.content container).cleared :=
  content_setContent_self _ _ _ (by cases container <;> rfl)

theorem content_clear_of_ne {other : RunValue} (different : other ≠ container) :
    (memory.clear container).content other = memory.content other :=
  content_setContent_of_ne _ _ _ different

theorem content_fill_self :
    (memory.fill container source).content container =
      (memory.content container).filled (memory.content source) := by
  refine content_setContent_self _ _ _ ?_
  cases container <;> cases source <;> rfl

theorem content_fill_of_ne {other : RunValue} (different : other ≠ container) :
    (memory.fill container source).content other = memory.content other :=
  content_setContent_of_ne _ _ _ different

end

/-- Between the two memories containers were allocated and nothing else was done: the objects and
the containers in use are as they were. -/
structure Extends (memory after : Memory) : Prop where
  objects : after.objects = memory.objects
  next : memory.next ≤ after.next
  content : ∀ value, value.IsBelow memory.next → after.content value = memory.content value

theorem Extends.refl (memory : Memory) : memory.Extends memory :=
  ⟨rfl, Nat.le_refl _, fun _ _ => rfl⟩

theorem Extends.trans {first second third : Memory} (left : first.Extends second)
    (right : second.Extends third) : first.Extends third where
  objects := right.objects.trans left.objects
  next := Nat.le_trans left.next right.next
  content value below :=
    (right.content value (below.mono left.next)).trans (left.content value below)

section
variable (memory : Memory) (content : Content)

@[simp] theorem containerKind_allocate :
    (memory.allocate content).1.containerKind? = content.kind? := by
  cases content <;> rfl

theorem content_allocate :
    (memory.allocate content).2.content (memory.allocate content).1 = content := by
  cases content <;>
    simp [allocate, newSequence, newMap, Memory.content, setSequence, setMap, updated]

theorem extends_allocate : memory.Extends (memory.allocate content).2 where
  objects := by cases content <;> rfl
  next := by
    cases content with
    | nothing => exact Nat.le_refl _
    | sequence | map => exact Nat.le_succ _
  content value below := by
    cases content <;> cases value <;>
      simp_all [allocate, newSequence, newMap, Memory.content, setSequence, setMap, updated,
        RunValue.IsBelow, Nat.ne_of_lt]

theorem isBelow_allocate :
    (memory.allocate content).1.IsBelow (memory.allocate content).2.next := by
  cases content with
  | nothing => trivial
  | sequence | map => exact Nat.lt_succ_self _

theorem not_isBelow_allocate {kind : ContainerKind} (hasKind : content.kind? = some kind) :
    ¬ (memory.allocate content).1.IsBelow memory.next := by
  cases content with
  | nothing => cases hasKind
  | sequence | map => exact Nat.lt_irrefl _

end

end Memory

/-! ### What calls do to containers -/

section Calls
variable {kind : ContainerKind} {container source : RunValue}

theorem construct_eq_allocate (isContainer : source.IsContainer kind) (type : JavaType)
    (memory : Memory) :
    construct type source memory =
      .ok (memory.allocate ((memory.content source).copied type.isSet)) := by
  cases source with
  | sequence address =>
    simp only [construct, Memory.content, Content.copied, Memory.allocate,
      SequenceCell.pushAll_nil]
  | map address => rfl
  | null | bool | text | object => cases isContainer

theorem constructEmpty_eq_allocate {type : JavaType} (isContainer : type.container = some kind)
    (memory : Memory) :
    constructEmpty type memory = memory.allocate (Content.empty type.isSet kind) := by
  unfold constructEmpty
  rw [isContainer]
  cases kind <;> rfl

theorem callMethod_clear (isContainer : container.IsContainer kind) (memory : Memory) :
    callMethod container "clear" [] memory = .ok (.null, memory.clear container) := by
  cases container with
  | sequence | map => rfl
  | null | bool | text | object => cases isContainer

theorem callMethod_bulkInsert (isContainer : container.IsContainer kind)
    (isSource : source.IsContainer kind) (memory : Memory) :
    callMethod container kind.bulkInsert [source] memory =
      .ok (.null, memory.fill container source) := by
  cases kind with
  | sequence =>
    cases container with
    | sequence =>
      cases source with
      | sequence => rfl
      | null | bool | text | map | object => cases isSource
    | null | bool | text | map | object => cases isContainer
  | map =>
    cases container with
    | map =>
      cases source with
      | map => rfl
      | null | bool | text | sequence | object => cases isSource
    | null | bool | text | sequence | object => cases isContainer

/-- A container takes the elements or entries of containers of its kind only. -/
theorem isContainer_of_callMethod_bulkInsert (isContainer : container.IsContainer kind)
    {memory : Memory} {result : RunValue × Memory}
    (succeeds : callMethod container kind.bulkInsert [source] memory = .ok result) :
    source.IsContainer kind := by
  cases kind with
  | sequence =>
    cases container with
    | sequence =>
      cases source with
      | sequence => rfl
      | null | bool | text | map | object => cases succeeds
    | null | bool | text | map | object => cases isContainer
  | map =>
    cases container with
    | map =>
      cases source with
      | map => rfl
      | null | bool | text | sequence | object => cases succeeds
    | null | bool | text | sequence | object => cases isContainer

end Calls

end PropertyAssignment
