import PropertyAssignment.Code.Mentions
import PropertyAssignment.Proofs.ContainerMemory

/-!
# Expressions that yield containers

A call that changes memory gives null, and nothing can be done with null. Hence an expression
whose value is a container was evaluated without effect: it reads a container from a variable or a
property, or makes an empty one, and then copies it any number of times. `Expr.Reads` and
`Expr.Yields` say so step by step, and `Expr.yields_of_eval` shows that this is all there is. From
there it is seen what the value is after memory has changed (`Expr.Yields.transfer`).
-/

namespace PropertyAssignment

/-- A property of an object, as a place that a value is stored at. -/
structure Slot where
  address : Nat
  property : String
deriving DecidableEq, Repr

namespace Slot

def value (slot : Slot) (memory : Memory) : RunValue :=
  (memory.objects slot.address).properties slot.property

def store (slot : Slot) (value : RunValue) (memory : Memory) : Memory :=
  memory.setProperty slot.address slot.property value

def IsReadBy (slot : Slot) (memory : Memory) (getter : String) : Prop :=
  accessedProperty "get" getter = some slot.property ∧
    (memory.objects slot.address).adders getter = none

def IsWrittenBy (slot : Slot) (memory : Memory) (setter : String) : Prop :=
  accessedProperty "set" setter = some slot.property ∧
    (memory.objects slot.address).adders setter = none

instance (slot : Slot) (memory : Memory) (getter : String) :
    Decidable (slot.IsReadBy memory getter) :=
  inferInstanceAs (Decidable (_ ∧ _))

instance (slot : Slot) (memory : Memory) (setter : String) :
    Decidable (slot.IsWrittenBy memory setter) :=
  inferInstanceAs (Decidable (_ ∧ _))

section
variable (slot : Slot) (stored : RunValue) (memory : Memory)

@[simp] theorem value_store : slot.value (slot.store stored memory) = stored := by
  simp [value, store, Memory.setProperty, updated]

@[simp] theorem content_store (container : RunValue) :
    (slot.store stored memory).content container = memory.content container := by
  cases container <;> rfl

theorem adders_store (address : Nat) :
    ((slot.store stored memory).objects address).adders = (memory.objects address).adders := by
  simp only [store, Memory.setProperty, updated]
  split
  next same => rw [same]
  next => rfl

theorem properties_store (address : Nat) (property : String) :
    ((slot.store stored memory).objects address).properties property =
      if address = slot.address ∧ property = slot.property then stored
      else (memory.objects address).properties property := by
  by_cases sameObject : address = slot.address
  · by_cases sameProperty : property = slot.property <;>
      simp [store, Memory.setProperty, updated, sameObject, sameProperty]
  · simp [store, Memory.setProperty, updated, sameObject]

theorem objects_store_congr {memory other : Memory} (same : other.objects = memory.objects) :
    (slot.store stored other).objects = (slot.store stored memory).objects := by
  simp only [store, Memory.setProperty, same]

theorem store_value : slot.store (slot.value memory) memory = memory := by
  have properties : updated (memory.objects slot.address).properties slot.property
      (slot.value memory) = (memory.objects slot.address).properties := by
    funext property
    by_cases same : property = slot.property <;> simp [updated, value, same]
  have objects : updated memory.objects slot.address (memory.objects slot.address) =
      memory.objects := by
    funext address
    by_cases same : address = slot.address <;> simp [updated, same]
  simp only [store, Memory.setProperty, properties, objects]

end

section
variable {slot : Slot} {memory : Memory}

theorem callMethod_getter {getter : String} (reads : slot.IsReadBy memory getter) :
    callMethod (.object slot.address) getter [] memory = .ok (slot.value memory, memory) := by
  obtain ⟨accessed, noAdder⟩ := reads
  simp only [callMethod, callObject, noAdder, accessed]
  rfl

theorem callMethod_setter {setter : String} (writes : slot.IsWrittenBy memory setter)
    (stored : RunValue) :
    callMethod (.object slot.address) setter [stored] memory =
      .ok (.null, slot.store stored memory) := by
  obtain ⟨accessed, noAdder⟩ := writes
  simp only [callMethod, callObject, noAdder, accessed]
  rfl

end

end Slot

/-- No value that a run can come upon has an address that is not in use. -/
structure RunState.WellFormed (state : RunState) : Prop where
  bound : ∀ name value, state.bindings.var name = some value →
    value.IsBelow state.memory.next
  raw : ∀ text value, state.bindings.raw text = some value → value.IsBelow state.memory.next
  properties : ∀ address < state.memory.next, ∀ property,
    ((state.memory.objects address).properties property).IsBelow state.memory.next

/-! ### Calls that give something -/

@[simp] theorem ok_bind {α β : Type} (value : α) (next : α → Except RunError β) :
    (.ok value >>= next) = next value := rfl

theorem exists_of_bind_eq_ok {α β : Type} {first : Except RunError α}
    {next : α → Except RunError β} {result : β} (succeeds : first >>= next = .ok result) :
    ∃ value, first = .ok value ∧ next value = .ok result := by
  cases first with
  | error error => cases succeeds
  | ok value => exact ⟨value, rfl, succeeds⟩

theorem callSequence_eq_null {address : Nat} {method : String} {arguments : List RunValue}
    {memory after : Memory} {result : RunValue}
    (succeeds : callSequence address method arguments memory = .ok (result, after)) :
    result = .null := by
  unfold callSequence at succeeds
  split at succeeds <;> cases succeeds <;> rfl

theorem callMap_eq_null {address : Nat} {method : String} {arguments : List RunValue}
    {memory after : Memory} {result : RunValue}
    (succeeds : callMap address method arguments memory = .ok (result, after)) :
    result = .null := by
  unfold callMap at succeeds
  split at succeeds <;> cases succeeds <;> rfl

/-- Only the read of a property gives anything but null, and it leaves the memory as it is. -/
theorem callMethod_ne_null {target : RunValue} {method : String} {arguments : List RunValue}
    {memory after : Memory} {result : RunValue}
    (succeeds : callMethod target method arguments memory = .ok (result, after))
    (nonNull : result ≠ .null) :
    ∃ slot : Slot, target = .object slot.address ∧ arguments = [] ∧
      slot.IsReadBy memory method ∧ result = slot.value memory ∧ after = memory := by
  cases target with
  | null | bool | text => cases succeeds
  | sequence address => exact absurd (callSequence_eq_null succeeds) nonNull
  | map address => exact absurd (callMap_eq_null succeeds) nonNull
  | object address =>
    simp only [callMethod, callObject] at succeeds
    split at succeeds
    next adder _ =>
      split at succeeds
      · cases succeeds
      · cases succeeds
        exact absurd rfl nonNull
    next noAdder =>
      split at succeeds
      next property accessed =>
        cases succeeds
        exact ⟨⟨address, property⟩, rfl, rfl, ⟨accessed, noAdder⟩, rfl, rfl⟩
      next =>
        cases succeeds
        exact absurd rfl nonNull
      next => cases succeeds

namespace Expr

/-! ### Which bindings matter -/

theorem evalAll_congr {bindings other : Bindings} {exprs : List Expr}
    (same : ∀ expr ∈ exprs, ∀ memory, expr.eval bindings memory = expr.eval other memory)
    (memory : Memory) : evalAll bindings exprs memory = evalAll other exprs memory := by
  induction exprs generalizing memory with
  | nil => rfl
  | cons expr rest ih =>
    have rest := ih fun expr member => same expr (List.mem_cons_of_mem _ member)
    simp only [evalAll, same expr List.mem_cons_self memory, rest]

/-- Evaluation depends on the variables of the expression only. -/
theorem eval_congr {bindings other : Bindings} (raw : bindings.raw = other.raw) (expr : Expr)
    (agree : ∀ name ∈ expr.usedNames, bindings.var name = other.var name)
    (memory : Memory) : expr.eval bindings memory = expr.eval other memory := by
  induction expr generalizing memory with
  | var name => simp only [eval, agree name (by simp [Expr.usedNames])]
  | null => rfl
  | raw text => simp only [eval, raw]
  | invoke method arguments => rfl
  | call receiver method arguments receiverIh argumentsIh =>
    rw [Expr.usedNames, usedNamesOfAll_eq_flatMap] at agree
    have receiverSame := receiverIh fun name member =>
      agree name (List.mem_append_left _ member)
    have argumentsSame := evalAll_congr fun argument isArgument =>
      argumentsIh argument isArgument fun name member =>
        agree name (List.mem_append_right _ (List.mem_flatMap.mpr ⟨argument, isArgument, member⟩))
    simp only [eval, receiverSame, argumentsSame]
  | new type arguments argumentsIh =>
    rw [Expr.usedNames, usedNamesOfAll_eq_flatMap] at agree
    cases arguments with
    | nil => rfl
    | cons source rest =>
      have sourceSame := argumentsIh source List.mem_cons_self fun name member =>
        agree name (List.mem_flatMap.mpr ⟨source, List.mem_cons_self, member⟩)
      simp only [eval, sourceSame]
  | cast type operand ih => simpa only [eval] using ih agree memory
  | notNull operand ih => simp only [eval, ih agree memory]

theorem eval_bind {name : String} {expr : Expr} (notUsed : name ∉ expr.usedNames)
    (state : RunState) (value : RunValue) (memory : Memory) :
    expr.eval (state.bind name value).bindings memory = expr.eval state.bindings memory := by
  have raw : (state.bind name value).bindings.raw = state.bindings.raw := rfl
  refine eval_congr raw expr ?_ memory
  intro used member
  have different : used ≠ name := fun same => notUsed (same ▸ member)
  exact if_neg different

/-! ### Evaluation without effect -/

/-- The expression stands for the value: reading variables and properties gives it, with memory
as it is. -/
inductive Reads (bindings : Bindings) (objects : Nat → ObjectCell) : Expr → RunValue → Prop where
  | var {name : String} {value : RunValue} (bound : bindings.var name = some value) :
    Reads bindings objects (.var name) value
  | null : Reads bindings objects .null .null
  | raw {text : String} {value : RunValue} (bound : bindings.raw text = some value) :
    Reads bindings objects (.raw text) value
  | get {receiver : Expr} {method property : String} {address : Nat}
    (isObject : Reads bindings objects receiver (.object address))
    (noAdder : (objects address).adders method = none)
    (accessed : accessedProperty "get" method = some property) :
    Reads bindings objects (.call receiver method []) ((objects address).properties property)
  | cast {type : JavaType} {operand : Expr} {value : RunValue}
    (reads : Reads bindings objects operand value) :
    Reads bindings objects (.cast type operand) value
  | same {type : JavaType} {source : Expr} {rest : List Expr} {address : Nat}
    (isObject : Reads bindings objects source (.object address)) :
    Reads bindings objects (.new type (source :: rest)) (.object address)

/-- The expression yields the container and leaves the memory: the container is read, or it is
empty and new, or it is a new copy of one that an expression in it yields. -/
inductive Yields (bindings : Bindings) (memory : Memory) (kind : ContainerKind) :
    Expr → RunValue → Memory → Prop where
  | read {expr : Expr} {value : RunValue} (reads : Reads bindings memory.objects expr value)
    (isContainer : value.IsContainer kind) : Yields bindings memory kind expr value memory
  | empty {type : JavaType} (isContainer : type.container = some kind) :
    Yields bindings memory kind (.new type [])
      (memory.allocate (.empty type.isSet kind)).1 (memory.allocate (.empty type.isSet kind)).2
  | cast {type : JavaType} {operand : Expr} {value : RunValue} {after : Memory}
    (yields : Yields bindings memory kind operand value after) :
    Yields bindings memory kind (.cast type operand) value after
  | copy {type : JavaType} {source : Expr} {rest : List Expr} {value : RunValue} {after : Memory}
    (yields : Yields bindings memory kind source value after) :
    Yields bindings memory kind (.new type (source :: rest))
      (after.allocate ((after.content value).copied type.isSet)).1
      (after.allocate ((after.content value).copied type.isSet)).2

section
variable {bindings : Bindings} {memory after : Memory} {kind : ContainerKind} {expr : Expr}
  {value : RunValue}

theorem Reads.eval (reads : Reads bindings memory.objects expr value) :
    expr.eval bindings memory = .ok (value, memory) := by
  generalize same : memory.objects = objects at reads
  induction reads with
  | var bound => simp only [Expr.eval, bound]
  | null => rfl
  | raw bound => simp only [Expr.eval, bound]
  | @get receiver method property address _ noAdder accessed ih =>
    subst same
    have read : Slot.IsReadBy ⟨address, property⟩ memory method := ⟨accessed, noAdder⟩
    simp only [Expr.eval, ih, evalAll]
    exact Slot.callMethod_getter read
  | cast operand ih => simpa only [Expr.eval] using ih
  | same source ih =>
    simp only [Expr.eval, ih]
    rfl

theorem Reads.isBelow (reads : Reads bindings memory.objects expr value)
    (wellFormed : RunState.WellFormed ⟨bindings, memory⟩) : value.IsBelow memory.next := by
  generalize same : memory.objects = objects at reads
  induction reads with
  | var bound => exact wellFormed.bound _ _ bound
  | null => trivial
  | raw bound => exact wellFormed.raw _ _ bound
  | get receiver noAdder accessed ih =>
    subst same
    exact wellFormed.properties _ ih _
  | cast operand ih => exact ih
  | same source ih => exact ih

/-- A store to a slot that holds no object changes what an expression stands for only where that
is what the slot held. -/
theorem Reads.store {slot : Slot} (noObject : ∀ address, slot.value memory ≠ .object address)
    (reads : Reads bindings memory.objects expr value) (stored : RunValue) :
    Reads bindings (slot.store stored memory).objects expr value ∨
      value = slot.value memory ∧
        Reads bindings (slot.store stored memory).objects expr stored := by
  generalize same : memory.objects = objects at reads
  induction reads with
  | var bound => exact .inl (.var bound)
  | null => exact .inl .null
  | raw bound => exact .inl (.raw bound)
  | @get receiver method property address _ noAdder accessed ih =>
    subst same
    rcases ih with receiver | ⟨isSlot, _⟩
    · have read := Reads.get receiver (by rwa [slot.adders_store]) accessed
      rw [slot.properties_store] at read
      by_cases atSlot : address = slot.address ∧ property = slot.property
      · rw [if_pos atSlot] at read
        obtain ⟨rfl, rfl⟩ := atSlot
        exact .inr ⟨rfl, read⟩
      · rw [if_neg atSlot] at read
        exact .inl read
    · exact absurd isSlot.symm (noObject _)
  | cast operand ih =>
    rcases ih with operand | ⟨isSlot, operand⟩
    · exact .inl operand.cast
    · exact .inr ⟨isSlot, operand.cast⟩
  | same source ih =>
    rcases ih with source | ⟨isSlot, _⟩
    · exact .inl source.same
    · exact absurd isSlot.symm (noObject _)

theorem Yields.isContainer (yields : Yields bindings memory kind expr value after) :
    value.IsContainer kind := by
  induction yields with
  | read reads isContainer => exact isContainer
  | empty isContainer => exact (memory.containerKind_allocate _).trans (Content.kind_empty ..)
  | cast operand ih => exact ih
  | copy source ih =>
    refine (Memory.containerKind_allocate _ _).trans ?_
    rw [Content.kind_copied, Memory.kind_content]
    exact ih

theorem Yields.eval (yields : Yields bindings memory kind expr value after) :
    expr.eval bindings memory = .ok (value, after) := by
  induction yields with
  | read reads isContainer => exact reads.eval
  | empty isContainer => exact congrArg Except.ok (constructEmpty_eq_allocate isContainer memory)
  | cast operand ih => simpa only [Expr.eval] using ih
  | @copy type source rest value after source ih =>
    simp only [Expr.eval, ih]
    exact construct_eq_allocate source.isContainer type after

theorem Yields.extends (yields : Yields bindings memory kind expr value after) :
    memory.Extends after := by
  induction yields with
  | read reads isContainer => exact .refl memory
  | empty isContainer => exact memory.extends_allocate _
  | cast operand ih => exact ih
  | copy source ih => exact ih.trans (Memory.extends_allocate _ _)

theorem Yields.isBelow (yields : Yields bindings memory kind expr value after)
    (wellFormed : RunState.WellFormed ⟨bindings, memory⟩) : value.IsBelow after.next := by
  induction yields with
  | read reads isContainer => exact reads.isBelow wellFormed
  | empty isContainer => exact memory.isBelow_allocate _
  | cast operand ih => exact ih
  | copy source ih => exact Memory.isBelow_allocate _ _

/-- A container that an expression yields is one that was there, or it is new; then it repeats
nothing that it would have dropped. -/
theorem Yields.read_or_new (yields : Yields bindings memory kind expr value after) :
    (Reads bindings memory.objects expr value ∧ after = memory) ∨
      (¬ value.IsBelow memory.next ∧ (after.content value).IsNormal) := by
  induction yields with
  | read reads isContainer => exact .inl ⟨reads, rfl⟩
  | empty isContainer =>
    right
    constructor
    · exact memory.not_isBelow_allocate _ (Content.kind_empty _ kind)
    · rw [Memory.content_allocate]
      exact Content.isNormal_empty _ kind
  | cast operand ih =>
    rcases ih with ⟨reads, same⟩ | new
    · exact .inl ⟨reads.cast, same⟩
    · exact .inr new
  | copy source ih =>
    right
    have isCopied := source.isContainer
    rw [RunValue.IsContainer, ← Memory.kind_content, ← Content.kind_copied] at isCopied
    constructor
    · intro below
      exact Memory.not_isBelow_allocate _ _ isCopied (below.mono source.extends.next)
    · rw [Memory.content_allocate]
      exact Content.isNormal_copied _ _

/-- What an expression yields is determined by the container it starts from: in another memory,
where it starts from a related one, it yields a related one. The relation has to be kept by
copying. -/
theorem Yields.transfer (related : Content → Content → Prop)
    (refl : ∀ content, related content content)
    (copied : ∀ unique left right, related left right →
      related (left.copied unique) (right.copied unique))
    (other : Memory)
    (start : ∀ expr value, Reads bindings memory.objects expr value → value.IsContainer kind →
      ∃ otherValue, Reads bindings other.objects expr otherValue ∧ otherValue.IsContainer kind ∧
        related (memory.content value) (other.content otherValue))
    (yields : Yields bindings memory kind expr value after) :
    ∃ otherValue otherAfter, Yields bindings other kind expr otherValue otherAfter ∧
      related (after.content value) (otherAfter.content otherValue) := by
  induction yields with
  | read reads isContainer =>
    obtain ⟨otherValue, otherReads, otherContainer, contents⟩ := start _ _ reads isContainer
    exact ⟨otherValue, other, .read otherReads otherContainer, contents⟩
  | empty isContainer =>
    refine ⟨_, _, .empty isContainer, ?_⟩
    rw [Memory.content_allocate, Memory.content_allocate]
    exact refl _
  | cast operand ih =>
    obtain ⟨otherValue, otherAfter, otherYields, contents⟩ := ih
    exact ⟨otherValue, otherAfter, otherYields.cast, contents⟩
  | copy source ih =>
    obtain ⟨otherValue, otherAfter, otherYields, contents⟩ := ih
    refine ⟨_, _, otherYields.copy, ?_⟩
    rw [Memory.content_allocate, Memory.content_allocate]
    exact copied _ _ _ contents

theorem Yields.of_objects_eq (yields : Yields bindings memory kind expr value after)
    {other : Memory} (same : other.objects = memory.objects) :
    ∃ otherValue otherAfter, Yields bindings other kind expr otherValue otherAfter := by
  obtain ⟨otherValue, otherAfter, otherYields, _⟩ :=
    yields.transfer (fun _ _ => True) (fun _ => trivial) (fun _ _ _ _ => trivial) other
      fun _ value reads isContainer => ⟨value, same ▸ reads, isContainer, trivial⟩
  exact ⟨otherValue, otherAfter, otherYields⟩

theorem Yields.exists_copy (yields : Yields bindings memory kind expr value after)
    (type : JavaType) (rest : List Expr) :
    ∃ stored last, Yields bindings memory kind (.new type (expr :: rest)) stored last ∧
      ¬ stored.IsBelow memory.next ∧
        last.content stored = (after.content value).copied type.isSet := by
  have isCopied := yields.isContainer
  rw [RunValue.IsContainer, ← Memory.kind_content, ← Content.kind_copied type.isSet] at isCopied
  refine ⟨_, _, yields.copy, ?_, Memory.content_allocate ..⟩
  intro below
  exact Memory.not_isBelow_allocate _ _ isCopied (below.mono yields.extends.next)

end

/-! ### What evaluation can give -/

section
variable {bindings : Bindings} {memory middle after : Memory} {kind : ContainerKind} {expr : Expr}
  {type : JavaType} {value inner : RunValue}

theorem Yields.empty_of_construct (isContainer : type.container = some kind)
    (constructed : constructEmpty type memory = (value, after)) :
    Yields bindings memory kind (.new type []) value after := by
  have isNew : Yields bindings memory kind (.new type []) _ _ := .empty isContainer
  rwa [← constructEmpty_eq_allocate isContainer, constructed] at isNew

theorem Yields.copy_of_construct (source : Yields bindings memory kind expr inner middle)
    (constructed : construct type inner middle = .ok (value, after)) (rest : List Expr) :
    Yields bindings memory kind (.new type (expr :: rest)) value after := by
  have isCopy : Yields bindings memory kind (.new type (expr :: rest)) _ _ := .copy source
  rw [construct_eq_allocate source.isContainer] at constructed
  rwa [Except.ok.inj constructed] at isCopy

/-- What is known of an evaluation. A container comes about without effect. An object is read, or
it is new and has no properties. -/
structure Gives (bindings : Bindings) (memory : Memory) (expr : Expr) (value : RunValue)
    (after : Memory) : Prop where
  container : ∀ kind, value.IsContainer kind → Yields bindings memory kind expr value after
  object : ∀ address, value = .object address →
    (Reads bindings memory.objects expr value ∧ after = memory) ∨
      (memory.next < after.next ∧ ∀ property, (after.objects address).properties property = .null)

theorem Reads.gives (reads : Reads bindings memory.objects expr value) :
    Gives bindings memory expr value memory where
  container _ isContainer := .read reads isContainer
  object _ _ := .inl ⟨reads, rfl⟩

theorem Yields.gives (yields : Yields bindings memory kind expr value after) :
    Gives bindings memory expr value after where
  container other isContainer := by
    obtain rfl : kind = other := Option.some.inj (yields.isContainer.symm.trans isContainer)
    exact yields
  object address same := absurd same (yields.isContainer.ne_object address)

theorem gives_of_neither (noContainer : value.containerKind? = none)
    (noObject : ∀ address, value ≠ .object address) :
    Gives bindings memory expr value after where
  container _ isContainer :=
    absurd (noContainer.symm.trans isContainer) (Option.some_ne_none _).symm
  object address same := absurd same (noObject address)

theorem gives_of_newObject : Gives bindings memory expr memory.newObject.1 memory.newObject.2 where
  container _ isContainer := absurd isContainer (Option.some_ne_none _).symm
  object address same := by
    cases same
    exact .inr ⟨Nat.lt_succ_self _, fun property => by simp [Memory.newObject, updated]⟩

theorem Gives.cast (gives : Gives bindings memory expr value after) :
    Gives bindings memory (.cast type expr) value after where
  container kind isContainer := (gives.container kind isContainer).cast
  object address same := (gives.object address same).imp_left fun ⟨reads, same⟩ =>
    ⟨reads.cast, same⟩

theorem Gives.construct (gives : Gives bindings memory expr inner middle)
    (constructed : construct type inner middle = .ok (value, after)) (rest : List Expr) :
    Gives bindings memory (.new type (expr :: rest)) value after := by
  cases inner with
  | null => cases constructed
  | bool | text =>
    cases constructed
    exact gives_of_neither rfl nofun
  | sequence address =>
    exact ((gives.container .sequence rfl).copy_of_construct constructed rest).gives
  | map address => exact ((gives.container .map rfl).copy_of_construct constructed rest).gives
  | object address =>
    cases constructed
    refine ⟨fun _ isContainer => (nomatch isContainer), fun other same => ?_⟩
    exact (gives.object other same).imp_left fun ⟨reads, same⟩ => ⟨reads.same, same⟩

theorem evalAll_eq_nil {exprs : List Expr}
    (evaluates : evalAll bindings exprs memory = .ok ([], after)) :
    exprs = [] ∧ after = memory := by
  cases exprs with
  | nil =>
    cases evaluates
    exact ⟨rfl, rfl⟩
  | cons first rest =>
    rw [evalAll] at evaluates
    obtain ⟨_, _, evaluates⟩ := exists_of_bind_eq_ok evaluates
    obtain ⟨_, _, evaluates⟩ := exists_of_bind_eq_ok evaluates
    cases evaluates

theorem gives_of_eval (evaluates : expr.eval bindings memory = .ok (value, after)) :
    Gives bindings memory expr value after := by
  induction expr generalizing memory after value with
  | var name =>
    simp only [Expr.eval] at evaluates
    split at evaluates
    next bound =>
      cases evaluates
      exact Reads.gives (.var bound)
    next => cases evaluates
  | null =>
    cases evaluates
    exact Reads.gives .null
  | raw text =>
    simp only [Expr.eval] at evaluates
    split at evaluates
    next bound =>
      cases evaluates
      exact Reads.gives (.raw bound)
    next => cases evaluates
  | invoke method arguments => cases evaluates
  | call receiver method arguments receiverIh argumentsIh =>
    by_cases isNull : value = .null
    · subst isNull
      exact gives_of_neither rfl nofun
    rw [Expr.eval] at evaluates
    obtain ⟨⟨target, middle⟩, receiverEval, evaluates⟩ := exists_of_bind_eq_ok evaluates
    obtain ⟨⟨values, last⟩, argumentsEval, called⟩ := exists_of_bind_eq_ok evaluates
    obtain ⟨slot, rfl, rfl, isRead, rfl, rfl⟩ := callMethod_ne_null called isNull
    obtain ⟨rfl, rfl⟩ := evalAll_eq_nil argumentsEval
    -- A new object has nothing but null to read.
    rcases (receiverIh receiverEval).object _ rfl with ⟨reads, rfl⟩ | ⟨_, noProperties⟩
    · exact Reads.gives (.get reads isRead.2 isRead.1)
    · exact absurd (noProperties slot.property) isNull
  | new type arguments argumentsIh =>
    rw [Expr.eval.eq_def] at evaluates
    cases arguments with
    | cons source rest =>
      obtain ⟨⟨inner, middle⟩, sourceEval, constructed⟩ := exists_of_bind_eq_ok evaluates
      exact (argumentsIh source List.mem_cons_self sourceEval).construct constructed rest
    | nil =>
      have constructed := Except.ok.inj evaluates
      cases container : type.container with
      | some kind => exact (Yields.empty_of_construct container constructed).gives
      | none =>
        unfold constructEmpty at constructed
        rw [container] at constructed
        cases constructed
        exact gives_of_newObject
  | cast type operand ih =>
    rw [Expr.eval] at evaluates
    exact (ih evaluates).cast
  | notNull operand ih =>
    rw [Expr.eval] at evaluates
    obtain ⟨_, _, evaluates⟩ := exists_of_bind_eq_ok evaluates
    cases evaluates
    exact gives_of_neither rfl nofun

theorem yields_of_eval (evaluates : expr.eval bindings memory = .ok (value, after))
    (isContainer : value.IsContainer kind) : Yields bindings memory kind expr value after :=
  (gives_of_eval evaluates).container kind isContainer

theorem Yields.bind {state : RunState} {name : String} (notUsed : name ∉ expr.usedNames)
    (yields : Yields state.bindings memory kind expr value after) (bound : RunValue) :
    Yields (state.bind name bound).bindings memory kind expr value after :=
  yields_of_eval ((eval_bind notUsed ..).trans yields.eval) yields.isContainer

theorem reads_of_eval {address : Nat}
    (evaluates : expr.eval bindings memory = .ok (.object address, memory)) :
    Reads bindings memory.objects expr (.object address) := by
  rcases (gives_of_eval evaluates).object address rfl with ⟨reads, _⟩ | ⟨grown, _⟩
  · exact reads
  · exact absurd grown (Nat.lt_irrefl _)

end

end Expr

end PropertyAssignment
