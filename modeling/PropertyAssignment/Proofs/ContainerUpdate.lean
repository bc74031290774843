import PropertyAssignment.Proofs.ContainerEvaluation
import PropertyAssignment.Proofs.NameHygiene

/-!
# Writing a container property

What the code of the container nodes does to a target whose getter and setter go to one slot. Code
that merges clears the container of the slot before the value is evaluated, and fills it then
(`execAll_merge_iff`). Code that sets evaluates the value and stores it (`execAll_set`).
-/

namespace PropertyAssignment

/-- The slot is where the target keeps the property: the target expression gives the slot's object
without effect, the accessors that the property has read and write the slot, and it holds null or
a container of the property's kind. -/
structure Slot.Backs (slot : Slot) (property : Property) (kind : ContainerKind) (target : Expr)
    (state : RunState) : Prop where
  container : property.type.container = some kind
  target : target.eval state.bindings state.memory = .ok (.object slot.address, state.memory)
  getter : ∀ getter ∈ property.getter?, slot.IsReadBy state.memory getter
  setter : ∀ setter ∈ property.setter?, slot.IsWrittenBy state.memory setter
  holds : slot.value state.memory = .null ∨ (slot.value state.memory).IsContainer kind

namespace Slot

theorem value_of_objects_eq {slot : Slot} {memory other : Memory}
    (same : other.objects = memory.objects) : slot.value other = slot.value memory := by
  rw [value, value, same]

theorem IsReadBy.of_objects_eq {slot : Slot} {memory other : Memory} {getter : String}
    (same : other.objects = memory.objects) (reads : slot.IsReadBy memory getter) :
    slot.IsReadBy other getter := by
  rwa [IsReadBy, same]

theorem IsWrittenBy.of_objects_eq {slot : Slot} {memory other : Memory} {setter : String}
    (same : other.objects = memory.objects) (writes : slot.IsWrittenBy memory setter) :
    slot.IsWrittenBy other setter := by
  rwa [IsWrittenBy, same]

end Slot

@[simp] theorem RunState.var_bind_self (state : RunState) (name : String)
    (value : RunValue) : (state.bind name value).bindings.var name = some value := by
  simp [RunState.bind, updated]

theorem RunState.var_bind_of_ne {state : RunState} {name other : String}
    (different : other ≠ name) (value : RunValue) :
    (state.bind name value).bindings.var other = state.bindings.var other :=
  if_neg different

namespace Slot.Backs

variable {state : RunState} {slot : Slot} {property : Property} {kind : ContainerKind}
  {target : Expr}

theorem isContainer (backs : slot.Backs property kind target state) :
    property.type.isContainer = true :=
  congrArg Option.isSome backs.container

theorem reads (backs : slot.Backs property kind target state) :
    target.Reads state.bindings state.memory.objects (.object slot.address) :=
  Expr.reads_of_eval backs.target

theorem bind (backs : slot.Backs property kind target state) {name : String}
    (notUsed : name ∉ target.usedNames) (bound : RunValue) :
    slot.Backs property kind target (state.bind name bound) where
  container := backs.container
  target := (Expr.eval_bind notUsed ..).trans backs.target
  getter := backs.getter
  setter := backs.setter
  holds := backs.holds

end Slot.Backs

/-- The code that merges the value into the target's container, and runs the other body where there
is none. -/
def ContainerRead.merge (read : ContainerRead) (target value : Expr) (elseBody : List Stmt) :
    List Stmt :=
  [read.declaration target,
    .branch (.notNull read.localVar) [read.clear, read.fill value] elseBody]

/-! ### Runs of the nodes' code -/

section Runs
variable {state final : RunState} {slot : Slot} {kind : ContainerKind} {target value : Expr}
  {read : ContainerRead}

/-- The container of the target is read into the local variable, and the code goes on by whether
there is one. -/
theorem execAll_read (read : ContainerRead) (target : Expr) (thenBody elseBody : List Stmt)
    (state : RunState) :
    Stmt.execAll [read.declaration target, .branch (.notNull read.localVar) thenBody elseBody]
        state =
      (target.get read.getter).eval state.bindings state.memory >>= fun held =>
        Stmt.execAll (if held.1 = .null then elseBody else thenBody)
          (RunState.bind ⟨state.bindings, held.2⟩ read.localName held.1) := by
  rw [Stmt.execAll, ContainerRead.declaration, Stmt.exec]
  cases (target.get read.getter).eval state.bindings state.memory with
  | error error => rfl
  | ok result =>
    obtain ⟨held, memory⟩ := result
    simp only [ok_bind, pure_bind, Stmt.execAll_singleton, Stmt.exec, ContainerRead.localVar,
      Expr.eval, RunState.var_bind_self]
    by_cases isNull : held = .null <;> simp [isNull]

theorem Slot.eval_getter {getter : String} (isTarget : target.eval state.bindings state.memory =
      .ok (.object slot.address, state.memory))
    (isRead : slot.IsReadBy state.memory getter) :
    (target.get getter).eval state.bindings state.memory =
      .ok (slot.value state.memory, state.memory) := by
  simp only [Expr.get, Expr.eval, isTarget, Expr.evalAll, ok_bind, Slot.callMethod_getter isRead]

theorem execAll_merge (isTarget : target.eval state.bindings state.memory =
      .ok (.object slot.address, state.memory))
    (isRead : slot.IsReadBy state.memory read.getter) (value : Expr) (elseBody : List Stmt) :
    Stmt.execAll (read.merge target value elseBody) state =
      if slot.value state.memory = .null then
        Stmt.execAll elseBody (state.bind read.localName (slot.value state.memory))
      else Stmt.execAll [read.clear, read.fill value]
        (state.bind read.localName (slot.value state.memory)) := by
  rw [ContainerRead.merge, execAll_read, Slot.eval_getter isTarget isRead, ok_bind]
  by_cases isNull : slot.value state.memory = .null
  · rw [if_pos isNull, if_pos isNull]
  · rw [if_neg isNull, if_neg isNull]

theorem exec_clear {container : RunValue}
    (isLocal : state.bindings.var read.localName = some container)
    (isContainer : container.IsContainer kind) :
    read.clear.exec state = .ok ⟨state.bindings, state.memory.clear container⟩ := by
  simp only [ContainerRead.clear, ContainerRead.localVar, Expr.get, Stmt.exec, Expr.eval, isLocal,
    Expr.evalAll, ok_bind, callMethod_clear isContainer]
  rfl

theorem exec_fill_iff (state : RunState) {container : RunValue}
    (isLocal : state.bindings.var read.localName = some container)
    (isContainer : container.IsContainer kind) (hasKind : read.type.container = some kind) :
    (read.fill value).exec state = .ok final ↔
      ∃ source after, value.eval state.bindings state.memory = .ok (source, after) ∧
        source.IsContainer kind ∧ final = ⟨state.bindings, after.fill container source⟩ := by
  have method : read.bulkInsert = kind.bulkInsert := by
    simp [ContainerRead.bulkInsert, JavaType.bulkInsert?, hasKind]
  simp only [ContainerRead.fill, ContainerRead.localVar, Stmt.exec, Expr.eval, isLocal,
    Expr.evalAll, method, ok_bind]
  constructor
  · intro succeeds
    obtain ⟨⟨result, filled⟩, called, ends⟩ := exists_of_bind_eq_ok succeeds
    obtain ⟨⟨values, after⟩, listed, called⟩ := exists_of_bind_eq_ok called
    obtain ⟨⟨source, last⟩, evaluated, listed⟩ := exists_of_bind_eq_ok listed
    cases listed
    have isSource : source.IsContainer kind :=
      isContainer_of_callMethod_bulkInsert isContainer called
    rw [callMethod_bulkInsert isContainer isSource] at called
    cases called
    cases ends
    exact ⟨source, last, evaluated, isSource, rfl⟩
  · rintro ⟨source, after, evaluated, isSource, rfl⟩
    rw [evaluated, ok_bind]
    simp only [pure_bind, callMethod_bulkInsert isContainer isSource, ok_bind]
    rfl

/-- Merging succeeds exactly if the value yields a container once the one in the slot is cleared,
and then fills that one. -/
theorem execAll_merge_iff (read : ContainerRead)
    (isTarget : target.eval state.bindings state.memory =
      .ok (.object slot.address, state.memory))
    (isRead : slot.IsReadBy state.memory read.getter)
    (isContainer : (slot.value state.memory).IsContainer kind)
    (hasKind : read.type.container = some kind) (notUsed : read.localName ∉ value.usedNames)
    (elseBody : List Stmt) :
    Stmt.execAll (read.merge target value elseBody) state = .ok final ↔
      ∃ source after,
        value.Yields state.bindings (state.memory.clear (slot.value state.memory)) kind source
          after ∧
        final = ⟨(state.bind read.localName (slot.value state.memory)).bindings,
          after.fill (slot.value state.memory) source⟩ := by
  have isLocal := state.var_bind_self read.localName (slot.value state.memory)
  rw [execAll_merge isTarget isRead, if_neg isContainer.ne_null, Stmt.execAll,
    exec_clear isLocal isContainer, ok_bind, Stmt.execAll_singleton]
  refine Iff.trans (exec_fill_iff _ ?_ isContainer hasKind) ?_
  · exact isLocal
  simp only [Expr.eval_bind notUsed]
  constructor
  · rintro ⟨source, after, evaluated, isSource, rfl⟩
    exact ⟨source, after, Expr.yields_of_eval evaluated isSource, rfl⟩
  · rintro ⟨source, after, yields, rfl⟩
    exact ⟨source, after, yields.eval, yields.isContainer, rfl⟩

theorem execAll_set {setter : String} {stored : RunValue} {after : Memory}
    (isTarget : target.eval state.bindings state.memory =
      .ok (.object slot.address, state.memory))
    (isWritten : slot.IsWrittenBy state.memory setter)
    (evaluated : value.eval state.bindings state.memory = .ok (stored, after))
    (sameObjects : after.objects = state.memory.objects) :
    Stmt.execAll [.expression (.call target setter [value])] state =
      .ok ⟨state.bindings, slot.store stored after⟩ := by
  have stores := Slot.callMethod_setter (isWritten.of_objects_eq sameObjects) stored
  rw [Stmt.execAll_singleton]
  simp only [Stmt.exec, Expr.eval, isTarget, Expr.evalAll, ok_bind, evaluated, pure_bind, stores]
  rfl

theorem exists_eval_of_execAll_set {setter : String}
    (isTarget : target.eval state.bindings state.memory =
      .ok (.object slot.address, state.memory))
    (succeeds : Stmt.execAll [.expression (.call target setter [value])] state = .ok final) :
    ∃ stored after, value.eval state.bindings state.memory = .ok (stored, after) := by
  rw [Stmt.execAll_singleton] at succeeds
  simp only [Stmt.exec, Expr.eval, isTarget, Expr.evalAll, ok_bind] at succeeds
  obtain ⟨_, called, _⟩ := exists_of_bind_eq_ok succeeds
  obtain ⟨_, evaluated, _⟩ := exists_of_bind_eq_ok called
  obtain ⟨⟨stored, after⟩, evaluated, _⟩ := exists_of_bind_eq_ok evaluated
  exact ⟨stored, after, evaluated⟩

theorem execAll_storeAbsent (read : ContainerRead) {setter : String} {stored : RunValue}
    {after : Memory}
    (isTarget : target.eval state.bindings state.memory =
      .ok (.object slot.address, state.memory))
    (isRead : slot.IsReadBy state.memory read.getter)
    (isNull : slot.value state.memory = .null) (isWritten : slot.IsWrittenBy state.memory setter)
    (targetNotUsed : read.localName ∉ target.usedNames) (notUsed : read.localName ∉ value.usedNames)
    (evaluated : value.eval state.bindings state.memory = .ok (stored, after))
    (sameObjects : after.objects = state.memory.objects) (merged : Expr) :
    Stmt.execAll (read.merge target merged [.expression (.call target setter [value])]) state =
      .ok ⟨(state.bind read.localName .null).bindings, slot.store stored after⟩ := by
  rw [execAll_merge isTarget isRead, if_pos isNull, isNull]
  refine execAll_set ?_ ?_ ?_ ?_
  · exact (Expr.eval_bind targetNotUsed ..).trans isTarget
  · exact isWritten
  · exact (Expr.eval_bind notUsed ..).trans evaluated
  · exact sameObjects

end Runs

/-! ### Two beans with tags -/

namespace Tagged

def setOfTexts : JavaType :=
  .generic "java.util.Set" [.declared "java.lang.String"]

def property : Property where
  name := "tags"
  type := setOfTexts
  setter := some "setTags"
  getter := some "getTags"

def slot : Slot :=
  ⟨0, "tags"⟩

/-- A target and a source with tags. Those of the source are a set of two texts. -/
def state (targetTags : RunValue) : RunState where
  bindings :=
    ⟨fun name => if name = "target" then some (.object 0)
      else if name = "source" then some (.object 1) else none, fun _ => none⟩
  memory :=
    { sequences := fun address => ⟨true, if address = 2 then ["a"] else ["b", "c"]⟩
      maps := fun _ _ => none
      objects := fun address =>
        ⟨fun property => if property = "tags" then
          if address = 0 then targetTags else .sequence 3 else .null, fun _ => none⟩
      next := 4 }

def value (kind : ValueKind) : Assignment :=
  .source ⟨.get (.var "source") "getTags", kind, .empty⟩

def scope : Scope :=
  .ofList ["source", "target"]

theorem accessed : accessedProperty "get" "getTags" = some "tags" ∧
    accessedProperty "set" "setTags" = some "tags" := by
  decide +kernel

theorem select_eq (kind : ValueKind) :
    WriteStrategy.select property .forUpdate (value kind).kind =
      .ok (.mergeOrReplace "setTags" "getTags") :=
  rfl

theorem inScope (kind : ValueKind) : (Expr.var "target").IsBoundIn scope.names ∧
    (value kind).valueExpr.IsBoundIn scope.names := by
  cases kind <;> decide +kernel

section
variable {targetTags : RunValue}

theorem wellFormed (isBelow : targetTags.IsBelow 4) : (state targetTags).WellFormed where
  bound name bound isBound := by
    simp only [state] at isBound ⊢
    split at isBound
    · cases isBound
      decide
    · split at isBound
      · cases isBound
        decide
      · cases isBound
  raw text bound isBound := nomatch isBound
  properties address _ property := by
    simp only [state]
    split
    · split
      · exact isBelow
      · decide
    · trivial

theorem backs (fits : targetTags = .null ∨ targetTags.IsContainer .sequence) :
    slot.Backs property .sequence (.var "target") (state targetTags) where
  container := rfl
  target := rfl
  getter getter isGetter := by
    have hasGetter : property.getter? = some "getTags" := rfl
    obtain rfl := Option.some.inj (hasGetter.symm.trans isGetter)
    exact ⟨accessed.1, rfl⟩
  setter setter isSetter := by
    have hasSetter : property.setter? = some "setTags" := rfl
    obtain rfl := Option.some.inj (hasSetter.symm.trans isSetter)
    exact ⟨accessed.2, rfl⟩
  holds := fits

theorem value_reads (targetTags : RunValue) (kind : ValueKind) :
    (value kind).valueExpr.Reads (state targetTags).bindings (state targetTags).memory.objects
      (.sequence 3) := by
  have isSource : Expr.Reads (state targetTags).bindings (state targetTags).memory.objects
      (.var "source") (.object 1) := .var rfl
  have reads := Expr.Reads.get isSource rfl accessed.1
  exact reads

end

end Tagged

/-! ### What one run writes -/

/-- The memories differ at most in what the container holds. -/
structure Memory.AgreesApartFrom (memory : Memory) (container : RunValue) (other : Memory) :
    Prop where
  objects : other.objects = memory.objects
  next : other.next = memory.next
  content : ∀ value, value ≠ container → other.content value = memory.content value

theorem Memory.agreesApartFrom_clear (memory : Memory) (container : RunValue) :
    memory.AgreesApartFrom container (memory.clear container) where
  objects := memory.objects_clear container
  next := memory.next_clear container
  content _ different := memory.content_clear_of_ne container different

namespace Slot

/-- The container that the slot held now holds the given content and is still in its place. -/
structure IsRefilled (slot : Slot) (source : Content) (before after : Memory) : Prop where
  objects : after.objects = before.objects
  content : after.content (slot.value before) =
    source.copied (before.content (slot.value before)).isUnique
  others : ∀ other : RunValue, other.IsBelow before.next → other ≠ slot.value before →
    after.content other = before.content other

/-- The slot holds a new container with the given content, and nothing else has changed. -/
structure IsReplaced (slot : Slot) (kind : ContainerKind) (content : Content)
    (before after : Memory) : Prop where
  container : (slot.value after).IsContainer kind
  isNew : ¬ (slot.value after).IsBelow before.next
  objects : after.objects = (slot.store (slot.value after) before).objects
  content : after.content (slot.value after) = content
  others : ∀ other : RunValue, other.IsBelow before.next →
    after.content other = before.content other

end Slot

section
variable {state : RunState} {slot : Slot} {property : Property} {kind : ContainerKind}
  {target : Expr}

theorem Slot.Backs.value_isBelow (backs : slot.Backs property kind target state)
    (wellFormed : state.WellFormed) : (slot.value state.memory).IsBelow state.memory.next :=
  wellFormed.properties _ ((Expr.reads_of_eval backs.target).isBelow wellFormed) _

theorem isRefilled_of_yields {value : Expr} {source : RunValue} {after : Memory}
    (isContainer : (slot.value state.memory).IsContainer kind)
    (isBelow : (slot.value state.memory).IsBelow state.memory.next)
    (yields : value.Yields state.bindings (state.memory.clear (slot.value state.memory)) kind source
      after) :
    slot.IsRefilled (after.content source) state.memory
      (after.fill (slot.value state.memory) source) := by
  have grown := yields.extends
  have kept (other : RunValue) (below : other.IsBelow state.memory.next) : after.content other =
      (state.memory.clear (slot.value state.memory)).content other :=
    grown.content other (by rwa [Memory.next_clear])
  have cleared : after.content (slot.value state.memory) =
      (state.memory.content (slot.value state.memory)).cleared := by
    rw [kept _ isBelow, Memory.content_clear_self]
  have sameKind : (state.memory.content (slot.value state.memory)).kind? =
      (after.content source).kind? := by
    rw [Memory.kind_content, Memory.kind_content, isContainer, yields.isContainer]
  constructor
  · rw [Memory.objects_fill, grown.objects, Memory.objects_clear]
  · rw [Memory.content_fill_self, cleared, Content.filled_cleared sameKind]
  · intro other below different
    rw [Memory.content_fill_of_ne _ _ _ different, kept _ below,
      Memory.content_clear_of_ne _ _ different]

theorem isReplaced_of_yields {value : Expr} {stored : RunValue} {after : Memory}
    (yields : value.Yields state.bindings state.memory kind stored after)
    (isNew : ¬ stored.IsBelow state.memory.next) :
    slot.IsReplaced kind (after.content stored) state.memory (slot.store stored after) := by
  have grown := yields.extends
  constructor
  · rw [Slot.value_store]
    exact yields.isContainer
  · rwa [Slot.value_store]
  · rw [Slot.value_store]
    exact slot.objects_store_congr stored grown.objects
  · rw [Slot.value_store, Slot.content_store]
  · intro other below
    rw [Slot.content_store, grown.content _ below]

end

namespace Assignment

/-- The value that code stores in a slot without container: a copy of the source's own value, and
any other value itself. -/
def storedExpr (type : JavaType) (source : Assignment) : Expr :=
  if source.kind.isDirect then (copyOf type source).expr else source.valueExpr

theorem usedNames_storedExpr (type : JavaType) (source : Assignment) :
    (storedExpr type source).usedNames = source.valueExpr.usedNames := by
  unfold storedExpr
  split
  · simp [copyOf, Expr.usedNames, Expr.usedNamesOfAll]
  · rfl

theorem lower_node_mergeOrReplace (setter getter : String) (type : JavaType) (options : Options)
    (source : Assignment) (name : String) (target : Expr) :
    ((WriteStrategy.mergeOrReplace setter getter).node type options source name).lower target =
      ContainerRead.merge ⟨getter, type, name⟩ target source.valueExpr
        [.expression (.call target setter [storedExpr type source])] := by
  unfold storedExpr
  split
  next direct => simp [WriteStrategy.node, lower, replacementExpr, valueExpr, direct,
    ContainerRead.merge]
  next shared => simp [WriteStrategy.node, lower, replacementExpr, shared, ContainerRead.merge]

theorem lower_node_set (setter : String) (type : JavaType) (options : Options)
    (source : Assignment) (name : String) (target : Expr) :
    ((WriteStrategy.set setter source.kind.isDirect).node type options source name).lower target =
      [.expression (.call target setter [storedExpr type source])] := by
  unfold storedExpr
  split
  next direct => simp [WriteStrategy.node, lower, valueExpr, direct]
  next shared => simp [WriteStrategy.node, lower, shared]

theorem lower_node_mergeInto {options : Options} (updates : options.updateExisting = true)
    (getter : String) (type : JavaType) (source : Assignment) (name : String) (target : Expr) :
    ((WriteStrategy.mergeInto getter).node type options source name).lower target =
      ContainerRead.merge ⟨getter, type, name⟩ target source.valueExpr [] := by
  simp [WriteStrategy.node, lower, updates, ContainerRead.merge]

/-- A build makes the strategy's node, under the presence check. The node's variable, if it has one,
is new to the scope. -/
theorem exists_built_of_chosen {options : Options} {property : Property} {source : Assignment}
    {strategy : WriteStrategy}
    (chosen : WriteStrategy.select property options source.kind = .ok strategy)
    (presence : Option Expr) (scope : Scope) :
    ∃ name, (strategy.variableType? property.type ≠ none → name ∉ scope.names) ∧
      ((build options property source presence).run.run scope).1 =
        .ok (underCheck options source.kind property.type
          (strategy.node property.type options source name) presence) := by
  refine ⟨_, ?_, congrArg Prod.fst (build_run chosen presence scope)⟩
  intro hasVariable
  cases variableType : strategy.variableType? property.type with
  | none => exact absurd variableType hasVariable
  | some type => exact scope.allocateFor_not_mem type

theorem exists_node_of_chosen {options : Options} {property : Property} {source : Assignment}
    {strategy : WriteStrategy}
    (chosen : WriteStrategy.select property options source.kind = .ok strategy) (scope : Scope) :
    ∃ name, (strategy.variableType? property.type ≠ none → name ∉ scope.names) ∧
      ((build options property source none).run.run scope).1 =
        .ok (strategy.node property.type options source name) :=
  exists_built_of_chosen chosen none scope

/-- Where merging or replacing is chosen for the source's own value, one run of the code writes
exactly the elements or entries of that value. If the slot holds a container, this container gets
them, as what it holds from now on. If it holds null, it gets a new container of the
implementation of the property's type. In use before and changed is nothing else. The value must
not depend on what the container in the slot holds. -/
theorem mergeOrReplace_writes_value {options : Options} {property : Property}
    {source : Assignment} {setter getter : String} {scope : Scope} {target : Expr}
    {state : RunState} {slot : Slot} {kind : ContainerKind} {value : RunValue} {after : Memory}
    (chosen : WriteStrategy.select property options source.kind =
      .ok (.mergeOrReplace setter getter))
    (direct : source.kind = .direct)
    (targetInScope : target.IsBoundIn scope.names)
    (valueInScope : source.valueExpr.IsBoundIn scope.names)
    (wellFormed : state.WellFormed) (backs : slot.Backs property kind target state)
    (evaluates : source.valueExpr.eval state.bindings state.memory = .ok (value, after))
    (isContainer : value.IsContainer kind)
    (independent : ∀ other, state.memory.AgreesApartFrom (slot.value state.memory) other →
      ∀ otherValue otherAfter,
        source.valueExpr.eval state.bindings other = .ok (otherValue, otherAfter) →
          otherAfter.content otherValue = after.content value) :
    ∃ assignment, ((build options property source none).run.run scope).1 = .ok assignment ∧
      ∃ final, Stmt.execAll (assignment.lower target) state = .ok final ∧
        final.bindings.raw = state.bindings.raw ∧
        (∀ name ∈ scope.names, final.bindings.var name = state.bindings.var name) ∧
        if slot.value state.memory = .null then
          slot.IsReplaced kind
            ((after.content value).copied property.type.implementation.isSet)
            state.memory final.memory
        else slot.IsRefilled (after.content value) state.memory final.memory := by
  obtain ⟨_, hasSetter, hasGetter, _⟩ := WriteStrategy.select_supports chosen
  obtain ⟨name, isNew, built⟩ := exists_node_of_chosen chosen scope
  have free : name ∉ scope.names := isNew (Option.some_ne_none _)
  have isRead := backs.getter getter hasGetter
  have notUsed : name ∉ source.valueExpr.usedNames := fun used => free (valueInScope name used)
  have yields := Expr.yields_of_eval evaluates isContainer
  have bound (value : RunValue) (used : String) (inScope : used ∈ scope.names) :
      (state.bind name value).bindings.var used = state.bindings.var used := by
    refine RunState.var_bind_of_ne ?_ value
    rintro rfl
    exact free inScope
  refine ⟨_, built, ?_⟩
  rw [lower_node_mergeOrReplace]
  rcases backs.holds with isNull | isThere
  · obtain ⟨stored, last, copies, fresh, sameContent⟩ :=
      yields.exists_copy property.type.implementation []
    have isStored : (storedExpr property.type source).Yields state.bindings state.memory kind
        stored last := by
      rwa [storedExpr, direct]
    have replaces := execAll_storeAbsent ⟨getter, property.type, name⟩ backs.target isRead isNull
      (backs.setter setter hasSetter) (fun used => free (targetInScope name used))
      (by rwa [usedNames_storedExpr]) isStored.eval isStored.extends.objects
    refine ⟨_, replaces _, rfl, bound .null, ?_⟩
    rw [if_pos isNull, ← sameContent]
    exact isReplaced_of_yields isStored fresh
  · -- The value is evaluated with the container cleared; it holds there what it held at first.
    obtain ⟨cleared, clearedAfter, clearedYields⟩ :=
      yields.of_objects_eq (Memory.objects_clear _ (slot.value state.memory))
    have sameContent := independent _ (state.memory.agreesApartFrom_clear _) _ _ clearedYields.eval
    have merges := (execAll_merge_iff ⟨getter, property.type, name⟩ backs.target isRead isThere
      backs.container notUsed [.expression (.call target setter [storedExpr property.type source])]
      ).mpr ⟨cleared, clearedAfter, clearedYields, rfl⟩
    refine ⟨_, merges, rfl, bound _, ?_⟩
    rw [if_neg isThere.ne_null, ← sameContent]
    exact isRefilled_of_yields isThere (backs.value_isBelow wellFormed) clearedYields

/-- The target's tags are replaced by those of the source, in their place. -/
theorem mergeOrReplace_writes_tags :
    ∃ assignment final,
      ((build .forUpdate Tagged.property (Tagged.value .direct) none).run.run Tagged.scope).1 =
        .ok assignment ∧
      Stmt.execAll (assignment.lower (.var "target")) (Tagged.state (.sequence 2)) = .ok final ∧
      final.memory.content (.sequence 2) = .sequence ⟨true, ["b", "c"]⟩ := by
  have reads := Tagged.value_reads (.sequence 2) .direct
  obtain ⟨assignment, built, final, runs, _, _, refilled⟩ :=
    mergeOrReplace_writes_value (Tagged.select_eq .direct) rfl (Tagged.inScope .direct).1
      (Tagged.inScope .direct).2 (Tagged.wellFormed (by decide)) (Tagged.backs (.inr (by decide)))
      reads.eval (by decide) (by
        intro other agrees otherValue otherAfter evaluated
        have readsOther := reads
        rw [← agrees.objects] at readsOther
        cases evaluated.symm.trans readsOther.eval
        exact agrees.content _ (by decide))
  have contents := Slot.IsRefilled.content refilled
  have texts : (["b", "c"] : List String).eraseDups = ["b", "c"] := by decide +kernel
  refine ⟨assignment, final, built, runs, contents.trans ?_⟩
  exact congrArg (fun items => Content.sequence ⟨true, items⟩) texts

end Assignment

end PropertyAssignment
