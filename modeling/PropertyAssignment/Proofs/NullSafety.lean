import PropertyAssignment.Proofs.ContainerUpdate
import PropertyAssignment.Proofs.RepeatedEvaluation

/-!
# Null safety of guarded containers

A container property is assigned under the check that its value is not null. Where the check fails
nothing else is run. Where it holds the value is evaluated a second time, once the container of the
target was read and perhaps cleared. Neither changes an object, so the value is not null then
either (`Expr.isStable_of_eval`), and null is neither copied nor filled in nor called.
-/

namespace PropertyAssignment

/-! ### Values that stay -/

/-- In every memory with the objects of the given one, the expression gives something other than
null and leaves to the objects their adders. -/
def Expr.IsStable (bindings : Bindings) (memory : Memory) (expr : Expr) : Prop :=
  ∀ other, memory.KeepsObjects other →
    ∃ given last, expr.eval bindings other = .ok (given, last) ∧ given ≠ .null ∧
      ∀ address < memory.next, (last.objects address).adders = (memory.objects address).adders

namespace Expr

variable {bindings : Bindings} {memory other after : Memory} {expr : Expr} {value : RunValue}

theorem isStable_of_eval (wellFormed : RunState.WellFormed ⟨bindings, memory⟩)
    (evaluates : expr.eval bindings memory = .ok (value, after))
    (quiet : memory.KeepsObjects after) (nonNull : value ≠ .null) :
    expr.IsStable bindings memory := by
  intro other unchanged
  obtain ⟨again, last, evaluated, sameNull, adders⟩ :=
    eval_again wellFormed evaluates quiet unchanged
  exact ⟨again, last, evaluated, mt sameNull.mp nonNull, adders⟩

theorem exists_construct (type : JavaType) (nonNull : value ≠ .null) (memory : Memory) :
    ∃ result after, construct type value memory = .ok (result, after) ∧ result ≠ .null ∧
      after.objects = memory.objects := by
  cases value with
  | null => exact absurd rfl nonNull
  | bool | text | sequence | map | object => exact ⟨_, _, rfl, (by rintro ⟨⟩), rfl⟩

theorem IsStable.new (stable : expr.IsStable bindings memory) (type : JavaType)
    (rest : List Expr) : (Expr.new type (expr :: rest)).IsStable bindings memory := by
  intro other unchanged
  obtain ⟨given, last, evaluated, nonNull, adders⟩ := stable other unchanged
  obtain ⟨copy, after, constructed, copyNonNull, sameObjects⟩ := exists_construct type nonNull last
  refine ⟨copy, after, ?_, copyNonNull, ?_⟩
  · simp only [Expr.eval, evaluated]
    exact constructed
  · rwa [sameObjects]

theorem IsStable.bind {state : RunState} {name : String} (notUsed : name ∉ expr.usedNames)
    (stable : expr.IsStable state.bindings memory) (bound : RunValue) :
    expr.IsStable (state.bind name bound).bindings memory := by
  intro other unchanged
  rw [eval_bind notUsed]
  exact stable other unchanged

theorem Reads.of_keepsObjects (wellFormed : RunState.WellFormed ⟨bindings, memory⟩)
    (unchanged : memory.KeepsObjects other) (reads : Reads bindings memory.objects expr value) :
    Reads bindings other.objects expr value := by
  generalize same : memory.objects = objects at reads
  induction reads with
  | var bound => exact .var bound
  | null => exact .null
  | raw bound => exact .raw bound
  | @get receiver method property address isObject noAdder accessed ih =>
    subst same
    have unchangedObject := unchanged.objects address (isObject.isBelow wellFormed)
    rw [← unchangedObject] at noAdder ⊢
    exact .get ih noAdder accessed
  | cast operand ih => exact ih.cast
  | same source ih => exact ih.same

end Expr

theorem Slot.Backs.of_keepsObjects {slot : Slot} {property : Property} {kind : ContainerKind}
    {target : Expr} {state : RunState} {memory : Memory} (wellFormed : state.WellFormed)
    (unchanged : state.memory.KeepsObjects memory)
    (backs : slot.Backs property kind target state) :
    slot.Backs property kind target ⟨state.bindings, memory⟩ := by
  have sameObject := unchanged.objects slot.address (backs.reads.isBelow wellFormed)
  have sameValue : slot.value memory = slot.value state.memory := by
    rw [Slot.value, Slot.value, sameObject]
  constructor
  · exact backs.container
  · exact (backs.reads.of_keepsObjects wellFormed unchanged).eval
  · intro getter isGetter
    rw [Slot.IsReadBy, sameObject]
    exact backs.getter getter isGetter
  · intro setter isSetter
    rw [Slot.IsWrittenBy, sameObject]
    exact backs.setter setter isSetter
  · rw [sameValue]
    exact backs.holds

/-! ### Steps that do not fail on null -/

theorem callMethod_container_ne_nullDereference {container argument : RunValue}
    {kind : ContainerKind} (isContainer : container.IsContainer kind) (nonNull : argument ≠ .null)
    (method : String) (memory : Memory) :
    callMethod container method [argument] memory ≠ .error .nullDereference := by
  cases container with
  | null | bool | text | object => cases isContainer
  | sequence address =>
    simp only [callMethod, callSequence]
    split
    next isNull => cases isNull
    next isNull => exact absurd (List.cons.inj isNull).1 nonNull
    next => rintro ⟨⟩
    next => rintro ⟨⟩
  | map address =>
    simp only [callMethod, callMap]
    split
    next isNull => cases isNull
    next isNull => exact absurd (List.cons.inj isNull).1 nonNull
    next => rintro ⟨⟩
    next => rintro ⟨⟩

theorem callMethod_object_ne_nullDereference {address : Nat} {method : String} {memory : Memory}
    (noAdder : (memory.objects address).adders method = none) (arguments : List RunValue) :
    callMethod (.object address) method arguments memory ≠ .error .nullDereference := by
  simp only [callMethod, callObject, noAdder]
  split <;> rintro ⟨⟩

theorem exec_expression_ne_error {expr : Expr} {state : RunState} {error : RunError}
    (noError : expr.eval state.bindings state.memory ≠ .error error) :
    (Stmt.expression expr).exec state ≠ .error error := by
  rw [Stmt.exec]
  intro fails
  cases evaluated : expr.eval state.bindings state.memory with
  | error other =>
    rw [evaluated] at fails
    cases fails
    exact noError evaluated
  | ok result =>
    rw [evaluated] at fails
    cases fails

section
variable {state : RunState} {slot : Slot} {kind : ContainerKind} {target value : Expr}
  {start : Memory}

theorem execAll_set_ne_nullDereference {setter : String}
    (unchanged : start.KeepsObjects state.memory) (inUse : slot.address < start.next)
    (isTarget : target.eval state.bindings state.memory =
      .ok (.object slot.address, state.memory))
    (isWritten : slot.IsWrittenBy state.memory setter)
    (stable : value.IsStable state.bindings start) :
    Stmt.execAll [.expression (.call target setter [value])] state ≠ .error .nullDereference := by
  obtain ⟨given, last, evaluated, _, adders⟩ := stable state.memory unchanged
  rw [Stmt.execAll_singleton]
  apply exec_expression_ne_error
  rw [Expr.eval_call_singleton isTarget evaluated]
  refine callMethod_object_ne_nullDereference ?_ _
  rw [adders _ inUse, ← unchanged.objects _ inUse]
  exact isWritten.2

theorem exec_fill_ne_nullDereference {read : ContainerRead} {container : RunValue}
    (unchanged : start.KeepsObjects state.memory)
    (isLocal : state.bindings.var read.localName = some container)
    (isContainer : container.IsContainer kind) (stable : value.IsStable state.bindings start) :
    (read.fill value).exec state ≠ .error .nullDereference := by
  obtain ⟨given, last, evaluated, nonNull, _⟩ := stable state.memory unchanged
  have isRead : read.localVar.eval state.bindings state.memory = .ok (container, state.memory) := by
    simp only [ContainerRead.localVar, Expr.eval, isLocal]
  apply exec_expression_ne_error
  rw [Expr.eval_call_singleton isRead evaluated]
  exact callMethod_container_ne_nullDereference isContainer nonNull _ _

theorem execAll_clear_fill_ne_nullDereference {read : ContainerRead} {container : RunValue}
    (unchanged : start.KeepsObjects state.memory)
    (isLocal : state.bindings.var read.localName = some container)
    (isContainer : container.IsContainer kind) (stable : value.IsStable state.bindings start) :
    Stmt.execAll [read.clear, read.fill value] state ≠ .error .nullDereference := by
  -- The value is evaluated with the container cleared, which is no change of an object.
  have cleared : start.KeepsObjects (state.memory.clear container) := by
    refine ⟨?_, fun address inUse => ?_⟩
    · rw [Memory.next_clear]
      exact unchanged.next
    · rw [Memory.objects_clear]
      exact unchanged.objects address inUse
  rw [Stmt.execAll, exec_clear isLocal isContainer, ok_bind, Stmt.execAll_singleton]
  exact exec_fill_ne_nullDereference cleared isLocal isContainer stable

end

namespace Assignment

section
variable {options : Options} {property : Property} {source : Assignment}
  {strategy : WriteStrategy} {target : Expr} {state : RunState} {slot : Slot}
  {kind : ContainerKind} {name : String}

theorem isStable_storedExpr {bindings : Bindings} {memory : Memory}
    (stable : source.valueExpr.IsStable bindings memory) (type : JavaType) :
    (storedExpr type source).IsStable bindings memory := by
  unfold storedExpr
  split
  · exact stable.new _ _
  · exact stable

/-- The code that writes a value that stays to a container property does not fail on null, whether
the target holds a container or not. -/
theorem execAll_node_ne_nullDereference {start : Memory}
    (supported : strategy.IsSupported property options source.kind)
    (noAdder : ∀ adder element, strategy ≠ .addEach adder element)
    (targetNotUsed : strategy.variableType? property.type ≠ none → name ∉ target.usedNames)
    (notUsed : strategy.variableType? property.type ≠ none → name ∉ source.valueExpr.usedNames)
    (backs : slot.Backs property kind target state) (inUse : slot.address < start.next)
    (unchanged : start.KeepsObjects state.memory)
    (stable : source.valueExpr.IsStable state.bindings start) :
    Stmt.execAll ((strategy.node property.type options source name).lower target) state ≠
      .error .nullDereference := by
  cases strategy with
  | addEach adder element => exact absurd rfl (noAdder adder element)
  | set setter copy =>
    obtain ⟨hasSetter, rfl⟩ := supported
    rw [backs.isContainer, Bool.true_and, lower_node_set]
    exact execAll_set_ne_nullDereference unchanged inUse backs.target
      (backs.setter setter hasSetter) (isStable_storedExpr stable property.type)
  | mergeOrReplace setter getter =>
    obtain ⟨_, hasSetter, hasGetter, _⟩ := supported
    have stays := stable.bind (notUsed (Option.some_ne_none _)) (slot.value state.memory)
    have backs' := backs.bind (targetNotUsed (Option.some_ne_none _)) (slot.value state.memory)
    rw [lower_node_mergeOrReplace, execAll_merge backs.target (backs.getter getter hasGetter)]
    split
    next isNull =>
      exact execAll_set_ne_nullDereference unchanged inUse backs'.target
        (backs.setter setter hasSetter) (isStable_storedExpr stays property.type)
    next nonNull =>
      exact execAll_clear_fill_ne_nullDereference unchanged (RunState.var_bind_self ..)
        (backs.holds.resolve_left nonNull) stays
  | mergeInto getter =>
    have stays := stable.bind (notUsed (Option.some_ne_none _)) (slot.value state.memory)
    have isHeld := Slot.eval_getter backs.target (backs.getter getter supported.2)
    rw [WriteStrategy.node, lower, execAll_read, isHeld, ok_bind]
    split
    next isNull => rintro ⟨⟩
    next nonNull =>
      have isContainer := backs.holds.resolve_left nonNull
      split
      · exact execAll_clear_fill_ne_nullDereference unchanged (RunState.var_bind_self ..)
          isContainer stays
      · rw [Stmt.execAll_singleton]
        exact exec_fill_ne_nullDereference unchanged (RunState.var_bind_self ..) isContainer stays

theorem needsGuard_of_isContainer {type : JavaType} (container : type.isContainer = true)
    (options : Options) (kind : ValueKind) : needsGuard options kind type = true := by
  rw [needsGuard, container, Bool.or_true]

/-- What is built for a container property under the check that the value is not null is guarded
by this check, whatever the options say. If the value is null, running the code evaluates the check
and does nothing else. If it is not null, running the code does not fail on null. -/
theorem guarded_container_nullSafe {scope : Scope} {value : RunValue} {after : Memory}
    (chosen : WriteStrategy.select property options source.kind = .ok strategy)
    (noAdder : ∀ adder element, strategy ≠ .addEach adder element)
    (targetInScope : target.IsBoundIn scope.names)
    (valueInScope : source.valueExpr.IsBoundIn scope.names)
    (wellFormed : state.WellFormed) (backs : slot.Backs property kind target state)
    (evaluates : source.valueExpr.eval state.bindings state.memory = .ok (value, after))
    (quiet : state.memory.Keeps after) :
    ∃ assignment written,
      ((build options property source (some (.notNull source.valueExpr))).run.run scope).1 =
        .ok assignment ∧
      assignment = .guarded (.notNull source.valueExpr) written ∧
      (value = .null → ∃ final, Stmt.execAll (assignment.lower target) state = .ok final ∧
        final.bindings = state.bindings ∧
        (Expr.notNull source.valueExpr).eval state.bindings state.memory =
          .ok (.bool false, final.memory) ∧
        state.memory.Keeps final.memory) ∧
      (value ≠ .null →
        Stmt.execAll (assignment.lower target) state ≠ .error .nullDereference) := by
  obtain ⟨name, isNew, built⟩ :=
    exists_built_of_chosen chosen (some (.notNull source.valueExpr)) scope
  rw [underCheck, if_pos (needsGuard_of_isContainer backs.isContainer ..)] at built
  have checked : (Expr.notNull source.valueExpr).eval state.bindings state.memory =
      .ok (.bool (value ≠ .null), after) := by
    rw [Expr.eval, evaluates]
    rfl
  refine ⟨_, _, built, rfl, fun isNull => ?_, fun nonNull => ?_⟩
  · subst isNull
    refine ⟨⟨state.bindings, after⟩, ?_, rfl, checked, quiet⟩
    rw [lower, Stmt.execAll_singleton, Stmt.exec, checked]
    rfl
  · -- The check holds, and the value is evaluated again in the memory that the check left.
    have holds : decide (value ≠ .null) = true := decide_eq_true nonNull
    rw [holds] at checked
    rw [lower, Stmt.execAll_singleton, Stmt.exec, checked]
    exact execAll_node_ne_nullDereference (WriteStrategy.select_supports chosen) noAdder
      (fun hasVariable used => isNew hasVariable (targetInScope name used))
      (fun hasVariable used => isNew hasVariable (valueInScope name used))
      (backs.of_keepsObjects wellFormed quiet.toKeepsObjects) (backs.reads.isBelow wellFormed)
      quiet.toKeepsObjects (Expr.isStable_of_eval wellFormed evaluates quiet.toKeepsObjects nonNull)

end

/-- The guarded update of the tags of the target by converted ones does not fail on null. -/
theorem guarded_container_nullSafe_tags :
    ∃ assignment,
      ((build .forUpdate Tagged.property (Tagged.value .converted)
        (some (.notNull (Tagged.value .converted).valueExpr))).run.run Tagged.scope).1 =
          .ok assignment ∧
      Stmt.execAll (assignment.lower (.var "target")) (Tagged.state (.sequence 2)) ≠
        .error .nullDereference := by
  have noAdder (adder : String) (element : JavaType) :
      WriteStrategy.mergeOrReplace "setTags" "getTags" ≠ .addEach adder element := by
    rintro ⟨⟩
  obtain ⟨assignment, _, built, _, _, safe⟩ :=
    guarded_container_nullSafe (Tagged.select_eq .converted) noAdder (Tagged.inScope .converted).1
      (Tagged.inScope .converted).2 (Tagged.wellFormed (by decide))
      (Tagged.backs (.inr (by decide))) (Tagged.value_reads (.sequence 2) .converted).eval (.refl _)
  have nonNull : RunValue.sequence 3 ≠ .null := by
    rintro ⟨⟩
  exact ⟨assignment, built, safe nonNull⟩

end Assignment

end PropertyAssignment
