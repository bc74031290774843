import PropertyAssignment.Proofs.ContainerUpdate
import PropertyAssignment.Proofs.ReachedStatement

/-!
# Which containers properties share

A property comes to hold another value only by a call of a setter. The code for the source's own
value of a container property has at most one such call, and what is stored there is a copy that
the code makes. So after a run every property holds the container that it held before, or that
copy. The presence check is evaluated before all that and is code that somebody else supplied. If it
calls a setter itself, a property may well come to share a container with the source.
-/

namespace PropertyAssignment

/-- From the one memory to the other, the only containers that properties came to hold are allowed
ones. -/
structure Memory.SharesOnly (allowed : RunValue → Prop) (memory after : Memory) : Prop where
  next : memory.next ≤ after.next
  properties : ∀ slot : Slot, slot.address < memory.next → ∀ kind,
    (slot.value after).IsContainer kind →
      slot.value after = slot.value memory ∨ allowed (slot.value after)

section
variable {allowed : RunValue → Prop}

theorem Memory.SharesOnly.refl (memory : Memory) : memory.SharesOnly allowed memory :=
  ⟨Nat.le_refl _, fun _ _ _ _ => .inl rfl⟩

theorem Memory.SharesOnly.trans {first second third : Memory}
    (left : first.SharesOnly allowed second) (right : second.SharesOnly allowed third) :
    first.SharesOnly allowed third where
  next := Nat.le_trans left.next right.next
  properties slot inUse kind isContainer := by
    rcases right.properties slot (Nat.lt_of_lt_of_le inUse left.next) kind isContainer with
      same | isAllowed
    · rw [same] at isContainer ⊢
      exact left.properties slot inUse kind isContainer
    · exact .inr isAllowed

theorem Memory.SharesOnly.mono {larger : RunValue → Prop} {memory after : Memory}
    (shares : memory.SharesOnly allowed after) (included : ∀ value, allowed value → larger value) :
    memory.SharesOnly larger after where
  next := shares.next
  properties slot inUse kind isContainer :=
    (shares.properties slot inUse kind isContainer).imp id (included _)

theorem Memory.KeepsObjects.sharesOnly {memory after : Memory}
    (keeps : memory.KeepsObjects after) : memory.SharesOnly allowed after where
  next := keeps.next
  properties slot inUse _ _ := .inl (by rw [Slot.value, Slot.value, keeps.objects _ inUse])

theorem Slot.value_store_cases (slot other : Slot) (stored : RunValue) (memory : Memory) :
    slot.value (other.store stored memory) = stored ∨
      slot.value (other.store stored memory) = slot.value memory := by
  rw [Slot.value, other.properties_store]
  split
  · exact .inl rfl
  · exact .inr rfl

/-! ### Evaluations -/

theorem sharesOnly_of_callMethod {target result : RunValue} {method : String}
    {arguments : List RunValue} {memory after : Memory}
    (succeeds : callMethod target method arguments memory = .ok (result, after))
    (given : accessedProperty "set" method = none ∨
      ∀ argument ∈ arguments, ∀ kind, argument.IsContainer kind → allowed argument) :
    memory.SharesOnly allowed after := by
  obtain ⟨next, sameObjects | ⟨other, stored, isSetter, rfl, rfl⟩⟩ := callMethod_effect succeeds
  · exact ⟨Nat.le_of_eq next.symm, fun slot _ _ _ => .inl (Slot.value_of_objects_eq sameObjects)⟩
  · refine ⟨Nat.le_of_eq next.symm, fun slot _ kind isContainer => ?_⟩
    rcases slot.value_store_cases other stored memory with isStored | same
    · rcases given with noSetter | allAllowed
      · cases noSetter.symm.trans isSetter
      · rw [isStored] at isContainer ⊢
        exact .inr (allAllowed stored List.mem_cons_self kind isContainer)
    · exact .inl same

namespace Expr

variable {bindings : Bindings} {memory after : Memory} {receiver argument : Expr} {method : String}
  {result : RunValue}

/-- Wherever the expression is evaluated, no property comes to hold another container. -/
def SharesNothing (expr : Expr) : Prop :=
  ∀ bindings memory result after, expr.eval bindings memory = .ok (result, after) →
    memory.SharesOnly (fun _ => False) after

theorem OnlyAllocates.sharesNothing {expr : Expr} (quiet : expr.OnlyAllocates) :
    expr.SharesNothing := fun _ _ _ _ evaluates => (quiet _ _ _ _ evaluates).sharesOnly

theorem sharesNothing_get (receiver : Expr) (method : String) :
    (receiver.get method).SharesNothing := by
  intro bindings memory result after evaluates
  rw [Expr.get, Expr.eval] at evaluates
  obtain ⟨⟨target, middle⟩, receiverEval, evaluates⟩ := exists_of_bind_eq_ok evaluates
  obtain ⟨_, none, called⟩ := exists_of_bind_eq_ok evaluates
  cases none
  -- Nothing can be called on what a setter gives, so the receiver came about without effect.
  have receiverKeeps := keeps_of_eval receiverEval (isDatum_of_callMethod called)
  refine receiverKeeps.sharesOnly.trans (sharesOnly_of_callMethod called (.inr ?_))
  intro argument isArgument
  cases isArgument

/-- A call with one argument shares at most this argument, and only if it calls a setter. -/
theorem sharesOnly_of_eval_call (quiet : argument.OnlyAllocates)
    (evaluates : (Expr.call receiver method [argument]).eval bindings memory = .ok (result, after))
    (given : accessedProperty "set" method = none ∨
      ∀ target called value last, receiver.eval bindings memory = .ok (target, called) →
        argument.eval bindings called = .ok (value, last) →
          ∀ kind, value.IsContainer kind → allowed value) :
    memory.SharesOnly allowed after := by
  rw [Expr.eval] at evaluates
  obtain ⟨⟨target, called⟩, receiverEval, evaluates⟩ := exists_of_bind_eq_ok evaluates
  obtain ⟨⟨values, last⟩, argumentsEval, succeeds⟩ := exists_of_bind_eq_ok evaluates
  obtain ⟨value, rfl, argumentEval⟩ := exists_of_evalAll_singleton argumentsEval
  have receiverKeeps := keeps_of_eval receiverEval (isDatum_of_callMethod succeeds)
  have argumentKeeps := quiet _ _ _ _ argumentEval
  refine (receiverKeeps.trans argumentKeeps).sharesOnly.trans
    (sharesOnly_of_callMethod succeeds (given.imp id fun allAllowed => ?_))
  intro stored isStored
  obtain rfl := List.mem_singleton.mp isStored
  exact allAllowed _ _ _ _ receiverEval argumentEval

end Expr

/-! ### Runs -/

theorem exists_eval_of_exec_expression {expr : Expr} {state final : RunState}
    (runs : (Stmt.expression expr).exec state = .ok final) :
    final.bindings = state.bindings ∧
      ∃ result, expr.eval state.bindings state.memory = .ok (result, final.memory) := by
  rw [Stmt.exec] at runs
  obtain ⟨⟨result, memory⟩, evaluated, runs⟩ := exists_of_bind_eq_ok runs
  cases runs
  exact ⟨rfl, result, evaluated⟩

def Stmt.SharesNothing (stmt : Stmt) : Prop :=
  ∀ state final, stmt.exec state = .ok final →
    state.memory.SharesOnly (fun _ => False) final.memory

theorem Expr.SharesNothing.declare {init : Expr} (shares : init.SharesNothing) (type : JavaType)
    (name : String) : (Stmt.declare type name init).SharesNothing := by
  intro state final runs
  rw [Stmt.exec] at runs
  obtain ⟨⟨value, memory⟩, evaluated, runs⟩ := exists_of_bind_eq_ok runs
  cases runs
  exact shares _ _ _ _ evaluated

theorem Expr.SharesNothing.expression {expr : Expr} (shares : expr.SharesNothing) :
    (Stmt.expression expr).SharesNothing := by
  intro state final runs
  obtain ⟨_, result, evaluated⟩ := exists_eval_of_exec_expression runs
  exact shares _ _ _ _ evaluated

end

/-- The run of the body from the state makes the container: it comes to a call that sets a new value
of the type on the target, made from the value, and there the constructor allocates the
container. -/
def IsCopyMade (type : JavaType) (value target : Expr) (body : List Stmt) (state : RunState)
    (container : RunValue) : Prop :=
  ∃ setter reached receiver called source given after,
    Stmt.Reaches body state (.expression (.call target setter [.new type [value]])) reached ∧
      target.eval reached.bindings reached.memory = .ok (receiver, called) ∧
      value.eval reached.bindings called = .ok (source, given) ∧
      (Expr.new type [value]).eval reached.bindings called = .ok (container, after) ∧
      ¬ container.IsBelow given.next ∧ container.IsBelow after.next

/-- Wherever the body is run, properties come to hold only containers that the run makes as copies
of the value. -/
def SharesOnlyCopies (type : JavaType) (value target : Expr) (body : List Stmt) : Prop :=
  ∀ state final, Stmt.execAll body state = .ok final →
    state.memory.SharesOnly (IsCopyMade type value target body state) final.memory

section
variable {type : JavaType} {value target : Expr} {body rest : List Stmt} {state : RunState}
  {container : RunValue}

theorem IsCopyMade.of_reaches {part : List Stmt} {start : RunState}
    (reaches : ∀ {stmt reached}, Stmt.Reaches part start stmt reached →
      Stmt.Reaches body state stmt reached)
    (made : IsCopyMade type value target part start container) :
    IsCopyMade type value target body state container := by
  obtain ⟨setter, reached, receiver, called, source, given, after, comes, evaluated⟩ := made
  exact ⟨setter, reached, receiver, called, source, given, after, reaches comes, evaluated⟩

theorem IsCopyMade.isNew (made : IsCopyMade type value target body state container) :
    ¬ container.IsBelow state.memory.next := by
  obtain ⟨_, reached, _, called, _, given, _, comes, targetEval, valueEval, _, isNew, _⟩ := made
  intro below
  refine isNew (below.mono ?_)
  calc
    state.memory.next ≤ reached.memory.next := comes.next_le
    _ ≤ called.next := Expr.next_le_of_eval targetEval
    _ ≤ given.next := Expr.next_le_of_eval valueEval

theorem sharesOnlyCopies_nil : SharesOnlyCopies type value target [] := by
  intro state final runs
  cases runs
  exact .refl _

theorem SharesOnlyCopies.cons {first : Stmt} (shares : first.SharesNothing)
    (others : SharesOnlyCopies type value target rest) :
    SharesOnlyCopies type value target (first :: rest) := by
  intro state final runs
  rw [Stmt.execAll] at runs
  obtain ⟨middle, firstRuns, runs⟩ := exists_of_bind_eq_ok runs
  refine ((shares _ _ firstRuns).mono fun _ => False.elim).trans
    ((others _ _ runs).mono fun container made => ?_)
  exact made.of_reaches (.later firstRuns)

theorem SharesOnlyCopies.branch {condition : Expr} {thenBody elseBody : List Stmt}
    (shares : condition.SharesNothing) (thenShares : SharesOnlyCopies type value target thenBody)
    (elseShares : SharesOnlyCopies type value target elseBody) :
    SharesOnlyCopies type value target [.branch condition thenBody elseBody] := by
  intro state final runs
  rw [Stmt.execAll_singleton, Stmt.exec] at runs
  obtain ⟨⟨result, memory⟩, evaluated, runs⟩ := exists_of_bind_eq_ok runs
  refine ((shares _ _ _ _ evaluated).mono fun _ => False.elim).trans ?_
  cases result with
  | null | text | sequence | map | object => cases runs
  | bool holds =>
    cases holds with
    | true =>
      exact (thenShares _ _ runs).mono fun _ made => made.of_reaches (.thenBody evaluated)
    | false =>
      exact (elseShares _ _ runs).mono fun _ made => made.of_reaches (.elseBody evaluated)

theorem sharesOnlyCopies_setCopy (quiet : value.OnlyAllocates) (setter : String) :
    SharesOnlyCopies type value target
      [.expression (.call target setter [.new type [value]])] := by
  intro state final runs
  rw [Stmt.execAll_singleton] at runs
  obtain ⟨_, result, evaluated⟩ := exists_eval_of_exec_expression runs
  refine Expr.sharesOnly_of_eval_call (quiet.new type []) evaluated (.inr ?_)
  intro receiver called container after receiverEval copyEval kind isContainer
  obtain ⟨⟨source, given⟩, sourceEval, constructed⟩ :=
    exists_of_bind_eq_ok ((Expr.eval.eq_def ..).symm.trans copyEval)
  rcases construct_cases constructed with
    ⟨_, _, _, _, isNew, isBelow⟩ | ⟨_, noContainer, rfl, _⟩
  · exact ⟨setter, state, receiver, called, source, given, after, .here .., receiverEval,
      sourceEval, copyEval, isNew, isBelow⟩
  · cases noContainer.symm.trans isContainer

theorem accessedProperty_set_bulkInsert (read : ContainerRead) :
    accessedProperty "set" read.bulkInsert = none := by
  have collection : accessedProperty "set" "addAll" = none := by decide +kernel
  have map : accessedProperty "set" "putAll" = none := by decide +kernel
  unfold ContainerRead.bulkInsert JavaType.bulkInsert?
  rcases read.type.container with _ | _ | _
  · exact collection
  · exact collection
  · exact map

theorem sharesNothing_fill (read : ContainerRead) (quiet : value.OnlyAllocates) :
    (read.fill value).SharesNothing := by
  apply Expr.SharesNothing.expression
  intro bindings memory result after evaluates
  exact Expr.sharesOnly_of_eval_call quiet evaluates (.inl (accessedProperty_set_bulkInsert read))

theorem sharesNothing_clear (read : ContainerRead) : read.clear.SharesNothing :=
  (Expr.sharesNothing_get read.localVar "clear").expression

theorem sharesOnlyCopies_read (read : ContainerRead) {thenBody elseBody : List Stmt}
    (thenShares : SharesOnlyCopies type value target thenBody)
    (elseShares : SharesOnlyCopies type value target elseBody) :
    SharesOnlyCopies type value target
      [read.declaration target, .branch (.notNull read.localVar) thenBody elseBody] := by
  have tested := (Expr.onlyAllocates_var read.localName).notNull.sharesNothing
  have isRead := (Expr.sharesNothing_get target read.getter).declare read.type read.localName
  exact .cons isRead (.branch tested thenShares elseShares)

theorem sharesNothing_forEach {iterable : Expr} (quiet : iterable.OnlyAllocates)
    (elementType : JavaType) (name adder : String) :
    (Stmt.forEach elementType name iterable
      [.expression (.call target adder [.var name])]).SharesNothing := by
  intro state final runs
  rw [Stmt.exec] at runs
  obtain ⟨⟨value, memory⟩, evaluated, runs⟩ := exists_of_bind_eq_ok runs
  refine (quiet _ _ _ _ evaluated).sharesOnly.trans ?_
  cases value with
  | null | bool | text | map | object => cases runs
  | sequence address =>
    refine Stmt.rel_of_foldlM
      (fun state final => state.memory.SharesOnly (fun _ => False) final.memory)
      (fun _ => .refl _) .trans ?_ runs
    intro state item final iterationRuns
    rw [Stmt.execAll_singleton] at iterationRuns
    obtain ⟨_, result, called⟩ := exists_eval_of_exec_expression iterationRuns
    refine Expr.sharesOnly_of_eval_call (Expr.onlyAllocates_var name) called (.inr ?_)
    -- The loop variable stands for a text, which is no container.
    intro receiver middle element last _ elementEval kind isContainer
    simp only [Expr.eval, RunState.var_bind_self] at elementEval
    cases elementEval
    cases isContainer

end

namespace Assignment

/-- The code that writes the source's own value to a container property shares nothing but a copy
of it. -/
theorem sharesOnlyCopies_lower_node {property : Property} {options : Options} {source : Assignment}
    {strategy : WriteStrategy} {name : String} {target : Expr}
    (supported : strategy.IsSupported property options source.kind)
    (container : property.type.isContainer) (direct : source.kind = .direct)
    (quiet : source.valueExpr.OnlyAllocates) :
    SharesOnlyCopies property.type.implementation source.valueExpr target
      ((strategy.node property.type options source name).lower target) := by
  have fills (read : ContainerRead) : SharesOnlyCopies property.type.implementation
      source.valueExpr target [read.fill source.valueExpr] :=
    .cons (sharesNothing_fill read quiet) sharesOnlyCopies_nil
  cases strategy with
  | addEach adder element =>
    exact .cons (sharesNothing_forEach quiet element name adder) sharesOnlyCopies_nil
  | mergeOrReplace setter getter =>
    rw [lower_node_mergeOrReplace, storedExpr, direct]
    exact sharesOnlyCopies_read _ (.cons (sharesNothing_clear _) (fills _))
      (sharesOnlyCopies_setCopy quiet setter)
  | set setter copy =>
    obtain ⟨_, isCopied⟩ := supported
    rw [container, direct] at isCopied
    subst isCopied
    exact sharesOnlyCopies_setCopy quiet setter
  | mergeInto getter =>
    rw [WriteStrategy.node, lower]
    refine sharesOnlyCopies_read _ ?_ sharesOnlyCopies_nil
    split
    · exact .cons (sharesNothing_clear _) (fills _)
    · exact fills _

/-- After the code for the source's own value of a container property has run, a property of an
object holds the container that it held before, or the one that it held once the presence check
was evaluated, or a new one. A new one was made by this run: it came to the setter call that the
build put there, with the constructor of the implementation as its argument, and evaluating this
argument then allocated the container. -/
theorem container_is_old_or_copy {property : Property} {options : Options}
    {source assignment : Assignment} {presence : Option Expr} {scope : Scope} {target : Expr}
    {state final : RunState} {slot : Slot} {kind : ContainerKind}
    (container : property.type.isContainer) (direct : source.kind = .direct)
    (quiet : source.valueExpr.OnlyAllocates)
    (built : ((build options property source presence).run.run scope).1 = .ok assignment)
    (runs : Stmt.execAll (assignment.lower target) state = .ok final)
    (inUse : slot.address < state.memory.next)
    (isContainer : (slot.value final.memory).IsContainer kind) :
    slot.value final.memory = slot.value state.memory ∨
      (∃ check result after, presence = some check ∧
        check.eval state.bindings state.memory = .ok (result, after) ∧
        slot.value final.memory = slot.value after) ∨
      ¬ (slot.value final.memory).IsBelow state.memory.next ∧
        IsCopyMade property.type.implementation source.valueExpr target (assignment.lower target)
          state (slot.value final.memory) := by
  obtain ⟨strategy, chosen, rfl⟩ := exists_chosen_of_build built
  have supported := WriteStrategy.select_supports chosen
  have shares (name : String) : SharesOnlyCopies property.type.implementation source.valueExpr
      target ((strategy.node property.type options source name).lower target) :=
    sharesOnlyCopies_lower_node supported container direct quiet
  rcases underCheck_cases options source.kind property.type
    (strategy.node property.type options source
      (scope.allocateFor? (strategy.variableType? property.type)).1) presence with
    bare | ⟨check, isPresence, guarded⟩
  · rw [bare] at runs ⊢
    rcases (shares _ _ _ runs).properties slot inUse kind isContainer with same | made
    · exact .inl same
    · exact .inr (.inr ⟨made.isNew, made⟩)
  · rw [guarded] at runs ⊢
    rw [lower, Stmt.execAll_singleton, Stmt.exec] at runs
    obtain ⟨⟨result, memory⟩, checked, runs⟩ := exists_of_bind_eq_ok runs
    have later := Expr.next_le_of_eval checked
    cases result with
    | null | text | sequence | map | object => cases runs
    | bool holds =>
      cases holds with
      | false =>
        cases runs
        exact .inr (.inl ⟨check, _, _, isPresence, checked, rfl⟩)
      | true =>
        rcases (shares _ _ _ runs).properties slot (Nat.lt_of_lt_of_le inUse later) kind
          isContainer with same | madeInside
        · exact .inr (.inl ⟨check, _, _, isPresence, checked, same⟩)
        · have made : IsCopyMade property.type.implementation source.valueExpr target
              ((Assignment.guarded check _).lower target) state _ :=
            madeInside.of_reaches (.thenBody checked)
          exact .inr (.inr ⟨made.isNew, made⟩)

theorem onlyAllocates_tags (kind : ValueKind) : (Tagged.value kind).valueExpr.OnlyAllocates :=
  (Expr.onlyAllocates_var "source").get (by decide)

/-- The tags that the target gets are not those of the source but the copy that this run makes. -/
theorem container_is_old_or_copy_tags :
    ∃ assignment final,
      ((build {} Tagged.property (Tagged.value .direct) none).run.run Tagged.scope).1 =
        .ok assignment ∧
      Stmt.execAll (assignment.lower (.var "target")) (Tagged.state .null) = .ok final ∧
      (Tagged.slot.value final.memory).IsContainer .sequence ∧
      Tagged.slot.value final.memory ≠ .sequence 3 ∧
      IsCopyMade Tagged.property.type.implementation (Tagged.value .direct).valueExpr
        (.var "target") (assignment.lower (.var "target")) (Tagged.state .null)
        (Tagged.slot.value final.memory) := by
  have built : ((build {} Tagged.property (Tagged.value .direct) none).run.run Tagged.scope).1 =
      .ok (.set "setTags" (.source (copyOf Tagged.property.type (Tagged.value .direct)))) := rfl
  have backs := Tagged.backs (.inl rfl)
  have isRead : (Tagged.value .direct).valueExpr.Yields (Tagged.state .null).bindings
      (Tagged.state .null).memory .sequence (.sequence 3) (Tagged.state .null).memory :=
    .read (Tagged.value_reads .null .direct) rfl
  obtain ⟨stored, after, copies, _⟩ := isRead.exists_copy Tagged.property.type.implementation []
  have runs := execAll_set backs.target (backs.setter _ rfl) copies.eval copies.extends.objects
  have isContainer :
      (Tagged.slot.value (Tagged.slot.store stored after)).IsContainer .sequence := by
    rw [Slot.value_store]
    exact copies.isContainer
  refine ⟨_, _, built, runs, isContainer, ?_⟩
  rcases container_is_old_or_copy rfl rfl (onlyAllocates_tags .direct) built runs (by decide)
    isContainer with same | ⟨_, _, _, noCheck, _⟩ | ⟨isNew, made⟩
  · exact absurd same isContainer.ne_null
  · cases noCheck
  · refine ⟨fun shared => ?_, made⟩
    rw [shared] at isNew
    exact isNew (by decide)

/-- A presence check that itself hands the tags of the source to the target. -/
theorem check_shares_tags :
    let check : Expr := .notNull (.call (.var "target") "setTags" [.get (.var "source") "getTags"])
    let state := Tagged.state (.sequence 2)
    Tagged.property.type.isContainer ∧ (Tagged.value .direct).kind = .direct ∧
      (Tagged.value .direct).valueExpr.OnlyAllocates ∧
      ∃ assignment final,
        ((build .forUpdate Tagged.property (Tagged.value .direct) (some check)).run.run
          Tagged.scope).1 = .ok assignment ∧
        Stmt.execAll (assignment.lower (.var "target")) state = .ok final ∧
        Tagged.slot.value final.memory = .sequence 3 ∧
        Tagged.slot.value state.memory ≠ .sequence 3 ∧
        (RunValue.sequence 3).IsBelow state.memory.next := by
  intro check state
  have backs := Tagged.backs (.inr rfl : RunValue.sequence 2 = .null ∨ _)
  have checked : check.eval state.bindings state.memory =
      .ok (.bool false, Tagged.slot.store (.sequence 3) state.memory) := by
    have isTarget : (Expr.var "target").eval state.bindings state.memory =
        .ok (.object Tagged.slot.address, state.memory) := backs.target
    have isSource : ((Expr.var "source").get "getTags").eval state.bindings state.memory =
        .ok (.sequence 3, state.memory) := (Tagged.value_reads (.sequence 2) .direct).eval
    have stores : callMethod (.object Tagged.slot.address) "setTags" [.sequence 3] state.memory =
        .ok (.null, Tagged.slot.store (.sequence 3) state.memory) :=
      Slot.callMethod_setter (backs.setter _ rfl) _
    rw [Expr.eval, Expr.eval_call_singleton isTarget isSource, stores]
    rfl
  have needed : needsGuard .forUpdate (Tagged.value .direct).kind Tagged.property.type = true := rfl
  have built := congrArg Prod.fst
    (build_run (Tagged.select_eq .direct) (some check) Tagged.scope)
  rw [underCheck, if_pos needed] at built
  refine ⟨rfl, rfl, onlyAllocates_tags .direct, _,
    ⟨state.bindings, Tagged.slot.store (.sequence 3) state.memory⟩, built, ?_,
    Slot.value_store .., by decide, by decide⟩
  rw [lower, Stmt.execAll_singleton, Stmt.exec, checked]
  rfl

end Assignment

end PropertyAssignment
