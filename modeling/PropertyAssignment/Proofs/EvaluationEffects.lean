import PropertyAssignment.Proofs.ContainerEvaluation

/-!
# Effects of evaluation

What is in use changes only by calls that give null: elements are added to a container, or a
property is set. Nothing can be read from null, so such a call is not part of the way to a text, a
container or an object. An expression that gives one of these has allocated at most
(`Expr.keeps_of_eval`). No evaluation takes a value out of use (`Expr.next_le_of_eval`).
-/

namespace PropertyAssignment

namespace RunValue

/-- Texts, containers and objects; all but null and the truth values, which calls and tests give. -/
def IsDatum : RunValue → Prop
  | .null | .bool _ => False
  | .text _ | .sequence _ | .map _ | .object _ => True

theorem IsContainer.isDatum {value : RunValue} {kind : ContainerKind}
    (container : value.IsContainer kind) : value.IsDatum := by
  cases value with
  | sequence | map => trivial
  | null | bool | text | object => cases container

end RunValue

namespace Memory

/-- Objects may have been added between the two memories; those in use before are as they were. -/
structure KeepsObjects (memory after : Memory) : Prop where
  next : memory.next ≤ after.next
  objects : ∀ address < memory.next, after.objects address = memory.objects address

/-- Objects and containers were allocated between the two memories and nothing else was done: what
was in use before is as it was. -/
structure Keeps (memory after : Memory) : Prop extends memory.KeepsObjects after where
  content : ∀ value, value.IsBelow memory.next → after.content value = memory.content value

theorem KeepsObjects.trans {first second third : Memory} (left : first.KeepsObjects second)
    (right : second.KeepsObjects third) : first.KeepsObjects third where
  next := Nat.le_trans left.next right.next
  objects address inUse :=
    (right.objects address (Nat.lt_of_lt_of_le inUse left.next)).trans (left.objects address inUse)

theorem Keeps.refl (memory : Memory) : memory.Keeps memory :=
  ⟨⟨Nat.le_refl _, fun _ _ => rfl⟩, fun _ _ => rfl⟩

theorem Keeps.trans {first second third : Memory} (left : first.Keeps second)
    (right : second.Keeps third) : first.Keeps third where
  toKeepsObjects := left.toKeepsObjects.trans right.toKeepsObjects
  content value below :=
    (right.content value (below.mono left.next)).trans (left.content value below)

theorem Extends.keeps {memory after : Memory} (grown : memory.Extends after) :
    memory.Keeps after where
  next := grown.next
  objects _ _ := by rw [grown.objects]
  content := grown.content

theorem keeps_newObject (memory : Memory) : memory.Keeps memory.newObject.2 where
  next := Nat.le_succ _
  objects _ inUse := if_neg (Nat.ne_of_lt inUse)
  content value _ := by cases value <;> rfl

end Memory

/-- A value is constructed from a container by copying it. Any other value but null is the result
itself. -/
theorem construct_cases {type : JavaType} {value result : RunValue} {memory after : Memory}
    (constructed : construct type value memory = .ok (result, after)) :
    (∃ kind, value.IsContainer kind ∧ result.IsContainer kind ∧ memory.Extends after ∧
        ¬ result.IsBelow memory.next ∧ result.IsBelow after.next) ∨
      (value ≠ .null ∧ value.containerKind? = none ∧ result = value ∧ after = memory) := by
  have copied (kind : ContainerKind) (isContainer : value.IsContainer kind) :
      ∃ kind, value.IsContainer kind ∧ result.IsContainer kind ∧ memory.Extends after ∧
        ¬ result.IsBelow memory.next ∧ result.IsBelow after.next := by
    have hasKind : ((memory.content value).copied type.isSet).kind? = some kind := by
      rwa [Content.kind_copied, Memory.kind_content]
    rw [construct_eq_allocate isContainer] at constructed
    obtain rfl : _ = result := congrArg Prod.fst (Except.ok.inj constructed)
    obtain rfl : _ = after := congrArg Prod.snd (Except.ok.inj constructed)
    exact ⟨kind, isContainer, (memory.containerKind_allocate _).trans hasKind,
      memory.extends_allocate _, memory.not_isBelow_allocate _ hasKind,
      memory.isBelow_allocate _⟩
  cases value with
  | null => cases constructed
  | sequence => exact .inl (copied .sequence rfl)
  | map => exact .inl (copied .map rfl)
  | bool | text | object =>
    cases constructed
    exact .inr ⟨(by rintro ⟨⟩), rfl, rfl, rfl⟩

theorem keeps_constructEmpty (type : JavaType) (memory : Memory) :
    memory.Keeps (constructEmpty type memory).2 := by
  cases container : type.container with
  | some kind =>
    rw [constructEmpty_eq_allocate container]
    exact (memory.extends_allocate _).keeps
  | none =>
    unfold constructEmpty
    rw [container]
    exact memory.keeps_newObject

/-! ### Effects of calls -/

section Calls
variable {target result : RunValue} {method : String} {arguments : List RunValue}
  {memory after : Memory}

theorem isDatum_of_callMethod
    (succeeds : callMethod target method arguments memory = .ok (result, after)) :
    target.IsDatum := by
  cases target with
  | null | bool => cases succeeds
  | text | sequence | map | object => trivial

theorem objects_next_of_callSequence {address : Nat}
    (succeeds : callSequence address method arguments memory = .ok (result, after)) :
    after.objects = memory.objects ∧ after.next = memory.next := by
  unfold callSequence at succeeds
  split at succeeds <;> cases succeeds <;> exact ⟨rfl, rfl⟩

theorem objects_next_of_callMap {address : Nat}
    (succeeds : callMap address method arguments memory = .ok (result, after)) :
    after.objects = memory.objects ∧ after.next = memory.next := by
  unfold callMap at succeeds
  split at succeeds <;> cases succeeds <;> exact ⟨rfl, rfl⟩

theorem objects_next_appendTexts (target : RunValue) (values : List RunValue) (memory : Memory) :
    (appendTexts target values memory).objects = memory.objects ∧
      (appendTexts target values memory).next = memory.next := by
  cases target <;> exact ⟨rfl, rfl⟩

/-- A call leaves the objects as they are or is the call of a setter. -/
theorem callMethod_effect
    (succeeds : callMethod target method arguments memory = .ok (result, after)) :
    after.next = memory.next ∧
      (after.objects = memory.objects ∨
        ∃ (slot : Slot) (stored : RunValue), accessedProperty "set" method = some slot.property ∧
          arguments = [stored] ∧ after = slot.store stored memory) := by
  cases target with
  | null | bool | text => cases succeeds
  | sequence address =>
    obtain ⟨objects, next⟩ := objects_next_of_callSequence succeeds
    exact ⟨next, .inl objects⟩
  | map address =>
    obtain ⟨objects, next⟩ := objects_next_of_callMap succeeds
    exact ⟨next, .inl objects⟩
  | object address =>
    simp only [callMethod, callObject] at succeeds
    split at succeeds
    next property _ =>
      split at succeeds
      · cases succeeds
      · cases succeeds
        obtain ⟨objects, next⟩ := objects_next_appendTexts
          ((memory.objects address).properties property) arguments memory
        exact ⟨next, .inl objects⟩
    next =>
      split at succeeds
      next =>
        cases succeeds
        exact ⟨rfl, .inl rfl⟩
      next stored property isSetter =>
        cases succeeds
        exact ⟨rfl, .inr ⟨⟨address, property⟩, stored, isSetter, rfl, rfl⟩⟩
      next => cases succeeds

theorem appendTexts_nil (target : RunValue) (memory : Memory) :
    appendTexts target [] memory = memory := by
  cases target with
  | null | bool | text | map | object => rfl
  | sequence address =>
    have unchanged : updated memory.sequences address (memory.sequences address) =
        memory.sequences := by
      funext other
      by_cases same : other = address <;> simp [updated, same]
    simp only [appendTexts, Memory.setSequence, List.filterMap_nil, SequenceCell.pushAll,
      List.foldl_nil, unchanged]

/-- To clear a container is all that can be done without arguments. -/
theorem memory_eq_of_callMethod_nil
    (succeeds : callMethod target method [] memory = .ok (result, after))
    (notClear : method ≠ "clear") : after = memory := by
  cases target with
  | null | bool | text => cases succeeds
  | sequence address =>
    simp only [callMethod, callSequence] at succeeds
    split at succeeds
    next => exact absurd rfl notClear
    next noArgument => cases noArgument
    next noArgument => cases noArgument
    next => cases succeeds
  | map address =>
    simp only [callMethod, callMap] at succeeds
    split at succeeds
    next => exact absurd rfl notClear
    next noArgument => cases noArgument
    next noArgument => cases noArgument
    next => cases succeeds
  | object address =>
    simp only [callMethod, callObject, appendTexts_nil] at succeeds
    split at succeeds
    next =>
      split at succeeds <;> cases succeeds
      rfl
    next =>
      split at succeeds
      next =>
        cases succeeds
        rfl
      next noArgument _ => cases noArgument
      next => cases succeeds

end Calls

/-! ### Effects of expressions -/

namespace Expr

variable {bindings : Bindings} {memory after : Memory} {expr : Expr} {value : RunValue}

theorem next_le_of_evalAll {exprs : List Expr} {values : List RunValue}
    (each : ∀ expr ∈ exprs, ∀ {memory after value},
      expr.eval bindings memory = .ok (value, after) → memory.next ≤ after.next)
    (evaluates : evalAll bindings exprs memory = .ok (values, after)) :
    memory.next ≤ after.next := by
  induction exprs generalizing memory values with
  | nil =>
    cases evaluates
    exact Nat.le_refl _
  | cons expr rest ih =>
    obtain ⟨⟨value, middle⟩, first, evaluates⟩ := exists_of_bind_eq_ok evaluates
    obtain ⟨⟨others, last⟩, rest, evaluates⟩ := exists_of_bind_eq_ok evaluates
    cases evaluates
    exact Nat.le_trans (each expr List.mem_cons_self first)
      (ih (fun expr member => each expr (List.mem_cons_of_mem _ member)) rest)

theorem next_le_of_eval (evaluates : expr.eval bindings memory = .ok (value, after)) :
    memory.next ≤ after.next := by
  induction expr generalizing memory after value with
  | var name =>
    simp only [Expr.eval] at evaluates
    split at evaluates <;> cases evaluates
    exact Nat.le_refl _
  | raw text =>
    simp only [Expr.eval] at evaluates
    split at evaluates <;> cases evaluates
    exact Nat.le_refl _
  | null =>
    cases evaluates
    exact Nat.le_refl _
  | invoke method arguments => cases evaluates
  | call receiver method arguments receiverIh argumentsIh =>
    rw [Expr.eval] at evaluates
    obtain ⟨⟨target, middle⟩, receiverEval, evaluates⟩ := exists_of_bind_eq_ok evaluates
    obtain ⟨⟨values, last⟩, argumentsEval, called⟩ := exists_of_bind_eq_ok evaluates
    rw [(callMethod_effect called).1]
    exact Nat.le_trans (receiverIh receiverEval) (next_le_of_evalAll argumentsIh argumentsEval)
  | new type arguments argumentsIh =>
    rw [Expr.eval.eq_def] at evaluates
    cases arguments with
    | nil =>
      obtain rfl : _ = after := congrArg Prod.snd (Except.ok.inj evaluates)
      exact (keeps_constructEmpty type memory).next
    | cons source rest =>
      obtain ⟨⟨inner, middle⟩, sourceEval, constructed⟩ := exists_of_bind_eq_ok evaluates
      refine Nat.le_trans (argumentsIh source List.mem_cons_self sourceEval) ?_
      rcases construct_cases constructed with ⟨_, _, _, grown, _⟩ | ⟨_, _, _, rfl⟩
      · exact grown.next
      · exact Nat.le_refl _
  | cast type operand ih =>
    rw [Expr.eval] at evaluates
    exact ih evaluates
  | notNull operand ih =>
    rw [Expr.eval] at evaluates
    obtain ⟨_, operandEval, evaluates⟩ := exists_of_bind_eq_ok evaluates
    cases evaluates
    exact ih operandEval

/-- A text, a container or an object is given with no effect but allocation. -/
theorem keeps_of_eval (evaluates : expr.eval bindings memory = .ok (value, after))
    (isDatum : value.IsDatum) : memory.Keeps after := by
  induction expr generalizing memory after value with
  | var name =>
    simp only [Expr.eval] at evaluates
    split at evaluates <;> cases evaluates
    exact .refl _
  | raw text =>
    simp only [Expr.eval] at evaluates
    split at evaluates <;> cases evaluates
    exact .refl _
  | null =>
    cases evaluates
    exact .refl _
  | invoke method arguments => cases evaluates
  | call receiver method arguments receiverIh _ =>
    rw [Expr.eval] at evaluates
    obtain ⟨⟨target, middle⟩, receiverEval, evaluates⟩ := exists_of_bind_eq_ok evaluates
    obtain ⟨⟨values, last⟩, argumentsEval, called⟩ := exists_of_bind_eq_ok evaluates
    have nonNull : value ≠ .null := by
      rintro rfl
      exact isDatum
    obtain ⟨slot, rfl, rfl, _, _, rfl⟩ := callMethod_ne_null called nonNull
    obtain ⟨_, rfl⟩ := evalAll_eq_nil argumentsEval
    exact receiverIh receiverEval trivial
  | new type arguments argumentsIh =>
    rw [Expr.eval.eq_def] at evaluates
    cases arguments with
    | nil =>
      obtain rfl : _ = after := congrArg Prod.snd (Except.ok.inj evaluates)
      exact keeps_constructEmpty type memory
    | cons source rest =>
      obtain ⟨⟨inner, middle⟩, sourceEval, constructed⟩ := exists_of_bind_eq_ok evaluates
      have sourceKeeps := argumentsIh source List.mem_cons_self sourceEval
      rcases construct_cases constructed with ⟨_, isContainer, _, grown, _⟩ | ⟨_, _, rfl, rfl⟩
      · exact (sourceKeeps isContainer.isDatum).trans grown.keeps
      · exact sourceKeeps isDatum
  | cast type operand ih =>
    rw [Expr.eval] at evaluates
    exact ih evaluates isDatum
  | notNull operand _ =>
    rw [Expr.eval] at evaluates
    obtain ⟨_, _, evaluates⟩ := exists_of_bind_eq_ok evaluates
    cases evaluates
    exact isDatum.elim

/-- Wherever the expression can be evaluated, this has no effect but allocation. -/
def OnlyAllocates (expr : Expr) : Prop :=
  ∀ bindings memory value after, expr.eval bindings memory = .ok (value, after) →
    memory.Keeps after

theorem onlyAllocates_var (name : String) : (Expr.var name).OnlyAllocates := by
  intro bindings memory value after evaluates
  simp only [Expr.eval] at evaluates
  split at evaluates <;> cases evaluates
  exact .refl _

theorem OnlyAllocates.get {receiver : Expr} (quiet : receiver.OnlyAllocates) {method : String}
    (notClear : method ≠ "clear") : (receiver.get method).OnlyAllocates := by
  intro bindings memory result after evaluates
  rw [Expr.get, Expr.eval] at evaluates
  obtain ⟨⟨target, middle⟩, receiverEval, evaluates⟩ := exists_of_bind_eq_ok evaluates
  obtain ⟨_, none, called⟩ := exists_of_bind_eq_ok evaluates
  cases none
  rw [memory_eq_of_callMethod_nil called notClear]
  exact quiet _ _ _ _ receiverEval

theorem OnlyAllocates.new {value : Expr} (quiet : value.OnlyAllocates) (type : JavaType)
    (rest : List Expr) : (Expr.new type (value :: rest)).OnlyAllocates := by
  intro bindings memory result after evaluates
  rw [Expr.eval.eq_def] at evaluates
  obtain ⟨⟨source, middle⟩, sourceEval, constructed⟩ := exists_of_bind_eq_ok evaluates
  have sourceKeeps := quiet _ _ _ _ sourceEval
  rcases construct_cases constructed with ⟨_, _, _, grown, _⟩ | ⟨_, _, _, rfl⟩
  · exact sourceKeeps.trans grown.keeps
  · exact sourceKeeps

theorem OnlyAllocates.notNull {operand : Expr} (quiet : operand.OnlyAllocates) :
    (Expr.notNull operand).OnlyAllocates := by
  intro bindings memory result after evaluates
  rw [Expr.eval] at evaluates
  obtain ⟨⟨value, middle⟩, operandEval, evaluates⟩ := exists_of_bind_eq_ok evaluates
  cases evaluates
  exact quiet _ _ _ _ operandEval

theorem eval_call_singleton {receiver argument : Expr} {target : RunValue} {middle : Memory}
    {method : String} (isTarget : receiver.eval bindings memory = .ok (target, middle))
    (isArgument : argument.eval bindings middle = .ok (value, after)) :
    (Expr.call receiver method [argument]).eval bindings memory =
      callMethod target method [value] after := by
  rw [Expr.eval, isTarget]
  simp only [ok_bind, evalAll, isArgument, pure_bind]

theorem exists_of_evalAll_singleton {values : List RunValue}
    (evaluates : evalAll bindings [expr] memory = .ok (values, after)) :
    ∃ value, values = [value] ∧ expr.eval bindings memory = .ok (value, after) := by
  rw [evalAll] at evaluates
  obtain ⟨⟨value, middle⟩, evaluated, evaluates⟩ := exists_of_bind_eq_ok evaluates
  cases evaluates
  exact ⟨value, rfl, evaluated⟩

end Expr

end PropertyAssignment
