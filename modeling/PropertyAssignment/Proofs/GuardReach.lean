import PropertyAssignment.Assignment.Lowering
import PropertyAssignment.Proofs.BuildOutcome
import PropertyAssignment.Proofs.ContainerEvaluation

/-!
# How far a presence check reaches

A guard makes code of the assignment inside it; every other node takes no more of that than its
value. So a presence check guards what is written exactly if only guards stand around it. Under
any other node it is lost, and a build loses the checks inside the value in this way: the one that
it puts around the assignment itself is the only one left.
-/

namespace PropertyAssignment

namespace Stmt

mutual

/-- For every expression statement and every loop in the statement, the conditions in whose first
bodies it stands, the ones given included. -/
def conditions (around : List Expr) : Stmt → List (List Expr)
  | .declare .. => []
  | .branch condition thenBody elseBody =>
    conditionsOfAll (condition :: around) thenBody ++ conditionsOfAll around elseBody
  | .forEach _ _ _ body => around :: conditionsOfAll around body
  | .expression _ => [around]

def conditionsOfAll (around : List Expr) : List Stmt → List (List Expr)
  | [] => []
  | stmt :: rest => conditions around stmt ++ conditionsOfAll around rest

end

/-- Every expression statement and every loop of the code stands in the first body of a conditional
with this very condition. -/
def IsUnder (condition : Expr) (code : List Stmt) : Prop :=
  ∀ around ∈ conditionsOfAll [] code, condition ∈ around

section
variable {condition : Expr} {around : List Expr} {rest : List Stmt}

@[simp] theorem conditionsOfAll_nil : conditionsOfAll around [] = [] := rfl

@[simp] theorem conditionsOfAll_declare {type : JavaType} {name : String} {init : Expr} :
    conditionsOfAll around (.declare type name init :: rest) = conditionsOfAll around rest := rfl

@[simp] theorem conditionsOfAll_branch {thenBody elseBody : List Stmt} :
    conditionsOfAll around (.branch condition thenBody elseBody :: rest) =
      conditionsOfAll (condition :: around) thenBody ++ conditionsOfAll around elseBody ++
        conditionsOfAll around rest := rfl

@[simp] theorem conditionsOfAll_forEach {elementType : JavaType} {name : String} {iterable : Expr}
    {body : List Stmt} :
    conditionsOfAll around (.forEach elementType name iterable body :: rest) =
      around :: (conditionsOfAll around body ++ conditionsOfAll around rest) := rfl

@[simp] theorem conditionsOfAll_expression {expr : Expr} :
    conditionsOfAll around (.expression expr :: rest) = around :: conditionsOfAll around rest := rfl

end

end Stmt

namespace Assignment

/-- The presence checks of the guards that have only guards around them, the outermost one first. -/
def outerChecks : Assignment → List Expr
  | .guarded presence inner => presence :: inner.outerChecks
  | .source _ | .cast .. | .set .. | .mergeOrReplace .. | .mergeInto .. | .addEach .. => []

/-- The test that filling in place makes by itself, where only guards stand around it: that there is
a container in its local variable. -/
def fillCheck? : Assignment → Option Expr
  | .guarded _ inner => inner.fillCheck?
  | .mergeInto read _ _ => some (.notNull read.localVar)
  | .source _ | .cast .. | .set .. | .mergeOrReplace .. | .addEach .. => none

/-- The conditions around what an assignment does are its outer checks, and the test of a fill. -/
theorem conditions_lower_iff (node : Assignment) (target condition : Expr) (around : List Expr) :
    (∀ conditions ∈ Stmt.conditionsOfAll around (node.lower target), condition ∈ conditions) ↔
      condition ∈ around ∨ condition ∈ node.outerChecks ∨ node.fillCheck? = some condition := by
  induction node generalizing around with
  | source | cast | set | addEach => simp [lower, outerChecks, fillCheck?]
  | guarded presence inner ih =>
    simp only [lower, Stmt.conditionsOfAll_branch, Stmt.conditionsOfAll_nil, List.append_nil, ih,
      outerChecks, fillCheck?, List.mem_cons, or_assoc, or_left_comm]
  | mergeOrReplace read setter replacement inner =>
    -- What is set where no container is there stands in the other body, outside of the test.
    simp only [lower, ContainerRead.declaration, ContainerRead.clear, ContainerRead.fill,
      Stmt.conditionsOfAll_declare, Stmt.conditionsOfAll_branch, Stmt.conditionsOfAll_expression,
      Stmt.conditionsOfAll_nil, outerChecks, fillCheck?]
    simpa using List.mem_cons_of_mem read.localVar.notNull
  | mergeInto read clears inner =>
    cases clears <;>
      simp [lower, outerChecks, fillCheck?, ContainerRead.declaration, ContainerRead.clear,
        ContainerRead.fill, or_comm, eq_comm]

/-- Where the outer checks have no effect and one of them fails, nothing is done. -/
theorem execAll_lower_of_check_fails {node : Assignment} {presence : Expr} {state : RunState}
    (plain : ∀ check ∈ node.outerChecks, ∃ holds,
      check.eval state.bindings state.memory = .ok (.bool holds, state.memory))
    (isOuter : presence ∈ node.outerChecks)
    (fails : presence.eval state.bindings state.memory = .ok (.bool false, state.memory))
    (target : Expr) : Stmt.execAll (node.lower target) state = .ok state := by
  induction node with
  | source | cast | set | mergeOrReplace | mergeInto | addEach => cases isOuter
  | guarded check inner ih =>
    obtain ⟨holds, evaluated⟩ := plain check List.mem_cons_self
    rw [lower, Stmt.execAll_singleton, Stmt.exec, evaluated, ok_bind]
    cases holds with
    | false => rfl
    | true =>
      rcases List.mem_cons.mp isOuter with rfl | isInner
      · cases fails.symm.trans evaluated
      · exact ih (fun check inInner => plain check (List.mem_cons_of_mem _ inInner)) isInner

theorem outerChecks_node (strategy : WriteStrategy) (type : JavaType) (options : Options)
    (source : Assignment) (name : String) :
    (strategy.node type options source name).outerChecks = [] := by
  cases strategy <;> rfl

theorem outerChecks_underCheck (options : Options) (kind : ValueKind) (type : JavaType)
    (assignment : Assignment) (presence : Option Expr) :
    (underCheck options kind type assignment presence).outerChecks =
      (if needsGuard options kind type then presence.toList else []) ++ assignment.outerChecks := by
  cases presence with
  | none => simp [underCheck]
  | some check =>
    by_cases needed : needsGuard options kind type
    · simp [underCheck, needed, outerChecks]
    · simp [underCheck, needed]

/-- A presence check guards everything that an assignment does exactly if only guards stand around
it; apart from that there is the test that filling in place makes itself. Where such a check
fails, nothing is done, provided that the checks have no effect. What a build makes is guarded by
the presence check it was given, where this is needed, and by no check that the value has. -/
theorem isUnder_lower_iff (node : Assignment) (target presence : Expr) :
    (Stmt.IsUnder presence (node.lower target) ↔
        presence ∈ node.outerChecks ∨ node.fillCheck? = some presence) ∧
      (∀ state : RunState,
        (∀ check ∈ node.outerChecks, ∃ holds,
          check.eval state.bindings state.memory = .ok (.bool holds, state.memory)) →
        presence ∈ node.outerChecks →
        presence.eval state.bindings state.memory = .ok (.bool false, state.memory) →
          Stmt.execAll (node.lower target) state = .ok state) ∧
      ∀ options property check scope assignment,
        ((build options property node check).run.run scope).1 = .ok assignment →
          assignment.outerChecks =
            if needsGuard options node.kind property.type then check.toList else [] := by
  refine ⟨?_, ?_, ?_⟩
  · refine (conditions_lower_iff node target presence []).trans ?_
    simp only [List.not_mem_nil, false_or]
  · intro state plain isOuter fails
    exact execAll_lower_of_check_fails plain isOuter fails target
  · intro options property check scope assignment built
    obtain ⟨strategy, _, rfl⟩ := exists_chosen_of_build built
    rw [outerChecks_underCheck, outerChecks_node, List.append_nil]

/-- Two checks around a fill in place, of which the inner one fails. -/
theorem isUnder_lower_iff_fails :
    let tags := JavaType.generic "java.util.List" [.declared "java.lang.String"]
    let presence : Expr := .notNull (.var "tags")
    let node : Assignment := .guarded (.notNull (.var "target")) (.guarded presence
      (.mergeInto ⟨"getTags", tags, "list"⟩ true (.source ⟨.var "tags", .converted, .empty⟩)))
    let state : RunState :=
      ⟨⟨fun name => some (if name = "target" then .object 0 else .null), fun _ => none⟩,
        ⟨fun _ => ⟨false, []⟩, fun _ _ => none, fun _ => ⟨fun _ => .null, fun _ => none⟩, 1⟩⟩
    Stmt.IsUnder presence (node.lower (.var "target")) ∧
      Stmt.execAll (node.lower (.var "target")) state = .ok state := by
  intro tags presence node state
  have isOuter : presence ∈ node.outerChecks := List.mem_cons_of_mem _ List.mem_cons_self
  obtain ⟨reaches, nothing, _⟩ := isUnder_lower_iff node (.var "target") presence
  refine ⟨reaches.mpr (.inl isOuter), nothing state ?_ isOuter rfl⟩
  intro check isCheck
  rcases List.mem_cons.mp isCheck with rfl | isInner
  · exact ⟨true, rfl⟩
  · obtain rfl := List.mem_singleton.mp isInner
    exact ⟨false, rfl⟩

/-- A guarded name that is set: the setter is called whether the check holds or not. So it is when
a build is given the guarded name as a value. -/
theorem guard_lost_under_setter :
    let name : Expr := .get (.var "source") "getName"
    let presence : Expr := .notNull name
    let value : Assignment := .guarded presence (.source ⟨name, .direct, .empty⟩)
    let property : Property :=
      { name := "name", type := .declared "java.lang.String", setter := some "setName" }
    let node : Assignment := .set "setName" value
    value ∈ node.chain ∧ ¬ Stmt.IsUnder presence (node.lower (.var "target")) ∧
      ((build {} property value none).run.run .empty).1 = .ok node := by
  intro name presence value property node
  refine ⟨List.mem_cons_of_mem _ List.mem_cons_self, ?_, rfl⟩
  intro reaches
  rcases (conditions_lower_iff node (.var "target") presence []).mp reaches with
    none | none | none <;> cases none

end Assignment

end PropertyAssignment
