import PropertyAssignment.Proofs.EvaluationEffects

/-!
# Statements that a run comes to

A run of a body comes to a statement, in some state, if it gets that far: past the statements in
front of it, into the branch that the condition chooses, or into an iteration of a loop. Code is
deterministic, so the states in which a statement is reached are settled by the body and the state
that the run starts in. No run takes an address out of use, hence what is in use at the start is in
use wherever the run comes to.
-/

namespace PropertyAssignment.Stmt

/-- A run of the body from the first state comes to the statement in the second one. -/
inductive Reaches : List Stmt → RunState → Stmt → RunState → Prop
  | here (stmt : Stmt) (rest : List Stmt) (state : RunState) :
      Reaches (stmt :: rest) state stmt state
  | later {first stmt : Stmt} {rest : List Stmt} {state middle reached : RunState}
      (runs : first.exec state = .ok middle) (reaches : Reaches rest middle stmt reached) :
      Reaches (first :: rest) state stmt reached
  | thenBody {condition : Expr} {stmt : Stmt} {thenBody elseBody rest : List Stmt}
      {state reached : RunState} {memory : Memory}
      (holds : condition.eval state.bindings state.memory = .ok (.bool true, memory))
      (reaches : Reaches thenBody ⟨state.bindings, memory⟩ stmt reached) :
      Reaches (.branch condition thenBody elseBody :: rest) state stmt reached
  | elseBody {condition : Expr} {stmt : Stmt} {thenBody elseBody rest : List Stmt}
      {state reached : RunState} {memory : Memory}
      (fails : condition.eval state.bindings state.memory = .ok (.bool false, memory))
      (reaches : Reaches elseBody ⟨state.bindings, memory⟩ stmt reached) :
      Reaches (.branch condition thenBody elseBody :: rest) state stmt reached
  | iteration {elementType : JavaType} {name item : String} {iterable : Expr} {stmt : Stmt}
      {body rest : List Stmt} {state middle reached : RunState} {address : Nat} {memory : Memory}
      {before after : List String}
      (evaluates : iterable.eval state.bindings state.memory = .ok (.sequence address, memory))
      (items : (memory.sequences address).items = before ++ item :: after)
      (earlier : before.foldlM (fun state item => execAll body (state.bind name (.text item)))
        ⟨state.bindings, memory⟩ = .ok middle)
      (reaches : Reaches body (middle.bind name (.text item)) stmt reached) :
      Reaches (.forEach elementType name iterable body :: rest) state stmt reached

/-- What holds between the states around each iteration holds between those around the loop. -/
theorem rel_of_foldlM (related : RunState → RunState → Prop) (refl : ∀ state, related state state)
    (trans : ∀ {first second third}, related first second → related second third →
      related first third)
    {step : RunState → String → Except RunError RunState} {items : List String}
    (each : ∀ state item final, step state item = .ok final → related state final)
    {state final : RunState} (runs : items.foldlM step state = .ok final) :
    related state final := by
  induction items generalizing state with
  | nil =>
    cases runs
    exact refl _
  | cons item rest ih =>
    rw [List.foldlM_cons] at runs
    obtain ⟨middle, first, runs⟩ := exists_of_bind_eq_ok runs
    exact trans (each state item middle first) (ih runs)

section
variable {stmt : Stmt} {body : List Stmt} {state final reached : RunState}

theorem next_le_of_execAll_of_forall
    (each : ∀ stmt ∈ body, ∀ {state final}, stmt.exec state = .ok final →
      state.memory.next ≤ final.memory.next)
    (runs : execAll body state = .ok final) : state.memory.next ≤ final.memory.next := by
  induction body generalizing state with
  | nil =>
    cases runs
    exact Nat.le_refl _
  | cons stmt rest ih =>
    rw [execAll] at runs
    obtain ⟨middle, first, runs⟩ := exists_of_bind_eq_ok runs
    exact Nat.le_trans (each stmt List.mem_cons_self first)
      (ih (fun stmt member => each stmt (List.mem_cons_of_mem _ member)) runs)

/-- The loop variable is bound for each iteration, which leaves the memory as it is. -/
theorem next_le_of_iterations {name : String} {items : List String}
    (each : ∀ {state final}, execAll body state = .ok final →
      state.memory.next ≤ final.memory.next)
    (runs : items.foldlM (fun state item => execAll body (state.bind name (.text item))) state =
      .ok final) : state.memory.next ≤ final.memory.next := by
  refine rel_of_foldlM (fun state final => state.memory.next ≤ final.memory.next)
    (fun _ => Nat.le_refl _) (fun left right => Nat.le_trans left right) ?_ runs
  intro state item final iterationRuns
  have grown := each iterationRuns
  exact grown

theorem next_le_of_exec (runs : stmt.exec state = .ok final) :
    state.memory.next ≤ final.memory.next := by
  induction stmt generalizing state final with
  | declare type name init =>
    rw [exec] at runs
    obtain ⟨⟨value, memory⟩, evaluated, runs⟩ := exists_of_bind_eq_ok runs
    cases runs
    exact Expr.next_le_of_eval evaluated
  | branch condition thenBody elseBody thenIh elseIh =>
    rw [exec] at runs
    obtain ⟨⟨value, memory⟩, evaluated, runs⟩ := exists_of_bind_eq_ok runs
    refine Nat.le_trans (Expr.next_le_of_eval evaluated) ?_
    cases value with
    | null | text | sequence | map | object => cases runs
    | bool holds =>
      cases holds with
      | true => exact next_le_of_execAll_of_forall thenIh runs
      | false => exact next_le_of_execAll_of_forall elseIh runs
  | forEach elementType name iterable body bodyIh =>
    rw [exec] at runs
    obtain ⟨⟨value, memory⟩, evaluated, runs⟩ := exists_of_bind_eq_ok runs
    refine Nat.le_trans (Expr.next_le_of_eval evaluated) ?_
    cases value with
    | null | bool | text | map | object => cases runs
    | sequence address =>
      exact next_le_of_iterations (next_le_of_execAll_of_forall bodyIh) runs
  | expression expr =>
    rw [exec] at runs
    obtain ⟨⟨value, memory⟩, evaluated, runs⟩ := exists_of_bind_eq_ok runs
    cases runs
    exact Expr.next_le_of_eval evaluated

theorem next_le_of_execAll (runs : execAll body state = .ok final) :
    state.memory.next ≤ final.memory.next :=
  next_le_of_execAll_of_forall (fun _ _ => next_le_of_exec) runs

theorem Reaches.next_le (reaches : Reaches body state stmt reached) :
    state.memory.next ≤ reached.memory.next := by
  induction reaches with
  | here => exact Nat.le_refl _
  | later runs _ ih => exact Nat.le_trans (next_le_of_exec runs) ih
  | thenBody evaluated _ ih | elseBody evaluated _ ih =>
    exact Nat.le_trans (Expr.next_le_of_eval evaluated) ih
  | iteration evaluates _ earlier _ ih =>
    exact Nat.le_trans (Expr.next_le_of_eval evaluates)
      (Nat.le_trans (next_le_of_iterations next_le_of_execAll earlier) ih)

end

end PropertyAssignment.Stmt
