import PropertyAssignment.Proofs.VariableRenaming

/-!
# What a scope decides about a build

A scope hands out the name of a build's variable and decides nothing else. Two builds of one request
over any two scopes fail with the same error, or they give assignments that differ in that name
only. So it does not matter in which order a list of builds is carried out over one scope: each of
them has the same outcome up to the name, and as many names are taken in the end. The names may
well be others, since a name taken for one build can stand in the way of another one.
-/

namespace PropertyAssignment

namespace Assignment

/-- The assignments differ at most in the name of the variable that their code declares. -/
structure SameButName (first second : Assignment) : Prop where
  label : first.label = second.label
  labels : first.chain.map Assignment.label = second.chain.map Assignment.label
  kind : first.kind = second.kind
  valueExpr : first.valueExpr = second.valueExpr
  importTypes : first.importTypes = second.importTypes
  replacement : first.replacement? = second.replacement?
  /-- Given one name they are one assignment, so there is no other difference. -/
  rest : ∀ name, first.withVariableName name = second.withVariableName name
  /-- There is one code, with a name for the variable that occurs nowhere else in it, from which
  each of the two codes comes by putting in its own name. -/
  code : ∀ target common, common ∉ first.outerNames target → ∃ body,
    body = (first.withVariableName common).lower target ∧
      body = (second.withVariableName common).lower target ∧
      Stmt.renameAll common (first.variableName?.getD common) body = first.lower target ∧
      Stmt.renameAll common (second.variableName?.getD common) body = second.lower target

/-- The code comes from that under a name from nowhere else by putting in the own name. -/
theorem renameAll_own {target : Expr} {assignment : Assignment} {common : String}
    (fresh : common ∉ assignment.outerNames target) :
    Stmt.renameAll common (assignment.variableName?.getD common)
      ((assignment.withVariableName common).lower target) = assignment.lower target := by
  rw [renameAll_lower fresh, withVariableName_own]

theorem sameButName_of_rest {first second : Assignment}
    (rest : ∀ name, first.withVariableName name = second.withVariableName name) :
    first.SameButName second where
  label := by rw [← label_withVariableName "" first, rest, label_withVariableName]
  labels := by
    rw [← chain_labels_withVariableName "" first, rest, chain_labels_withVariableName]
  kind := by rw [← kind_withVariableName "" first, rest, kind_withVariableName]
  valueExpr := by rw [← valueExpr_withVariableName "" first, rest, valueExpr_withVariableName]
  importTypes := by
    rw [← importTypes_withVariableName "" first, rest, importTypes_withVariableName]
  replacement := by
    rw [← replacement_withVariableName "" first, rest, replacement_withVariableName]
  rest := rest
  code := by
    intro target common fresh
    -- The code takes the same variables from elsewhere under every name of its own.
    have freshToo : common ∉ second.outerNames target := by
      rwa [← outerNames_withVariableName common, ← rest, outerNames_withVariableName]
    refine ⟨_, rfl, by rw [rest], renameAll_own fresh, ?_⟩
    rw [rest]
    exact renameAll_own freshToo

theorem withVariableName_node (strategy : WriteStrategy) (type : JavaType) (options : Options)
    (source : Assignment) (name other : String) :
    (strategy.node type options source name).withVariableName other =
      strategy.node type options source other := by
  cases strategy <;> rfl

theorem withVariableName_underCheck (options : Options) (kind : ValueKind) (type : JavaType)
    (assignment : Assignment) (presence : Option Expr) (name : String) :
    (underCheck options kind type assignment presence).withVariableName name =
      underCheck options kind type (assignment.withVariableName name) presence := by
  cases presence with
  | none => rfl
  | some check =>
    simp only [underCheck]
    split <;> rfl

end Assignment

/-- A build to be carried out over some scope. -/
structure BuildRequest where
  options : Options
  property : Property
  value : Assignment
  presence : Option Expr

namespace BuildRequest

def run (request : BuildRequest) (scope : Scope) : Except BuildError Assignment × Scope :=
  (Assignment.build request.options request.property request.value request.presence).run.run scope

/-- The type of the variable that the build takes a name for, if it takes one. -/
def variableType? (request : BuildRequest) : Option JavaType :=
  match WriteStrategy.select request.property request.options request.value.kind with
  | .ok strategy => strategy.variableType? request.property.type
  | .error _ => none

/-- The outcomes of the builds over the scope, one after the other, and the scope that is left. -/
def runAll (scope : Scope) : List BuildRequest → List (Except BuildError Assignment) × Scope
  | [] => ([], scope)
  | request :: rest =>
    let (outcome, after) := request.run scope
    let (outcomes, last) := runAll after rest
    (outcome :: outcomes, last)

end BuildRequest

/-- Two builds fail with the same error, or both succeed with assignments that differ at most in
the name of the variable. -/
inductive OutcomesAgree :
    Except BuildError Assignment → Except BuildError Assignment → Prop
  | error (error : BuildError) : OutcomesAgree (.error error) (.error error)
  | ok (first second : Assignment) (same : first.SameButName second) :
    OutcomesAgree (.ok first) (.ok second)

namespace BuildRequest

theorem run_agrees (request : BuildRequest) (scope other : Scope) :
    OutcomesAgree (request.run scope).1 (request.run other).1 := by
  unfold run
  cases chosen : WriteStrategy.select request.property request.options request.value.kind with
  | error error =>
    rw [Assignment.build_run_of_error chosen, Assignment.build_run_of_error chosen]
    exact .error _
  | ok strategy =>
    rw [Assignment.build_run chosen, Assignment.build_run chosen]
    refine .ok _ _ (Assignment.sameButName_of_rest fun name => ?_)
    rw [Assignment.withVariableName_underCheck, Assignment.withVariableName_node,
      Assignment.withVariableName_underCheck, Assignment.withVariableName_node]

theorem run_scope (request : BuildRequest) (scope : Scope) :
    (request.run scope).2 = (scope.allocateFor? request.variableType?).2 := by
  unfold run variableType?
  cases chosen : WriteStrategy.select request.property request.options request.value.kind with
  | error error => rw [Assignment.build_run_of_error chosen]; rfl
  | ok strategy => rw [Assignment.build_run chosen]

theorem size_run (request : BuildRequest) (scope : Scope) :
    (request.run scope).2.size = scope.size + if request.variableType?.isSome then 1 else 0 := by
  rw [run_scope]
  cases request.variableType? with
  | none => rfl
  | some type => exact congrArg List.length (scope.names_allocateFor type)

theorem size_runAll (scope : Scope) (requests : List BuildRequest) :
    (runAll scope requests).2.size =
      scope.size + requests.countP fun request => request.variableType?.isSome := by
  induction requests generalizing scope with
  | nil => rfl
  | cons request rest ih =>
    rw [runAll, ih, size_run, List.countP_cons]
    omega

theorem exists_run_of_getElem? {requests : List BuildRequest} {place : Nat}
    {request : BuildRequest} (atPlace : requests[place]? = some request) (scope : Scope) :
    ∃ before, (runAll scope requests).1[place]? = some (request.run before).1 := by
  induction requests generalizing scope place with
  | nil => cases atPlace
  | cons first rest ih =>
    cases place with
    | zero =>
      cases atPlace
      exact ⟨scope, rfl⟩
    | succ place => exact ih atPlace (first.run scope).2

/-- A build over any two scopes has the same outcome up to the name of the variable. In any two
orders over one scope, every request has the same outcome up to that name, and as many names are
taken. -/
theorem scope_decidesNameOnly :
    (∀ (request : BuildRequest) (scope other : Scope),
      OutcomesAgree (request.run scope).1 (request.run other).1) ∧
      ∀ (scope : Scope) (first second : List BuildRequest), first.Perm second →
        (∀ (place other : Nat) (request : BuildRequest), first[place]? = some request →
          second[other]? = some request → ∃ outcome otherOutcome,
            (runAll scope first).1[place]? = some outcome ∧
              (runAll scope second).1[other]? = some otherOutcome ∧
              OutcomesAgree outcome otherOutcome) ∧
          (runAll scope first).2.size = (runAll scope second).2.size := by
  refine ⟨run_agrees, fun scope first second reordered => ⟨?_, ?_⟩⟩
  · intro place other request inFirst inSecond
    obtain ⟨before, outcome⟩ := exists_run_of_getElem? inFirst scope
    obtain ⟨beforeOther, otherOutcome⟩ := exists_run_of_getElem? inSecond scope
    exact ⟨_, _, outcome, otherOutcome, request.run_agrees before beforeOther⟩
  · rw [size_runAll, size_runAll, reordered.countP_eq]

/-- Two updates that get in each other's way: the one that comes second has to take another name. -/
theorem scope_decidesNameOnly_sets :
    let update (name getter : String) (type : JavaType) : BuildRequest :=
      ⟨.forUpdate, .bean name type, .source ⟨.get (.var "source") getter, .direct, .empty⟩, none⟩
    let tags := update "tags" "getTags" (.generic "java.util.Set" [.declared "java.lang.String"])
    let labels := update "labels" "getLabels" ⟨.parse "com.acme.Set1", [], some .sequence⟩
    let scope := Scope.ofList ["source", "target", "set"]
    let names (requests : List BuildRequest) :=
      (runAll scope requests).1.map fun outcome => outcome.toOption.bind Assignment.variableName?
    [tags, labels].Perm [labels, tags] ∧
      names [tags, labels] = [some "set1", some "set11"] ∧
      names [labels, tags] = [some "set1", some "set2"] ∧
      (∃ outcome other, (runAll scope [tags, labels]).1[0]? = some outcome ∧
        (runAll scope [labels, tags]).1[1]? = some other ∧ OutcomesAgree outcome other) ∧
      (runAll scope [tags, labels]).2.size = (runAll scope [labels, tags]).2.size := by
  intro update tags labels scope names
  have reordered : [tags, labels].Perm [labels, tags] := .swap labels tags []
  have ⟨agree, sizes⟩ := scope_decidesNameOnly.2 scope [tags, labels] [labels, tags] reordered
  exact ⟨reordered, by decide +kernel, by decide +kernel, agree 0 1 tags rfl rfl, sizes⟩

end BuildRequest

end PropertyAssignment
