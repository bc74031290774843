import PropertyAssignment.Assignment.Lowering
import PropertyAssignment.Code.Mentions
import PropertyAssignment.Proofs.BuildOutcome
import PropertyAssignment.Proofs.FreshName
import Mathlib.Data.List.Nodup

/-!
# Hygiene of variable names

One generated method is made by a list of requests on one scope: builds, allocations and
reservations, in any order. Each request is seen together with the scope that it meets. A build
declares at most one variable, under a name that its scope hands out; it uses only variables that
were in the scope before or that it declares itself. Since no request takes a name out of the
scope, no name is declared twice in the method, and none that was in use before.
-/

namespace PropertyAssignment

namespace Expr

def IsBoundIn (bound : List String) (expr : Expr) : Prop :=
  ∀ name ∈ expr.usedNames, name ∈ bound

instance (bound : List String) (expr : Expr) : Decidable (expr.IsBoundIn bound) :=
  inferInstanceAs (Decidable (∀ name ∈ expr.usedNames, name ∈ bound))

theorem IsBoundIn.cons {bound : List String} {expr : Expr} (inBound : expr.IsBoundIn bound)
    (name : String) : expr.IsBoundIn (name :: bound) :=
  fun used member => List.mem_cons_of_mem _ (inBound used member)

@[simp] theorem isBoundIn_var {bound : List String} {name : String} :
    (var name).IsBoundIn bound ↔ name ∈ bound := by
  simp [IsBoundIn, Expr.usedNames]

@[simp] theorem isBoundIn_call {bound : List String} {receiver : Expr} {method : String}
    {arguments : List Expr} :
    (call receiver method arguments).IsBoundIn bound ↔
      receiver.IsBoundIn bound ∧ ∀ argument ∈ arguments, argument.IsBoundIn bound := by
  simp only [IsBoundIn, Expr.usedNames, usedNamesOfAll_eq_flatMap, List.mem_append,
    List.mem_flatMap]
  constructor
  · intro all
    exact ⟨fun name inReceiver => all name (.inl inReceiver),
      fun argument member name inArgument => all name (.inr ⟨argument, member, inArgument⟩)⟩
  · rintro ⟨inReceiver, inArguments⟩ name (member | ⟨argument, isArgument, member⟩)
    · exact inReceiver name member
    · exact inArguments argument isArgument name member

@[simp] theorem isBoundIn_get {bound : List String} {receiver : Expr} {method : String} :
    (receiver.get method).IsBoundIn bound ↔ receiver.IsBoundIn bound := by
  simp [get]

@[simp] theorem isBoundIn_new {bound : List String} {type : JavaType} {arguments : List Expr} :
    (new type arguments).IsBoundIn bound ↔ ∀ argument ∈ arguments, argument.IsBoundIn bound := by
  simp only [IsBoundIn, Expr.usedNames, usedNamesOfAll_eq_flatMap, List.mem_flatMap]
  constructor
  · intro all argument member name inArgument
    exact all name ⟨argument, member, inArgument⟩
  · rintro inArguments name ⟨argument, isArgument, member⟩
    exact inArguments argument isArgument name member

@[simp] theorem isBoundIn_notNull {bound : List String} {operand : Expr} :
    (notNull operand).IsBoundIn bound ↔ operand.IsBoundIn bound :=
  Iff.rfl

theorem all_usedNames_iff {bound : List String} {expr : Expr} :
    expr.usedNames.all bound.contains = true ↔ expr.IsBoundIn bound := by
  simp [IsBoundIn]

end Expr

namespace Stmt

section
variable {bound : List String} {rest : List Stmt}

@[simp] theorem isClosedBody_nil : isClosedBody bound [] = true := rfl

@[simp] theorem isClosedBody_declare {type : JavaType} {name : String} {init : Expr} :
    isClosedBody bound (.declare type name init :: rest) = true ↔
      init.IsBoundIn bound ∧ isClosedBody (name :: bound) rest = true := by
  rw [isClosedBody, isClosed, Bool.and_eq_true, Expr.all_usedNames_iff]

@[simp] theorem isClosedBody_branch {condition : Expr} {thenBody elseBody : List Stmt} :
    isClosedBody bound (.branch condition thenBody elseBody :: rest) = true ↔
      (condition.IsBoundIn bound ∧ isClosedBody bound thenBody = true ∧
        isClosedBody bound elseBody = true) ∧ isClosedBody bound rest = true := by
  simp only [isClosedBody, isClosed, Bool.and_eq_true, Expr.all_usedNames_iff, and_assoc]

@[simp] theorem isClosedBody_forEach {elementType : JavaType} {name : String} {iterable : Expr}
    {body : List Stmt} :
    isClosedBody bound (.forEach elementType name iterable body :: rest) = true ↔
      (iterable.IsBoundIn bound ∧ isClosedBody (name :: bound) body = true) ∧
        isClosedBody bound rest = true := by
  simp only [isClosedBody, isClosed, Bool.and_eq_true, Expr.all_usedNames_iff]

@[simp] theorem isClosedBody_expression {expr : Expr} :
    isClosedBody bound (.expression expr :: rest) = true ↔
      expr.IsBoundIn bound ∧ isClosedBody bound rest = true := by
  simp only [isClosedBody, isClosed, Bool.and_eq_true, Expr.all_usedNames_iff]

end

end Stmt

namespace Assignment

/-- The name of the variable that the code of an assignment declares, if it declares one. -/
def variableName? : Assignment → Option String
  | .guarded _ inner => inner.variableName?
  | .mergeOrReplace read _ _ _ | .mergeInto read _ _ => some read.localName
  | .addEach _ _ loopName _ => some loopName
  | .source _ | .cast .. | .set .. => none

theorem declaredNames_lower (target : Expr) (assignment : Assignment) :
    Stmt.declaredNamesOfAll (assignment.lower target) = assignment.variableName?.toList := by
  induction assignment with
  | guarded presence inner ih =>
    simp only [lower, variableName?, Stmt.declaredNamesOfAll, Stmt.declaredNames, ih,
      List.append_nil]
  | mergeInto read clears inner => cases clears <;> rfl
  | source | cast | set | mergeOrReplace | addEach => rfl

theorem variableName_node (strategy : WriteStrategy) (type : JavaType) (options : Options)
    (source : Assignment) (name : String) :
    (strategy.node type options source name).variableName? =
      (strategy.variableType? type).map fun _ => name := by
  cases strategy <;> rfl

theorem variableName_underCheck (options : Options) (kind : ValueKind) (type : JavaType)
    (assignment : Assignment) (presence : Option Expr) :
    (underCheck options kind type assignment presence).variableName? =
      assignment.variableName? := by
  rcases underCheck_cases options kind type assignment presence with same | ⟨check, _, guarded⟩
  · rw [same]
  · rw [guarded]
    rfl

section Closed
variable {bound : List String} {target : Expr} {inner : Assignment}

theorem isClosedBody_lower_mergeOrReplace (read : ContainerRead) (setter : String)
    {replacement : Option Assignment} (inTarget : target.IsBoundIn bound)
    (inValue : inner.valueExpr.IsBoundIn bound)
    (inReplacement : (replacementExpr replacement inner).IsBoundIn bound) :
    Stmt.isClosedBody bound ((mergeOrReplace read setter replacement inner).lower target) =
      true := by
  simp [lower, ContainerRead.declaration, ContainerRead.localVar, ContainerRead.clear,
    ContainerRead.fill, inTarget, inTarget.cons, inValue.cons, inReplacement.cons]

theorem isClosedBody_lower_mergeInto (read : ContainerRead) (clears : Bool)
    (inTarget : target.IsBoundIn bound) (inValue : inner.valueExpr.IsBoundIn bound) :
    Stmt.isClosedBody bound ((mergeInto read clears inner).lower target) = true := by
  cases clears <;>
    simp [lower, ContainerRead.declaration, ContainerRead.localVar, ContainerRead.clear,
      ContainerRead.fill, inTarget, inValue.cons]

/-- The code of a strategy's node uses variables of the target and of the value, and its own one
after the declaration. -/
theorem isClosedBody_lower_node (strategy : WriteStrategy) (type : JavaType) (options : Options)
    (name : String) (inTarget : target.IsBoundIn bound)
    (inValue : inner.valueExpr.IsBoundIn bound) :
    Stmt.isClosedBody bound ((strategy.node type options inner name).lower target) = true := by
  have inCopy : (copyOf type inner).expr.IsBoundIn bound := by simpa [copyOf] using inValue
  cases strategy with
  | addEach adder element => simp [WriteStrategy.node, lower, inTarget.cons, inValue]
  | mergeOrReplace setter getter =>
    refine isClosedBody_lower_mergeOrReplace _ _ inTarget inValue ?_
    split
    · exact inCopy
    · exact inValue
  | set setter copy =>
    cases copy with
    | true => simp [WriteStrategy.node, lower, valueExpr, inTarget, inCopy]
    | false => simp [WriteStrategy.node, lower, inTarget, inValue]
  | mergeInto getter => exact isClosedBody_lower_mergeInto _ _ inTarget inValue

end Closed

end Assignment

/-- A request on the scope of a method. A build comes with the target that its code writes to. -/
inductive ScopeRequest where
  | build (options : Options) (property : Property) (value : Assignment) (presence : Option Expr)
      (target : Expr)
  | allocate (base : String)
  | allocateFor (type : JavaType)
  | reserve (name : String)

/-- A request together with the scope that it meets. -/
structure ScopeStep where
  before : Scope
  request : ScopeRequest

namespace ScopeStep

/-- The code that a step adds to the method: that of a build if it succeeds. -/
def emitted (step : ScopeStep) : List Stmt :=
  match step.request with
  | .build options property value presence target =>
    match ((Assignment.build options property value presence).run.run step.before).1 with
    | .ok assignment => assignment.lower target
    | .error _ => []
  | .allocate _ | .allocateFor _ | .reserve _ => []

/-- The scope that a step leaves. -/
def after (step : ScopeStep) : Scope :=
  match step.request with
  | .build options property value presence _ =>
    ((Assignment.build options property value presence).run.run step.before).2
  | .allocate base => (step.before.allocate base).2
  | .allocateFor type => (step.before.allocateFor type).2
  | .reserve name => (step.before.reserve name).2

/-- The names that a step puts in use: those its code declares, or the one asked for. -/
def taken (step : ScopeStep) : List String :=
  match step.request with
  | .build .. => Stmt.declaredNamesOfAll step.emitted
  | .allocate base => [(step.before.allocate base).1]
  | .allocateFor type => [(step.before.allocateFor type).1]
  | .reserve name => [name]

/-- The scope has every variable of the value, of the presence check and of the target. -/
def IsScoped (step : ScopeStep) : Prop :=
  match step.request with
  | .build _ _ value presence target =>
    value.valueExpr.IsBoundIn step.before.names ∧ target.IsBoundIn step.before.names ∧
      ∀ check ∈ presence, check.IsBoundIn step.before.names
  | .allocate _ | .allocateFor _ | .reserve _ => True

instance : (step : ScopeStep) → Decidable step.IsScoped
  | ⟨_, .build ..⟩ => inferInstanceAs (Decidable (_ ∧ _ ∧ _))
  | ⟨_, .allocate _⟩ | ⟨_, .allocateFor _⟩ | ⟨_, .reserve _⟩ => isTrue trivial

theorem build_cases (before : Scope) (options : Options) (property : Property)
    (value : Assignment) (presence : Option Expr) (target : Expr) :
    let step : ScopeStep := ⟨before, .build options property value presence target⟩
    (step.emitted = [] ∧ step.after = before) ∨
      ∃ strategy : WriteStrategy,
        step.emitted = (Assignment.underCheck options value.kind property.type
          (strategy.node property.type options value
            (before.allocateFor? (strategy.variableType? property.type)).1) presence).lower
              target ∧
        step.after = (before.allocateFor? (strategy.variableType? property.type)).2 := by
  intro step
  cases chosen : WriteStrategy.select property options value.kind with
  | error error =>
    have run := Assignment.build_run_of_error chosen presence before
    left
    simp only [step, emitted, after, run, and_self]
  | ok strategy =>
    have run := Assignment.build_run chosen presence before
    right
    refine ⟨strategy, ?_⟩
    simp only [step, emitted, after, run, and_self]

/-- What a build declares, as the type for which its scope hands out a name. -/
theorem build_declares (before : Scope) (options : Options) (property : Property)
    (value : Assignment) (presence : Option Expr) (target : Expr) :
    let step : ScopeStep := ⟨before, .build options property value presence target⟩
    ∃ type? : Option JavaType,
      Stmt.declaredNamesOfAll step.emitted =
        (type?.map fun type => (before.allocateFor type).1).toList ∧
      step.after = (before.allocateFor? type?).2 := by
  intro step
  rcases build_cases before options property value presence target with
    ⟨nothing, unchanged⟩ | ⟨strategy, code, left⟩
  · exact ⟨none, by rw [nothing]; rfl, unchanged⟩
  · refine ⟨strategy.variableType? property.type, ?_, left⟩
    rw [code, Assignment.declaredNames_lower, Assignment.variableName_underCheck,
      Assignment.variableName_node]
    cases strategy.variableType? property.type <;> rfl

theorem declared_nodup (step : ScopeStep) :
    (Stmt.declaredNamesOfAll step.emitted).Nodup := by
  obtain ⟨before, request⟩ := step
  cases request with
  | build options property value presence target =>
    obtain ⟨type?, declared, _⟩ := build_declares before options property value presence target
    rw [declared]
    cases type? <;> simp
  | allocate | allocateFor | reserve => exact .nil

theorem taken_isTaken (step : ScopeStep) :
    ∀ name ∈ step.taken, step.before.isTaken name = false ∨ step.request = .reserve name := by
  obtain ⟨before, request⟩ := step
  intro name member
  cases request with
  | build options property value presence target =>
    obtain ⟨type?, declared, _⟩ := build_declares before options property value presence target
    rw [taken, declared] at member
    cases type? with
    | none => cases member
    | some type =>
      obtain rfl := List.mem_singleton.mp member
      exact .inl (before.allocateFor_not_isTaken type)
  | allocate base =>
    obtain rfl := List.mem_singleton.mp member
    exact .inl (before.allocate_not_isTaken base)
  | allocateFor type =>
    obtain rfl := List.mem_singleton.mp member
    exact .inl (before.allocateFor_not_isTaken type)
  | reserve reserved =>
    obtain rfl := List.mem_singleton.mp member
    exact .inr rfl

theorem mem_names_after (step : ScopeStep) (name : String) :
    name ∈ step.after.names ↔ name ∈ step.before.names ∨ name ∈ step.taken := by
  obtain ⟨before, request⟩ := step
  cases request with
  | build options property value presence target =>
    obtain ⟨type?, declared, left⟩ :=
      build_declares before options property value presence target
    rw [left, taken, declared]
    cases type? with
    | none => simp [Scope.allocateFor?]
    | some type => simp [Scope.allocateFor?, Scope.names_allocateFor, or_comm]
  | allocate base => simp [after, taken, Scope.names_allocate, or_comm]
  | allocateFor type => simp [after, taken, Scope.names_allocateFor, or_comm]
  | reserve reserved => simp [after, taken, Scope.reserve, Scope.mem_names_insert, or_comm]

theorem declared_isFree (step : ScopeStep) :
    ∀ name ∈ Stmt.declaredNamesOfAll step.emitted,
      isReservedWord name = false ∧ name ∉ step.before.names := by
  intro name member
  have free : step.before.isTaken name = false := by
    obtain ⟨before, request⟩ := step
    cases request with
    | build options property value presence target =>
      rcases taken_isTaken ⟨before, .build options property value presence target⟩ name member
        with free | reserved
      · exact free
      · cases reserved
    | allocate | allocateFor | reserve => cases member
  exact (Scope.isTaken_eq_false_iff.mp free).symm

theorem declared_subset_after (step : ScopeStep) :
    ∀ name ∈ Stmt.declaredNamesOfAll step.emitted, name ∈ step.after.names := by
  obtain ⟨before, request⟩ := step
  intro name member
  cases request with
  | build options property value presence target =>
    exact (mem_names_after _ name).mpr (.inr member)
  | allocate | allocateFor | reserve => cases member

theorem isClosedBody_emitted {step : ScopeStep} (inScope : step.IsScoped) :
    Stmt.isClosedBody step.before.names step.emitted = true := by
  obtain ⟨before, request⟩ := step
  cases request with
  | build options property value presence target =>
    obtain ⟨inValue, inTarget, inCheck⟩ := inScope
    rcases build_cases before options property value presence target with
      ⟨nothing, _⟩ | ⟨strategy, code, _⟩
    · rw [nothing]
      rfl
    · have written := Assignment.isClosedBody_lower_node strategy property.type options
        (before.allocateFor? (strategy.variableType? property.type)).1 inTarget inValue
      rw [code]
      rcases Assignment.underCheck_cases options value.kind property.type
        (strategy.node property.type options value
          (before.allocateFor? (strategy.variableType? property.type)).1) presence with
        same | ⟨check, isPresent, guarded⟩
      · rw [same]
        exact written
      · rw [guarded]
        simp [Assignment.lower, inCheck check isPresent, written]
  | allocate | allocateFor | reserve => rfl

end ScopeStep

/-- The steps that requests on a scope amount to, one after the other. -/
def scopeSteps : Scope → List ScopeRequest → List ScopeStep
  | _, [] => []
  | scope, request :: rest =>
    ⟨scope, request⟩ :: scopeSteps (ScopeStep.after ⟨scope, request⟩) rest

def methodBody (scope : Scope) (requests : List ScopeRequest) : List Stmt :=
  (scopeSteps scope requests).flatMap ScopeStep.emitted

theorem names_subset_of_mem_scopeSteps {scope : Scope} {requests : List ScopeRequest} :
    ∀ step ∈ scopeSteps scope requests, ∀ name ∈ scope.names, name ∈ step.before.names := by
  induction requests generalizing scope with
  | nil => simp [scopeSteps]
  | cons request rest ih =>
    intro step member name inScope
    rcases List.mem_cons.mp member with rfl | later
    · exact inScope
    · exact ih step later name ((ScopeStep.mem_names_after _ name).mpr (.inl inScope))

theorem scopeSteps_pairwise (scope : Scope) (requests : List ScopeRequest) :
    (scopeSteps scope requests).Pairwise fun earlier later =>
      ∀ name ∈ earlier.after.names, name ∈ later.before.names := by
  induction requests generalizing scope with
  | nil => exact .nil
  | cons request rest ih => exact .cons names_subset_of_mem_scopeSteps (ih _)

theorem methodBody_declared_nodup (scope : Scope) (requests : List ScopeRequest) :
    (Stmt.declaredNamesOfAll (methodBody scope requests)).Nodup := by
  rw [Stmt.declaredNamesOfAll_eq_flatMap, methodBody, List.flatMap_assoc, List.nodup_flatMap]
  constructor
  · intro step _
    rw [← Stmt.declaredNamesOfAll_eq_flatMap]
    exact step.declared_nodup
  · refine (scopeSteps_pairwise scope requests).imp ?_
    intro earlier later kept name inEarlier inLater
    simp only [← Stmt.declaredNamesOfAll_eq_flatMap] at inEarlier inLater
    exact (later.declared_isFree name inLater).2
      (kept name (earlier.declared_subset_after name inEarlier))

/-- In a method made by well-scoped requests no variable is declared twice, none bears a reserved
word or a name that was in use before its build, and every variable that a build's code uses was
in scope or is declared around that use. No request takes a name out of the scope or hands out
one that is in it. -/
theorem methodBody_hygienic {scope : Scope} {requests : List ScopeRequest}
    (inScope : ∀ step ∈ scopeSteps scope requests, step.IsScoped) :
    (Stmt.declaredNamesOfAll (methodBody scope requests)).Nodup ∧
      ((scopeSteps scope requests).Pairwise fun earlier later =>
        ∀ name ∈ earlier.after.names, name ∈ later.before.names) ∧
      ∀ step ∈ scopeSteps scope requests,
        (∀ name ∈ Stmt.declaredNamesOfAll step.emitted,
          isReservedWord name = false ∧ name ∉ step.before.names) ∧
        Stmt.isClosedBody step.before.names step.emitted = true ∧
        (∀ name, name ∈ step.after.names ↔ name ∈ step.before.names ∨ name ∈ step.taken) ∧
        ∀ name ∈ step.taken,
          step.before.isTaken name = false ∨ step.request = .reserve name := by
  refine ⟨methodBody_declared_nodup scope requests, scopeSteps_pairwise scope requests, ?_⟩
  intro step member
  exact ⟨step.declared_isFree, ScopeStep.isClosedBody_emitted (inScope step member),
    step.mem_names_after, step.taken_isTaken⟩

/-- Two updates of sets with a reservation between them that takes the next number. -/
theorem methodBody_hygienic_updates :
    let tags := JavaType.generic "java.util.Set" [.declared "java.lang.String"]
    let update (name getter : String) : ScopeRequest :=
      .build .forUpdate (.bean name tags) (.source ⟨.get (.var "source") getter, .direct, .empty⟩)
        (some (.notNull (.get (.var "source") getter))) (.var "target")
    let scope := Scope.ofList ["source", "target"]
    let requests := [update "tags" "getTags", .reserve "set1", update "labels" "getLabels",
      .allocate "set"]
    (∀ step ∈ scopeSteps scope requests, step.IsScoped) ∧
      Stmt.declaredNamesOfAll (methodBody scope requests) = ["set", "set2"] ∧
      (Stmt.declaredNamesOfAll (methodBody scope requests)).Nodup := by
  intro tags update scope requests
  have inScope : ∀ step ∈ scopeSteps scope requests, step.IsScoped := by decide +kernel
  exact ⟨inScope, by decide +kernel, (methodBody_hygienic inScope).1⟩

end PropertyAssignment
