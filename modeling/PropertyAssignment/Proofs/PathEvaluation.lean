import Mathlib.Data.List.Basic
import PropertyAssignment.Code.Paths
import PropertyAssignment.Proofs.GuardReach

/-!
# What is evaluated on a path

The code of an assignment names the value, the target and the getter in several places, but a path
comes past few of them. A route is a path told in steps, each of which says what it evaluates: a
check, the value, a call on the target. The paths through the code are the routes of the assignment,
so calls along a path are counted by counting steps. A route evaluates a value at most once, makes
each call of the node at most once, and either sets or fills.
-/

namespace PropertyAssignment

/-- A step on the way through the code of an assignment. -/
inductive Step where
  /-- The presence check of a guard. -/
  | check (presence : Expr)
  /-- The value by itself. -/
  | evaluate (value : Expr)
  /-- The container is read from the target. -/
  | read (getter : String)
  /-- The test that there is a container. -/
  | test (localName : String)
  | clear (localName : String)
  | fill (localName method : String) (value : Expr)
  | set (setter : String) (value : Expr)
  /-- The value that a loop goes over. -/
  | iterate (value : Expr)
  | add (adder loopName : String)

namespace Step

@[simp] def expr (target : Expr) : Step → Expr
  | .check presence => presence
  | .evaluate value => value
  | .read getter => target.get getter
  | .test localName => .notNull (.var localName)
  | .clear localName => .get (.var localName) "clear"
  | .fill localName method value => .call (.var localName) method [value]
  | .set setter value => .call target setter [value]
  | .iterate value => value
  | .add adder loopName => .call target adder [.var loopName]

@[simp] def check? : Step → Option Expr
  | .check presence => some presence
  | .evaluate _ | .read _ | .test _ | .clear _ | .fill .. | .set .. | .iterate _ | .add .. => none

@[simp] def value? : Step → Option Expr
  | .evaluate value | .fill _ _ value | .set _ value | .iterate value => some value
  | .check _ | .read _ | .test _ | .clear _ | .add .. => none

/-- The method that the code calls by itself at the step. -/
@[simp] def method? : Step → Option String
  | .read method | .fill _ method _ | .set method _ | .add method _ => some method
  | .clear _ => some "clear"
  | .check _ | .evaluate _ | .test _ | .iterate _ => none

@[simp] def isOnTarget : Step → Bool
  | .read _ | .set .. | .add .. => true
  | .check _ | .evaluate _ | .test _ | .clear _ | .fill .. | .iterate _ => false

@[simp] def changesContainer : Step → Bool
  | .clear _ | .fill .. => true
  | .check _ | .evaluate _ | .read _ | .test _ | .set .. | .iterate _ | .add .. => false

@[simp] def sets : Step → Bool
  | .set .. => true
  | .check _ | .evaluate _ | .read _ | .test _ | .clear _ | .fill .. | .iterate _ | .add .. => false

theorem callCount_expr (method : String) (target : Expr) (step : Step) :
    (step.expr target).callCount method =
      Expr.callCounts method step.check?.toList + Expr.callCounts method step.value?.toList +
        (if step.isOnTarget then target.callCount method else 0) +
        step.method?.toList.count method := by
  cases step <;>
    simp [Expr.get, Expr.callCount, Expr.callCounts, List.count_singleton] <;>
    omega

end Step

namespace Expr

theorem callCounts_append (method : String) (first second : List Expr) :
    callCounts method (first ++ second) = callCounts method first + callCounts method second := by
  induction first with
  | nil => exact (Nat.zero_add _).symm
  | cons expr rest ih => rw [List.cons_append, callCounts, callCounts, ih, Nat.add_assoc]

theorem callCounts_le_of_sublist {method : String} {part exprs : List Expr}
    (isPart : part.Sublist exprs) : callCounts method part ≤ callCounts method exprs := by
  induction isPart with
  | slnil => exact Nat.le_refl _
  | cons expr _ ih => exact Nat.le_trans ih (Nat.le_add_left _ _)
  | cons_cons expr _ ih => exact Nat.add_le_add_left ih _

theorem callCounts_le_of_length_le_one {method : String} {exprs : List Expr} {count : Nat}
    (single : exprs.length ≤ 1) (each : ∀ expr ∈ exprs, expr.callCount method ≤ count) :
    callCounts method exprs ≤ count := by
  cases exprs with
  | nil => exact Nat.zero_le count
  | cons expr rest =>
    have noRest : rest = [] := List.eq_nil_of_length_eq_zero (by simpa using single)
    have atMost := each expr List.mem_cons_self
    rw [noRest]
    exact atMost

end Expr

namespace Assignment

/-- The ways through the code of an assignment. Behind a check that fails nothing is done. -/
def routes : Assignment → List (List Step)
  | .source value => [[.evaluate value.expr]]
  | .cast type inner => [[.evaluate (.cast type inner.valueExpr)]]
  | .guarded presence inner => (inner.routes ++ [[]]).map (.check presence :: ·)
  | .set setter inner => [[.set setter inner.valueExpr]]
  | .mergeOrReplace read setter replacement inner =>
    [[.read read.getter, .test read.localName, .clear read.localName,
        .fill read.localName read.bulkInsert inner.valueExpr],
      [.read read.getter, .test read.localName,
        .set setter (replacementExpr replacement inner)]]
  | .mergeInto read clears inner =>
    [[.read read.getter, .test read.localName] ++
        (if clears then [.clear read.localName] else []) ++
        [.fill read.localName read.bulkInsert inner.valueExpr],
      [.read read.getter, .test read.localName]]
  | .addEach adder _ loopName inner => [[.iterate inner.valueExpr, .add adder loopName]]

/-- The methods that the code of an assignment calls by itself, in the order of the text. -/
def ownMethods : Assignment → List String
  | .guarded _ inner => inner.ownMethods
  | .set setter _ => [setter]
  | .mergeOrReplace read setter _ _ => [read.getter, "clear", read.bulkInsert, setter]
  | .mergeInto read clears _ =>
    read.getter :: ((if clears then ["clear"] else []) ++ [read.bulkInsert])
  | .addEach adder _ _ _ => [adder]
  | .source _ | .cast .. => []

/-- How the code reads the container that is there, if it does. -/
def containerRead? : Assignment → Option ContainerRead
  | .guarded _ inner => inner.containerRead?
  | .mergeOrReplace read _ _ _ | .mergeInto read _ _ => some read
  | .source _ | .cast .. | .set .. | .addEach .. => none

/-- The paths through the code of an assignment are its routes. -/
theorem bodyPaths_lower (node : Assignment) (target : Expr) :
    Stmt.bodyPaths (node.lower target) = node.routes.map (List.map (Step.expr target)) := by
  induction node with
  | source | cast | set | mergeOrReplace | addEach => rfl
  | mergeInto read clears inner => cases clears <;> rfl
  | guarded presence inner ih =>
    have single : Stmt.bodyPaths (lower target (.guarded presence inner)) =
        (Stmt.bodyPaths (inner.lower target) ++ [[]]).map (presence :: ·) := by
      simp [lower, Stmt.bodyPaths, Stmt.paths]
    rw [single, ih]
    simp [routes]

/-- Calls along a route: those in the checks and the values on it, those in the target as often as
there is a call on the target, and those that the code makes by itself. -/
theorem callsAlong_route (method : String) (target : Expr) (route : List Step) :
    Stmt.callsAlong method (route.map (Step.expr target)) =
      Expr.callCounts method (route.filterMap Step.check?) +
        Expr.callCounts method (route.filterMap Step.value?) +
        route.countP Step.isOnTarget * target.callCount method +
        (route.filterMap Step.method?).count method := by
  simp only [List.filterMap_eq_flatMap_toList]
  induction route with
  | nil => simp [Stmt.callsAlong, Expr.callCounts]
  | cons step rest ih =>
    rw [Stmt.callsAlong] at ih ⊢
    rw [List.map_cons, Expr.callCounts, ih, step.callCount_expr method target]
    simp only [List.flatMap_cons, Expr.callCounts_append, List.count_append, List.countP_cons,
      Nat.add_mul]
    split <;> omega

/-- What a route does no more than once, and what it does not do together. -/
structure IsSingle (node : Assignment) (route : List Step) : Prop where
  checks : route.filterMap Step.check? <+: node.outerChecks
  value : (route.filterMap Step.value?).length ≤ 1
  methods : (route.filterMap Step.method?).Sublist node.ownMethods
  setsOrFills : ¬ (route.any Step.sets = true ∧ route.any Step.changesContainer = true)

theorem IsSingle.guarded {inner : Assignment} {route : List Step} (single : inner.IsSingle route)
    (presence : Expr) : IsSingle (.guarded presence inner) (.check presence :: route) where
  checks := List.cons_prefix_cons.mpr ⟨rfl, single.checks⟩
  value := single.value
  methods := single.methods
  setsOrFills := single.setsOrFills

theorem isSingle_nil (node : Assignment) : node.IsSingle [] where
  checks := List.nil_prefix
  value := Nat.zero_le 1
  methods := List.nil_sublist _
  setsOrFills := by simp

/-- On no route is a value evaluated twice, a method of the node called twice, or a container both
changed and replaced. -/
theorem isSingle_of_mem_routes {node : Assignment} {route : List Step}
    (isRoute : route ∈ node.routes) : node.IsSingle route := by
  induction node generalizing route with
  | source value =>
    obtain rfl := List.mem_singleton.mp isRoute
    constructor <;> simp [List.filterMap_cons]
  | cast type inner =>
    obtain rfl := List.mem_singleton.mp isRoute
    constructor <;> simp [List.filterMap_cons]
  | guarded presence inner ih =>
    obtain ⟨rest, isRest, rfl⟩ := List.mem_map.mp isRoute
    apply IsSingle.guarded
    rcases List.mem_append.mp isRest with isInner | isEmpty
    · exact ih isInner
    · rw [List.mem_singleton.mp isEmpty]
      exact isSingle_nil inner
  | set setter inner =>
    obtain rfl := List.mem_singleton.mp isRoute
    constructor <;> simp [List.filterMap_cons, ownMethods]
  | mergeOrReplace read setter replacement inner =>
    rw [routes, List.mem_cons, List.mem_singleton] at isRoute
    rcases isRoute with rfl | rfl
    · constructor <;> simp [List.filterMap_cons, ownMethods]
    · constructor <;> simp [List.filterMap_cons, ownMethods]
  | mergeInto read clears inner =>
    rw [routes, List.mem_cons, List.mem_singleton] at isRoute
    rcases isRoute with rfl | rfl
    · cases clears <;> constructor <;> simp [List.filterMap_cons, ownMethods]
    · constructor <;> simp [List.filterMap_cons, ownMethods]
  | addEach adder element loopName inner =>
    obtain rfl := List.mem_singleton.mp isRoute
    constructor <;> simp [List.filterMap_cons, ownMethods]

/-- The path passes the outer checks and goes through the code that they guard. -/
def Enters (node : Assignment) (target : Expr) (path : List Expr) : Prop :=
  ∃ body ∈ Stmt.bodyPaths (node.unguarded.lower target), path = node.outerChecks ++ body

theorem getter_mem_of_mem_routes {node : Assignment} {read : ContainerRead}
    (reads : node.containerRead? = some read) {route : List Step}
    (isRoute : route ∈ node.unguarded.routes) :
    read.getter ∈ route.filterMap Step.method? := by
  induction node with
  | guarded presence inner ih => exact ih reads isRoute
  | mergeOrReplace own setter replacement inner =>
    obtain rfl : own = read := Option.some.inj reads
    simp only [unguarded, routes, List.mem_cons, List.not_mem_nil, or_false] at isRoute
    rcases isRoute with rfl | rfl <;> exact List.mem_cons_self
  | mergeInto own clears inner =>
    obtain rfl : own = read := Option.some.inj reads
    simp only [unguarded, routes, List.mem_cons, List.not_mem_nil, or_false] at isRoute
    rcases isRoute with rfl | rfl <;> exact List.mem_cons_self
  | source | cast | set | addEach => cases reads

theorem one_le_callsAlong_getter {node : Assignment} {read : ContainerRead}
    (reads : node.containerRead? = some read) {target : Expr} {path : List Expr}
    (enters : node.Enters target path) : 1 ≤ Stmt.callsAlong read.getter path := by
  obtain ⟨body, isBody, rfl⟩ := enters
  rw [bodyPaths_lower] at isBody
  obtain ⟨route, isRoute, rfl⟩ := List.mem_map.mp isBody
  have called := List.one_le_count_iff.mpr (getter_mem_of_mem_routes reads isRoute)
  have inBody := callsAlong_route read.getter target route
  have onPath := Expr.callCounts_append read.getter node.outerChecks (route.map (Step.expr target))
  unfold Stmt.callsAlong at inBody ⊢
  omega

theorem value_of_mem_routes_node (strategy : WriteStrategy) (type : JavaType) (options : Options)
    (source : Assignment) (name : String) :
    ∀ route ∈ (strategy.node type options source name).routes,
      ∀ value ∈ route.filterMap Step.value?,
        value = source.valueExpr ∨ value = (copyOf type source).expr := by
  cases strategy with
  | addEach adder element => simp [WriteStrategy.node, routes]
  | mergeOrReplace setter getter =>
    by_cases direct : source.kind.isDirect <;>
      simp [WriteStrategy.node, routes, replacementExpr, valueExpr, direct]
  | set setter copy =>
    cases copy <;> simp [WriteStrategy.node, routes, valueExpr]
  | mergeInto getter =>
    by_cases clears : options.updateExisting <;> simp [WriteStrategy.node, routes, clears]

theorem value_of_mem_routes_underCheck {options : Options} {kind : ValueKind} {type : JavaType}
    {assignment : Assignment} {presence : Option Expr} {p : Expr → Prop}
    (all : ∀ route ∈ assignment.routes, ∀ value ∈ route.filterMap Step.value?, p value) :
    ∀ route ∈ (underCheck options kind type assignment presence).routes,
      ∀ value ∈ route.filterMap Step.value?, p value := by
  rcases underCheck_cases options kind type assignment presence with same | ⟨check, _, guarded⟩
  · rw [same]
    exact all
  · rw [guarded]
    intro route isRoute value isValue
    obtain ⟨rest, isRest, rfl⟩ := List.mem_map.mp isRoute
    rcases List.mem_append.mp isRest with isInner | isEmpty
    · exact all rest isInner value isValue
    · rw [List.mem_singleton.mp isEmpty] at isValue
      cases isValue

section Build
variable {options : Options} {property : Property} {source assignment : Assignment}
  {presence : Option Expr} {scope : Scope}
  (built : ((build options property source presence).run.run scope).1 = .ok assignment)
include built

theorem value_of_mem_routes_of_build :
    ∀ route ∈ assignment.routes, ∀ value ∈ route.filterMap Step.value?,
      value = source.valueExpr ∨ value = (copyOf property.type source).expr := by
  obtain ⟨strategy, _, rfl⟩ := exists_chosen_of_build built
  exact value_of_mem_routes_underCheck
    (value_of_mem_routes_node strategy property.type options source _)

theorem outerChecks_sublist_of_build : assignment.outerChecks.Sublist presence.toList := by
  obtain ⟨strategy, _, rfl⟩ := exists_chosen_of_build built
  rw [outerChecks_underCheck, outerChecks_node, List.append_nil]
  split
  · exact List.Sublist.refl _
  · exact List.nil_sublist _

/-- Calls along a path are at most those in the check, in the value once, and in the target once for
each call on it, besides the own calls of the node. -/
theorem callsAlong_le_of_build (method : String) (target : Expr) {route : List Step}
    (isRoute : route ∈ assignment.routes) :
    Stmt.callsAlong method (route.map (Step.expr target)) ≤
      Expr.callCounts method presence.toList + source.valueExpr.callCount method +
        route.countP Step.isOnTarget * target.callCount method +
        (route.filterMap Step.method?).count method := by
  have single := isSingle_of_mem_routes isRoute
  have checks : Expr.callCounts method (route.filterMap Step.check?) ≤
      Expr.callCounts method presence.toList :=
    Expr.callCounts_le_of_sublist
      (single.checks.sublist.trans (outerChecks_sublist_of_build built))
  have copied : (copyOf property.type source).expr.callCount method =
      source.valueExpr.callCount method := Nat.add_zero _
  have values : Expr.callCounts method (route.filterMap Step.value?) ≤
      source.valueExpr.callCount method := by
    apply Expr.callCounts_le_of_length_le_one single.value
    intro value isValue
    rcases value_of_mem_routes_of_build built route isRoute value isValue with rfl | rfl
    · exact Nat.le_refl _
    · exact Nat.le_of_eq copied
  rw [callsAlong_route]
  omega

theorem callsAlong_le_one_of_build {method : String} {target : Expr}
    (absent : ∀ expr ∈ source.valueExpr :: target :: presence.toList, expr.callCount method = 0)
    (isOwn : assignment.ownMethods.count method = 1) {route : List Step}
    (isRoute : route ∈ assignment.routes) :
    Stmt.callsAlong method (route.map (Step.expr target)) ≤ 1 := by
  have bound := callsAlong_le_of_build built method target isRoute
  have inValue := absent source.valueExpr (by simp)
  have inTarget := absent target (by simp)
  have inCheck : Expr.callCounts method presence.toList ≤ 0 := by
    apply Expr.callCounts_le_of_length_le_one
    · cases presence <;> simp
    · intro check isCheck
      exact Nat.le_of_eq (absent check (by simp [isCheck]))
  have ownCalls := (isSingle_of_mem_routes isRoute).methods.count_le method
  rw [inValue, inTarget, Nat.mul_zero] at bound
  omega

/-- The paths through what a build makes are its routes. On each of them the check and the value are
evaluated at most once and the target once for each call on it; beyond these there are only the
calls of the node itself, none of them twice, and not both to set and to change a container. A
getter that is called by none of the three, and has a name of its own, is called at most once, and
exactly once where the path enters the code that reads the container. -/
theorem build_evaluatesOnce (target : Expr) :
    Stmt.bodyPaths (assignment.lower target) =
        assignment.routes.map (List.map (Step.expr target)) ∧
      assignment.outerChecks.Sublist presence.toList ∧
      ∀ route ∈ assignment.routes, assignment.IsSingle route ∧
        (∀ value ∈ route.filterMap Step.value?,
          value = source.valueExpr ∨ value = (copyOf property.type source).expr) ∧
        (∀ method, Stmt.callsAlong method (route.map (Step.expr target)) ≤
          Expr.callCounts method presence.toList + source.valueExpr.callCount method +
            route.countP Step.isOnTarget * target.callCount method +
            (route.filterMap Step.method?).count method) ∧
        ∀ read, assignment.containerRead? = some read →
          (∀ expr ∈ source.valueExpr :: target :: presence.toList,
            expr.callCount read.getter = 0) →
          assignment.ownMethods.count read.getter = 1 →
            Stmt.callsAlong read.getter (route.map (Step.expr target)) ≤ 1 ∧
              (assignment.Enters target (route.map (Step.expr target)) →
                Stmt.callsAlong read.getter (route.map (Step.expr target)) = 1) := by
  refine ⟨bodyPaths_lower assignment target, outerChecks_sublist_of_build built, ?_⟩
  intro route isRoute
  refine ⟨isSingle_of_mem_routes isRoute, value_of_mem_routes_of_build built route isRoute, ?_, ?_⟩
  · intro method
    exact callsAlong_le_of_build built method target isRoute
  · intro read reads absent isOwn
    have atMost := callsAlong_le_one_of_build built absent isOwn isRoute
    refine ⟨atMost, fun enters => ?_⟩
    have atLeast := one_le_callsAlong_getter reads enters
    exact Nat.le_antisymm atMost atLeast

end Build

/-- Labels that are not there yet: they are read once and set once. -/
theorem build_evaluatesOnce_labels :
    let labels := JavaType.generic "java.util.Set" [.declared "java.lang.String"]
    let property : Property :=
      { name := "labels", type := labels, setter := some "setLabels", getter := some "getLabels" }
    let value : Assignment := .source ⟨.var "tags", .direct, .empty⟩
    let presence : Expr := .notNull (.var "tags")
    let target : Expr := .var "target"
    ∃ assignment name,
      ((build .forUpdate property value (some presence)).run.run .empty).1 = .ok assignment ∧
        let path := [presence, target.get "getLabels", .notNull (.var name),
          .call target "setLabels" [(copyOf labels value).expr]]
        path ∈ Stmt.bodyPaths (assignment.lower target) ∧ assignment.Enters target path ∧
          Stmt.callsAlong "getLabels" path = 1 := by
  intro labels property value presence target
  have chosen : WriteStrategy.select property .forUpdate value.kind =
      .ok (.mergeOrReplace "setLabels" "getLabels") := rfl
  let read : ContainerRead := ⟨"getLabels", labels, (Scope.empty.allocateFor labels).1⟩
  let assignment : Assignment := .guarded presence
    (.mergeOrReplace read "setLabels" (some (.source (copyOf labels value))) value)
  have built : ((build .forUpdate property value (some presence)).run.run .empty).1 =
      .ok assignment := congrArg Prod.fst (build_run chosen (some presence) .empty)
  obtain ⟨paths, _, evaluates⟩ := build_evaluatesOnce built target
  let route : List Step := [.check presence, .read "getLabels", .test read.localName,
    .set "setLabels" (copyOf labels value).expr]
  have isRoute : route ∈ assignment.routes := List.mem_cons_of_mem _ List.mem_cons_self
  have isPath : route.map (Step.expr target) ∈ Stmt.bodyPaths (assignment.lower target) := by
    rw [paths]
    exact List.mem_map_of_mem isRoute
  have enters : assignment.Enters target (route.map (Step.expr target)) :=
    ⟨_, List.mem_cons_of_mem _ List.mem_cons_self, rfl⟩
  have absent : ∀ expr ∈ value.valueExpr :: target :: [presence],
      expr.callCount "getLabels" = 0 := by
    simp [value, presence, target, valueExpr, Expr.callCount]
  have once := (evaluates route isRoute).2.2.2 read rfl absent (by decide)
  exact ⟨assignment, read.localName, built, isPath, enters, once.2 enters⟩

end Assignment

end PropertyAssignment
