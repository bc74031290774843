import PropertyAssignment.Assignment.Building
import PropertyAssignment.Proofs.SelectionRoutes

/-!
# What a build gives

Which strategy is chosen already settles what is built: the strategy tells the node and the type of
the variable that needs a name, and the scope tells the name. A chosen strategy meets the
preconditions of its node, so a build fails only where nothing was chosen. Everything about the
outcome of a build is read off `build_run` and `select_supports`.
-/

namespace PropertyAssignment

namespace WriteStrategy

/-- What a property, the options and a kind of value have if the strategy is chosen for them. -/
def IsSupported (property : Property) (options : Options) (kind : ValueKind) :
    WriteStrategy → Prop
  | .addEach adder element =>
    property.type.isContainer ∧ property.adder? = some adder ∧
      property.type.elementType? = some element
  | .mergeOrReplace setter getter =>
    property.type.isContainer ∧ property.setter? = some setter ∧
      property.getter? = some getter ∧ options.updateExisting
  | .set setter copy =>
    property.setter? = some setter ∧ copy = (property.type.isContainer && kind.isDirect)
  | .mergeInto getter => property.type.isContainer ∧ property.getter? = some getter

theorem select_supports {property : Property} {options : Options} {kind : ValueKind}
    {strategy : WriteStrategy} (chosen : select property options kind = .ok strategy) :
    strategy.IsSupported property options kind := by
  have route := route_select property options kind
  rw [chosen] at route
  cases route with
  | plain setter isPlain hasSetter =>
    exact ⟨filter_eq_some_iff_isMethod.mpr hasSetter, by rw [isPlain, Bool.false_and]⟩
  | preferredAdder adder element preferred hasAdder hasElement
  | lastAdder adder element _ _ _ _ hasAdder hasElement =>
    have isContainer : property.type.isContainer = true :=
      JavaType.isContainer_of_elementType? (by rw [hasElement, Option.isSome_some])
    exact ⟨isContainer, filter_eq_some_iff_isMethod.mpr hasAdder, hasElement⟩
  | update setter getter isContainer _ hasSetter hasGetter updates =>
    exact ⟨isContainer, filter_eq_some_iff_isMethod.mpr hasSetter,
      filter_eq_some_iff_isMethod.mpr hasGetter, updates⟩
  | replace setter isContainer _ hasSetter =>
    exact ⟨filter_eq_some_iff_isMethod.mpr hasSetter, by rw [isContainer, Bool.true_and]⟩
  | fill getter isContainer _ _ hasGetter =>
    exact ⟨isContainer, filter_eq_some_iff_isMethod.mpr hasGetter⟩

/-- The type of the variable that code by the strategy declares, if it declares one. -/
def variableType? (type : JavaType) : WriteStrategy → Option JavaType
  | .addEach _ element => some element
  | .mergeOrReplace .. | .mergeInto _ => some type
  | .set .. => none

/-- The node that writes a value by the strategy, its variable having the given name. -/
def node (type : JavaType) (options : Options) (source : Assignment) (name : String) :
    WriteStrategy → Assignment
  | .addEach adder element => .addEach adder element name source
  | .mergeOrReplace setter getter =>
    .mergeOrReplace ⟨getter, type, name⟩ setter
      (if source.kind.isDirect then some (.source (Assignment.copyOf type source)) else none)
      source
  | .set setter copy =>
    .set setter (if copy then .source (Assignment.copyOf type source) else source)
  | .mergeInto getter => .mergeInto ⟨getter, type, name⟩ options.updateExisting source

end WriteStrategy

namespace Scope

def allocateFor? (scope : Scope) : Option JavaType → String × Scope
  | none => ("", scope)
  | some type => scope.allocateFor type

end Scope

namespace Assignment

def underCheck (options : Options) (kind : ValueKind) (type : JavaType) (assignment : Assignment) :
    Option Expr → Assignment
  | none => assignment
  | some check => if needsGuard options kind type then .guarded check assignment else assignment

theorem underCheck_cases (options : Options) (kind : ValueKind) (type : JavaType)
    (assignment : Assignment) (presence : Option Expr) :
    underCheck options kind type assignment presence = assignment ∨
      ∃ check, presence = some check ∧
        underCheck options kind type assignment presence = .guarded check assignment := by
  cases presence with
  | none => exact .inl rfl
  | some check =>
    by_cases needed : needsGuard options kind type
    · exact .inr ⟨check, rfl, if_pos needed⟩
    · exact .inl (if_neg needed)

/-- The assignment without the guards that stand around everything else. -/
def unguarded : Assignment → Assignment
  | .guarded _ inner => inner.unguarded
  | node => node

theorem unguarded_node (strategy : WriteStrategy) (type : JavaType) (options : Options)
    (source : Assignment) (name : String) :
    (strategy.node type options source name).unguarded =
      strategy.node type options source name := by
  cases strategy <;> rfl

theorem unguarded_underCheck (options : Options) (kind : ValueKind) (type : JavaType)
    (assignment : Assignment) (presence : Option Expr) :
    (underCheck options kind type assignment presence).unguarded = assignment.unguarded := by
  rcases underCheck_cases options kind type assignment presence with same | ⟨check, _, guarded⟩
  · rw [same]
  · rw [guarded]
    rfl

theorem write_run {property : Property} {options : Options} {source : Assignment}
    {strategy : WriteStrategy} (supported : strategy.IsSupported property options source.kind)
    (scope : Scope) :
    (write strategy property.type options source).run.run scope =
      (.ok (strategy.node property.type options source
        (scope.allocateFor? (strategy.variableType? property.type)).1),
      (scope.allocateFor? (strategy.variableType? property.type)).2) := by
  cases strategy with
  | addEach adder element => exact newAddEach_run source adder element scope
  | mergeOrReplace setter getter =>
    obtain ⟨container, _, hasGetter, _⟩ := supported
    have nonempty : ¬ getter.isEmpty := by
      simpa using (Option.filter_eq_some_iff.mp hasGetter).2
    refine (newMergeOrReplace_run ..).trans ?_
    rw [if_pos container, if_neg nonempty]
    rfl
  | set setter copy => cases copy <;> rfl
  | mergeInto getter => exact (newMergeInto_run ..).trans (if_pos supported.1)

theorem run_bind_of_ok {α β : Type} {first : Construction α} {scope after : Scope} {value : α}
    (succeeds : first.run.run scope = (.ok value, after)) (next : α → Construction β) :
    (first >>= next).run.run scope = (next value).run.run after := by
  simp only [ExceptT.run_bind, StateT.run_bind, succeeds]
  rfl

/-- A build by a chosen strategy succeeds: it makes the strategy's node, with a new name for the
variable, and puts it under the presence check. -/
theorem build_run {property : Property} {options : Options} {source : Assignment}
    {strategy : WriteStrategy}
    (chosen : WriteStrategy.select property options source.kind = .ok strategy)
    (presence : Option Expr) (scope : Scope) :
    (build options property source presence).run.run scope =
      (.ok (underCheck options source.kind property.type
        (strategy.node property.type options source
          (scope.allocateFor? (strategy.variableType? property.type)).1) presence),
      (scope.allocateFor? (strategy.variableType? property.type)).2) := by
  have written := write_run (WriteStrategy.select_supports chosen) scope
  unfold build
  rw [chosen]
  refine (run_bind_of_ok written _).trans ?_
  cases presence with
  | none => rfl
  | some check =>
    simp only [underCheck]
    by_cases needed : needsGuard options source.kind property.type
    · rw [if_pos needed, if_pos needed]
      rfl
    · rw [if_neg needed, if_neg needed]
      rfl

theorem exists_error_of_build {options : Options} {property : Property} {source : Assignment}
    {presence : Option Expr} {scope : Scope} {error : BuildError}
    (failed : ((build options property source presence).run.run scope).1 = .error error) :
    ∃ cause, WriteStrategy.select property options source.kind = .error cause ∧
      error = .selection cause := by
  cases chosen : WriteStrategy.select property options source.kind with
  | error cause =>
    rw [build_run_of_error chosen] at failed
    cases failed
    exact ⟨cause, rfl, rfl⟩
  | ok strategy =>
    rw [build_run chosen] at failed
    cases failed

/-- What was built is the node of the strategy that was chosen, under the presence check. -/
theorem exists_chosen_of_build {property : Property} {options : Options}
    {source assignment : Assignment} {presence : Option Expr} {scope : Scope}
    (built : ((build options property source presence).run.run scope).1 = .ok assignment) :
    ∃ strategy, WriteStrategy.select property options source.kind = .ok strategy ∧
      assignment = underCheck options source.kind property.type
        (strategy.node property.type options source
          (scope.allocateFor? (strategy.variableType? property.type)).1) presence := by
  cases chosen : WriteStrategy.select property options source.kind with
  | error error =>
    rw [build_run_of_error chosen] at built
    cases built
  | ok strategy =>
    rw [build_run chosen] at built
    cases built
    exact ⟨strategy, rfl, rfl⟩

end Assignment

end PropertyAssignment
