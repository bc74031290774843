import PropertyAssignment.Proofs.NameHygiene

/-!
# What building does to a scope

Every check of a construction comes before the first name is taken. So a construction that fails
leaves the scope as it was, be it that there is no way to write the property or that a node is
misused. One that succeeds takes no name for a setter, and for every other node just the name
of the variable that the node's code declares.
-/

namespace PropertyAssignment

/-- The second scope has one name more than the first: one that could be given to a new variable. -/
structure Scope.Gains (before after : Scope) (name : String) : Prop where
  isNew : name ∉ before.names
  notReserved : isReservedWord name = false
  names : after.names = name :: before.names

theorem Scope.gains_allocateFor (scope : Scope) (type : JavaType) :
    scope.Gains (scope.allocateFor type).2 (scope.allocateFor type).1 where
  isNew := scope.allocateFor_not_mem type
  notReserved := (Scope.isTaken_eq_false_iff.mp (scope.allocateFor_not_isTaken type)).2
  names := scope.names_allocateFor type

namespace Construction

/-- Where the construction fails, it leaves the scope as it was. -/
def IsAtomic {α : Type} (construction : Construction α) : Prop :=
  ∀ scope error, (construction.run.run scope).1 = .error error →
    (construction.run.run scope).2 = scope

/-- The construction comes to a precondition that does not hold. -/
def IsMisused {α : Type} (construction : Construction α) (scope : Scope) : Prop :=
  ∃ misuse, (construction.run.run scope).1 = .error (.misuse misuse)

/-- Where the construction succeeds, the scope gains the name of the node's variable. -/
def GainsName (construction : Construction Assignment) : Prop :=
  ∀ scope node, (construction.run.run scope).1 = .ok node →
    ∃ name, node.variableName? = some name ∧ scope.Gains (construction.run.run scope).2 name

section Checks
variable {α : Type} {condition : Bool} {misuse : Misuse}

theorem run_require_bind (next : Construction α) (scope : Scope) :
    (require condition misuse >>= fun _ => next).run.run scope =
      if condition then next.run.run scope else (.error (.misuse misuse), scope) := by
  cases condition <;> rfl

theorem IsAtomic.require_bind {next : Construction α} (atomic : next.IsAtomic) :
    (require condition misuse >>= fun _ => next).IsAtomic := by
  intro scope error
  rw [run_require_bind]
  cases condition with
  | false => exact fun _ => rfl
  | true => exact atomic scope error

theorem isMisused_require_bind {next : Construction α} {scope : Scope} :
    (require condition misuse >>= fun _ => next).IsMisused scope ↔
      condition = false ∨ next.IsMisused scope := by
  rw [IsMisused, run_require_bind]
  cases condition with
  | false => simp
  | true => simp [IsMisused]

theorem GainsName.require_bind {next : Construction Assignment} (gains : next.GainsName) :
    (require condition misuse >>= fun _ => next).GainsName := by
  intro scope node
  rw [run_require_bind]
  cases condition with
  | false => exact fun succeeds => nomatch succeeds
  | true => exact gains scope node

end Checks

/-! Taking the name is the last step, and it does not fail. -/

section Name
variable {α : Type} (type : JavaType)

theorem isAtomic_newName_bind (make : String → α) :
    (newName type >>= fun name => pure (make name)).IsAtomic :=
  fun _ _ fails => nomatch fails

theorem not_isMisused_newName_bind (make : String → α) (scope : Scope) :
    ¬ (newName type >>= fun name => pure (make name)).IsMisused scope :=
  fun ⟨_, fails⟩ => nomatch fails

theorem gainsName_newName_bind {make : String → Assignment}
    (named : ∀ name, (make name).variableName? = some name) :
    (newName type >>= fun name => pure (make name)).GainsName := by
  rintro scope node ⟨⟩
  exact ⟨_, named _, scope.gains_allocateFor type⟩

end Name

end Construction

namespace Assignment

section Nodes
variable (inner : Assignment) (setter getter : String) (replacement : Option Assignment)
  (type : JavaType) (clears : Bool)

theorem newMergeOrReplace_isAtomic :
    (newMergeOrReplace inner setter getter replacement type).IsAtomic :=
  (Construction.isAtomic_newName_bind type _).require_bind.require_bind

theorem newMergeOrReplace_gainsName :
    (newMergeOrReplace inner setter getter replacement type).GainsName :=
  (Construction.gainsName_newName_bind type fun _ => rfl).require_bind.require_bind

theorem newMergeOrReplace_isMisused_iff (scope : Scope) :
    (newMergeOrReplace inner setter getter replacement type).IsMisused scope ↔
      type.isContainer = false ∨ getter = "" := by
  unfold newMergeOrReplace
  rw [Construction.isMisused_require_bind, Construction.isMisused_require_bind]
  simp only [Construction.not_isMisused_newName_bind, or_false, Bool.not_eq_false',
    String.isEmpty_iff]

theorem newMergeInto_isAtomic : (newMergeInto inner getter type clears).IsAtomic :=
  (Construction.isAtomic_newName_bind type _).require_bind

theorem newMergeInto_gainsName : (newMergeInto inner getter type clears).GainsName :=
  (Construction.gainsName_newName_bind type fun _ => rfl).require_bind

theorem newMergeInto_isMisused_iff (scope : Scope) :
    (newMergeInto inner getter type clears).IsMisused scope ↔ type.isContainer = false := by
  unfold newMergeInto
  rw [Construction.isMisused_require_bind]
  simp only [Construction.not_isMisused_newName_bind, or_false]

end Nodes

/-- The scope has changed by the name of the node that writes, which is the one that the code
declares; by nothing if that node is a setter. -/
def HasChangedScope (assignment : Assignment) (before after : Scope) : Prop :=
  match assignment.unguarded with
  | .set _ _ => after = before
  | .mergeOrReplace ⟨_, _, name⟩ _ _ _ | .mergeInto ⟨_, _, name⟩ _ _ | .addEach _ _ name _ =>
    before.Gains after name ∧
      ∀ target, Stmt.declaredNamesOfAll (assignment.lower target) = [name]
  | .source _ | .cast _ _ | .guarded _ _ => False

section Build
variable (options : Options) (property : Property) (source : Assignment) (presence : Option Expr)

theorem build_isAtomic : (build options property source presence).IsAtomic := by
  intro scope error fails
  obtain ⟨_, notChosen, _⟩ := exists_error_of_build fails
  rw [build_run_of_error notChosen]

theorem build_hasChangedScope {scope : Scope} {assignment : Assignment}
    (built : ((build options property source presence).run.run scope).1 = .ok assignment) :
    assignment.HasChangedScope scope
      ((build options property source presence).run.run scope).2 := by
  obtain ⟨strategy, chosen, rfl⟩ := exists_chosen_of_build built
  have declared (target : Expr) := declaredNames_lower target
    (underCheck options source.kind property.type (strategy.node property.type options source
      (scope.allocateFor? (strategy.variableType? property.type)).1) presence)
  rw [variableName_underCheck, variableName_node] at declared
  rw [HasChangedScope, unguarded_underCheck, unguarded_node, build_run chosen]
  cases strategy with
  | set => rfl
  | mergeOrReplace => exact ⟨scope.gains_allocateFor property.type, declared⟩
  | mergeInto => exact ⟨scope.gains_allocateFor property.type, declared⟩
  | addEach adder element => exact ⟨scope.gains_allocateFor element, declared⟩

end Build

/-- A build that fails leaves the scope as it was; one that succeeds changes it by the name of the
variable that its code declares, if it declares one. A node that is misused leaves the scope as it
was too; filling in place is misused exactly without a container, merging or replacing also
without a getter. -/
theorem constructions_areAtomic :
    (∀ options property source presence,
      (build options property source presence).IsAtomic ∧
        ∀ scope assignment,
          ((build options property source presence).run.run scope).1 = .ok assignment →
            assignment.HasChangedScope scope
              ((build options property source presence).run.run scope).2) ∧
      (∀ inner setter getter replacement type,
        (newMergeOrReplace inner setter getter replacement type).IsAtomic ∧
          (newMergeOrReplace inner setter getter replacement type).GainsName ∧
          ∀ scope, (newMergeOrReplace inner setter getter replacement type).IsMisused scope ↔
            type.isContainer = false ∨ getter = "") ∧
      ∀ inner getter type clears,
        (newMergeInto inner getter type clears).IsAtomic ∧
          (newMergeInto inner getter type clears).GainsName ∧
          ∀ scope, (newMergeInto inner getter type clears).IsMisused scope ↔
            type.isContainer = false := by
  refine ⟨?_, ?_, ?_⟩
  · intro options property source presence
    exact ⟨build_isAtomic options property source presence,
      fun _ _ => build_hasChangedScope options property source presence⟩
  · intro inner setter getter replacement type
    exact ⟨newMergeOrReplace_isAtomic inner setter getter replacement type,
      newMergeOrReplace_gainsName inner setter getter replacement type,
      newMergeOrReplace_isMisused_iff inner setter getter replacement type⟩
  · intro inner getter type clears
    exact ⟨newMergeInto_isAtomic inner getter type clears,
      newMergeInto_gainsName inner getter type clears,
      newMergeInto_isMisused_iff inner getter type clears⟩

/-- An update of labels in a method with a variable `set` takes the next number and nothing else.
Without a getter the node is misused, whether the type is a container or not. -/
theorem constructions_areAtomic_labels :
    let labels := JavaType.generic "java.util.Set" [.declared "java.lang.String"]
    let property := Property.bean "labels" labels
    let source : Assignment := .source ⟨.get (.var "source") "getLabels", .direct, .empty⟩
    let scope := Scope.ofList ["source", "target", "set"]
    let update := build .forUpdate property source none
    (∃ assignment, (update.run.run scope).1 = .ok assignment ∧
        assignment.HasChangedScope scope (update.run.run scope).2) ∧
      scope.Gains (update.run.run scope).2 "set1" ∧
      (newMergeOrReplace source "setLabels" "" none labels).IsMisused scope := by
  intro labels property source scope update
  obtain ⟨builds, merges, _⟩ := constructions_areAtomic
  have chosen : WriteStrategy.select property .forUpdate source.kind =
      .ok (.mergeOrReplace "setLabels" "getLabels") := rfl
  have built := congrArg Prod.fst (build_run chosen none scope)
  have changed := (builds .forUpdate property source none).2 scope _ built
  have name : (scope.allocateFor labels).1 = "set1" := by decide +kernel
  refine ⟨⟨_, built, changed⟩, ?_, ?_⟩
  · rw [← name]
    exact changed.1
  · exact ((merges source "setLabels" "" none labels).2.2 scope).mpr (.inr rfl)

end Assignment

end PropertyAssignment
