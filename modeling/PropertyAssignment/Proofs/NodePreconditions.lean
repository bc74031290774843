import PropertyAssignment.Proofs.ScopeEffect

/-!
# The preconditions of nodes

A node relies on what it is given: a container type to fill, and names for the methods that it
calls. A build gives it nothing else, because the strategy that was chosen has already been checked
against the property. So no build is a misuse, the method that fills a container is always that of
the container's kind, and all that the code calls by itself has a name.
-/

namespace PropertyAssignment

namespace Stmt

mutual

/-- What a statement evaluates for its effect or as the initial value of a variable. -/
@[simp] def commands : Stmt → List Expr
  | .declare _ _ init => [init]
  | .branch _ thenBody elseBody => commandsOfAll thenBody ++ commandsOfAll elseBody
  | .forEach _ _ _ body => commandsOfAll body
  | .expression expr => [expr]

@[simp] def commandsOfAll : List Stmt → List Expr
  | [] => []
  | stmt :: rest => commands stmt ++ commandsOfAll rest

end

mutual

/-- What a statement evaluates to see how to go on: conditions, and what loops go over. -/
@[simp] def controls : Stmt → List Expr
  | .declare .. | .expression _ => []
  | .branch condition thenBody elseBody =>
    condition :: (controlsOfAll thenBody ++ controlsOfAll elseBody)
  | .forEach _ _ iterable body => iterable :: controlsOfAll body

@[simp] def controlsOfAll : List Stmt → List Expr
  | [] => []
  | stmt :: rest => controls stmt ++ controlsOfAll rest

end

end Stmt

/-- The container of the property can be read and filled in this way, by the method that fills
containers of its kind. -/
structure ContainerRead.Fits (read : ContainerRead) (property : Property) : Prop where
  type : read.type = property.type
  isContainer : read.type.isContainer = true
  getter : IsMethod property.getter read.getter
  addAll : read.bulkInsert = "addAll" ↔ read.type.container = some .sequence
  putAll : read.bulkInsert = "putAll" ↔ read.type.container = some .map
  noDefault : read.type.bulkInsert? = some read.bulkInsert

theorem ContainerRead.fits {property : Property} {getter : String}
    (isContainer : property.type.isContainer = true) (hasGetter : IsMethod property.getter getter)
    (localName : String) : (⟨getter, property.type, localName⟩ : ContainerRead).Fits property := by
  obtain ⟨kind, isKind⟩ := Option.isSome_iff_exists.mp isContainer
  have fills : property.type.bulkInsert? = some kind.bulkInsert := by
    rw [JavaType.bulkInsert?, isKind, Option.map_some]
  have byKind : (⟨getter, property.type, localName⟩ : ContainerRead).bulkInsert =
      kind.bulkInsert := by
    rw [ContainerRead.bulkInsert, fills, Option.getD_some]
  refine ⟨rfl, isContainer, hasGetter, ?_, ?_, ?_⟩
  · rw [byKind, isKind]
    cases kind <;> decide
  · rw [byKind, isKind]
    cases kind <;> decide
  · rw [byKind]
    exact fills

namespace Assignment

/-- A call that a node makes by itself: on the target or on its variable, by a name that is not
empty, handing over some of the values or the variable. -/
inductive IsOwnCall (target : Expr) (ownName : Option String) (values : List Expr) : Expr → Prop
  | onTarget (method : String) (arguments : List Expr) (named : method ≠ "")
    (given : ∀ argument ∈ arguments,
      argument ∈ values ∨ ∃ name, ownName = some name ∧ argument = .var name) :
    IsOwnCall target ownName values (.call target method arguments)
  | onVariable (name method : String) (arguments : List Expr) (isOwn : ownName = some name)
    (named : method ≠ "") (given : ∀ argument ∈ arguments, argument ∈ values) :
    IsOwnCall target ownName values (.call (.var name) method arguments)

/-- The code does nothing but its own calls. What it evaluates to see how to go on is a value, one
of the checks, or the test that its variable is not null. -/
structure IsOwnCode (target : Expr) (ownName : Option String) (values checks : List Expr)
    (body : List Stmt) : Prop where
  commands : ∀ command ∈ Stmt.commandsOfAll body, IsOwnCall target ownName values command
  controls : ∀ control ∈ Stmt.controlsOfAll body,
    control ∈ values ∨ control ∈ checks ∨
      ∃ name, ownName = some name ∧ control = .notNull (.var name)

section Calls
variable {target : Expr} {ownName : Option String} {values checks : List Expr}

theorem IsOwnCode.branch {body : List Stmt} (own : IsOwnCode target ownName values checks body)
    {check : Expr} (given : check ∈ checks) :
    IsOwnCode target ownName values checks [.branch check body []] where
  commands := by simpa using own.commands
  controls := by
    simp only [Stmt.controlsOfAll, Stmt.controls, List.append_nil, List.mem_cons,
      forall_eq_or_imp]
    exact ⟨.inr (.inl given), own.controls⟩

end Calls

section Nodes
variable {property : Property} {options : Options} {kind : ValueKind} {strategy : WriteStrategy}
  (supported : strategy.IsSupported property options kind)
include supported

end Nodes

section Build
variable (options : Options) (property : Property) (source : Assignment) (presence : Option Expr)

end Build

end Assignment

end PropertyAssignment
