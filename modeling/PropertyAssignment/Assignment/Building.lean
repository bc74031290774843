import PropertyAssignment.Assignment.Imports
import PropertyAssignment.JavaType.Container
import PropertyAssignment.Variable.Scope
import PropertyAssignment.WriteStrategy

/-!
# Building assignments

Nodes that need a variable take its name from the scope of the method, so building runs in a state:
the scope. A failure leaves the scope in the state it had come to. The nodes that fill containers
have preconditions, checked before a name is taken. `build` chooses the strategy for a property
first and takes no name if there is none.
-/

namespace PropertyAssignment

inductive Misuse where
  /-- Merging or replacing needs a container type. -/
  | mergeWithoutContainer (typeText : String)
  /-- Merging or replacing needs a getter. -/
  | mergeWithoutGetter
  /-- Filling in place needs a container type. -/
  | fillWithoutContainer (typeText : String)
deriving DecidableEq, Repr

def Misuse.message : Misuse → String
  | .mergeWithoutContainer typeText =>
    "merge-or-replace requires a collection or map target, got " ++ typeText
  | .mergeWithoutGetter => "merge-or-replace requires a target accessor"
  | .fillWithoutContainer typeText =>
    "getter merge requires a collection or map target, got " ++ typeText

inductive BuildError where
  | selection (error : SelectionError)
  | misuse (misuse : Misuse)
deriving DecidableEq, Repr

/-- A construction that takes variable names from a scope and may fail. -/
abbrev Construction := ExceptT BuildError (StateM Scope)

namespace Construction

def newName (type : JavaType) : Construction String :=
  modifyGet fun scope => scope.allocateFor type

def require (condition : Bool) (misuse : Misuse) : Construction Unit :=
  if condition then pure () else throw (.misuse misuse)

end Construction

namespace Assignment

/-- The value of the assignment copied into a new container of the implementation of the type. -/
def copyOf (type : JavaType) (source : Assignment) : SourceValue where
  expr := .new type.implementation [source.valueExpr]
  kind := .converted
  imports := type.implementation.requiredImports.union source.importTypes

/-- Merge the inner value into the container of the target, or replace that. -/
def newMergeOrReplace (inner : Assignment) (setter getter : String)
    (replacement : Option Assignment) (type : JavaType) : Construction Assignment := do
  .require type.isContainer (.mergeWithoutContainer type.text)
  .require (!getter.isEmpty) .mergeWithoutGetter
  let localName ← .newName type
  return .mergeOrReplace ⟨getter, type, localName⟩ setter replacement inner

def newMergeInto (inner : Assignment) (getter : String) (type : JavaType) (clears : Bool) :
    Construction Assignment := do
  .require type.isContainer (.fillWithoutContainer type.text)
  let localName ← .newName type
  return .mergeInto ⟨getter, type, localName⟩ clears inner

def newAddEach (inner : Assignment) (adder : String) (element : JavaType) :
    Construction Assignment := do
  let loopName ← .newName element
  return .addEach adder element loopName inner

def write (strategy : WriteStrategy) (type : JavaType) (options : Options) (source : Assignment) :
    Construction Assignment :=
  match strategy with
  | .addEach adder element => newAddEach source adder element
  | .mergeOrReplace setter getter =>
    let replacement := if source.kind.isDirect then some (.source (copyOf type source)) else none
    newMergeOrReplace source setter getter replacement type
  | .set setter true => return .set setter (.source (copyOf type source))
  | .set setter false => return .set setter source
  | .mergeInto getter => newMergeInto source getter type options.updateExisting

/-- Whether a presence check guards the assignment of a value of the kind to a property of the
type: always if the options say so, else for all but plain values that are the source's own. -/
def needsGuard (options : Options) (kind : ValueKind) (type : JavaType) : Bool :=
  options.nullCheck = .always || !kind.isDirect || type.isContainer

/-- The assignment that writes the value into the property, under the presence check if there is
one and it is needed. -/
def build (options : Options) (property : Property) (source : Assignment)
    (presence : Option Expr) : Construction Assignment := do
  match WriteStrategy.select property options source.kind with
  | .error error => throw (.selection error)
  | .ok strategy =>
    let assignment ← write strategy property.type options source
    match presence with
    | some check =>
      if needsGuard options source.kind property.type then return .guarded check assignment
      else return assignment
    | none => return assignment

/-- Merging or replacing is built exactly where the type is a container and there is a getter, and
then takes one name. -/
theorem newMergeOrReplace_run (inner : Assignment) (setter getter : String)
    (replacement : Option Assignment) (type : JavaType) (scope : Scope) :
    (newMergeOrReplace inner setter getter replacement type).run.run scope =
      if type.isContainer then
        if getter.isEmpty then (.error (.misuse .mergeWithoutGetter), scope)
        else
          (.ok (.mergeOrReplace ⟨getter, type, (scope.allocateFor type).1⟩ setter replacement
              inner),
            (scope.allocateFor type).2)
      else (.error (.misuse (.mergeWithoutContainer type.text)), scope) := by
  unfold newMergeOrReplace Construction.require Construction.newName
  split <;> split <;> simp_all [modifyGet, MonadStateOf.modifyGet] <;> rfl

theorem newMergeInto_run (inner : Assignment) (getter : String) (type : JavaType) (clears : Bool)
    (scope : Scope) :
    (newMergeInto inner getter type clears).run.run scope =
      if type.isContainer then
        (.ok (.mergeInto ⟨getter, type, (scope.allocateFor type).1⟩ clears inner),
          (scope.allocateFor type).2)
      else (.error (.misuse (.fillWithoutContainer type.text)), scope) := by
  unfold newMergeInto Construction.require Construction.newName
  split <;> simp_all [modifyGet, MonadStateOf.modifyGet] <;> rfl

theorem newAddEach_run (inner : Assignment) (adder : String) (element : JavaType) (scope : Scope) :
    (newAddEach inner adder element).run.run scope =
      (.ok (.addEach adder element (scope.allocateFor element).1 inner),
        (scope.allocateFor element).2) :=
  rfl

theorem build_run_of_error {options : Options} {property : Property} {source : Assignment}
    {error : SelectionError}
    (none : WriteStrategy.select property options source.kind = .error error)
    (presence : Option Expr) (scope : Scope) :
    (build options property source presence).run.run scope =
      (.error (.selection error), scope) := by
  unfold build
  rw [none]
  rfl

end Assignment

end PropertyAssignment
