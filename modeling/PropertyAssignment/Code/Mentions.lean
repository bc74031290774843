import PropertyAssignment.Code.Stmt

/-!
# What code mentions

The types, the variables used and the variables declared in a piece of code, in the order of its
text and as often as they occur there. Opaque text mentions nothing.
-/

namespace PropertyAssignment

namespace Expr

mutual

/-- The types in an expression: those constructed and those cast to. -/
def types : Expr → List JavaType
  | .var _ | .null | .raw _ => []
  | .invoke _ arguments => typesOfAll arguments
  | .call receiver _ arguments => types receiver ++ typesOfAll arguments
  | .new type arguments => type :: typesOfAll arguments
  | .cast type operand => type :: types operand
  | .notNull operand => types operand

def typesOfAll : List Expr → List JavaType
  | [] => []
  | expr :: rest => types expr ++ typesOfAll rest

end

mutual

def usedNames : Expr → List String
  | .var name => [name]
  | .null | .raw _ => []
  | .invoke _ arguments => usedNamesOfAll arguments
  | .call receiver _ arguments => usedNames receiver ++ usedNamesOfAll arguments
  | .new _ arguments => usedNamesOfAll arguments
  | .cast _ operand => usedNames operand
  | .notNull operand => usedNames operand

def usedNamesOfAll : List Expr → List String
  | [] => []
  | expr :: rest => usedNames expr ++ usedNamesOfAll rest

end

theorem typesOfAll_eq_flatMap (exprs : List Expr) : typesOfAll exprs = exprs.flatMap types := by
  induction exprs with
  | nil => rfl
  | cons expr rest ih => simp [typesOfAll, ih]

theorem usedNamesOfAll_eq_flatMap (exprs : List Expr) :
    usedNamesOfAll exprs = exprs.flatMap usedNames := by
  induction exprs with
  | nil => rfl
  | cons expr rest ih => simp [usedNamesOfAll, ih]

end Expr

namespace Stmt

mutual

def types : Stmt → List JavaType
  | .declare type _ init => type :: init.types
  | .branch condition thenBody elseBody =>
    condition.types ++ typesOfAll thenBody ++ typesOfAll elseBody
  | .forEach elementType _ iterable body => elementType :: iterable.types ++ typesOfAll body
  | .expression expr => expr.types

def typesOfAll : List Stmt → List JavaType
  | [] => []
  | stmt :: rest => types stmt ++ typesOfAll rest

end

mutual

/-- The names of the variables that a statement declares, loop variables included. -/
def declaredNames : Stmt → List String
  | .declare _ name _ => [name]
  | .branch _ thenBody elseBody => declaredNamesOfAll thenBody ++ declaredNamesOfAll elseBody
  | .forEach _ name _ body => name :: declaredNamesOfAll body
  | .expression _ => []

def declaredNamesOfAll : List Stmt → List String
  | [] => []
  | stmt :: rest => declaredNames stmt ++ declaredNamesOfAll rest

end

mutual

/-- Whether a statement uses only variables that are bound: those given, and in a body also those
declared before in the body or by the loop around it. -/
def isClosed (bound : List String) : Stmt → Bool
  | .declare _ _ init => init.usedNames.all bound.contains
  | .branch condition thenBody elseBody =>
    condition.usedNames.all bound.contains && isClosedBody bound thenBody &&
      isClosedBody bound elseBody
  | .forEach _ name iterable body =>
    iterable.usedNames.all bound.contains && isClosedBody (name :: bound) body
  | .expression expr => expr.usedNames.all bound.contains

/-- Whether the statements use only bound variables; a declaration binds its name for the
statements after it. -/
def isClosedBody (bound : List String) : List Stmt → Bool
  | [] => true
  | .declare type name init :: rest =>
    isClosed bound (.declare type name init) && isClosedBody (name :: bound) rest
  | stmt :: rest => isClosed bound stmt && isClosedBody bound rest

end

theorem typesOfAll_eq_flatMap (stmts : List Stmt) : typesOfAll stmts = stmts.flatMap types := by
  induction stmts with
  | nil => rfl
  | cons stmt rest ih => simp [typesOfAll, ih]

theorem declaredNamesOfAll_eq_flatMap (stmts : List Stmt) :
    declaredNamesOfAll stmts = stmts.flatMap declaredNames := by
  induction stmts with
  | nil => rfl
  | cons stmt rest ih => simp [declaredNamesOfAll, ih]

end Stmt

end PropertyAssignment
