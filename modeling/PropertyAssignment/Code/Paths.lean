import PropertyAssignment.Code.Calls

/-!
# Paths through code

A path takes one branch at every conditional and goes through every loop once. It is given as the
list of the expressions that are evaluated along it, in order. Counting calls along a path tells
how often a method is called in one run, where counting in the text counts both branches.
-/

namespace PropertyAssignment.Stmt

mutual

/-- All paths through a statement. -/
def paths : Stmt → List (List Expr)
  | .declare _ _ init => [[init]]
  | .branch condition thenBody elseBody =>
    (bodyPaths thenBody ++ bodyPaths elseBody).map fun path => condition :: path
  | .forEach _ _ iterable body => (bodyPaths body).map fun path => iterable :: path
  | .expression expr => [[expr]]

def bodyPaths : List Stmt → List (List Expr)
  | [] => [[]]
  | stmt :: rest =>
    (paths stmt).flatMap fun first => (bodyPaths rest).map fun second => first ++ second

end

def callsAlong (method : String) (path : List Expr) : Nat :=
  Expr.callCounts method path

end PropertyAssignment.Stmt
