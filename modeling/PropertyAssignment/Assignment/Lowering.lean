import PropertyAssignment.Assignment.Basic
import PropertyAssignment.Code.Stmt

/-!
# The code of an assignment

An assignment becomes a list of statements that writes its value into a target. The container that
is already there is read into a local variable, so its getter is called once; it is cleared before
it is filled. Only a guard lets the assignment inside it become code of its own: every other node
takes no more of it than its value.
-/

namespace PropertyAssignment

namespace ContainerRead

/-- The method that fills the container. Only collections and maps can be filled; for any other
type the name is that of collections. -/
def bulkInsert (read : ContainerRead) : String :=
  read.type.bulkInsert?.getD "addAll"

def localVar (read : ContainerRead) : Expr :=
  .var read.localName

/-- Read the container of the target into the local variable. -/
def declaration (read : ContainerRead) (target : Expr) : Stmt :=
  .declare read.type read.localName (target.get read.getter)

def clear (read : ContainerRead) : Stmt :=
  .expression (read.localVar.get "clear")

def fill (read : ContainerRead) (value : Expr) : Stmt :=
  .expression (.call read.localVar read.bulkInsert [value])

end ContainerRead

namespace Assignment

/-- The value to set where no container is there yet: that of the replacement, or else the value
of the inner assignment. -/
def replacementExpr (replacement : Option Assignment) (inner : Assignment) : Expr :=
  match replacement with
  | none => inner.valueExpr
  | some node => node.valueExpr

/-- The statements that carry the assignment out on a target. A source value or a cast by itself
is only evaluated. -/
def lower (target : Expr) : Assignment → List Stmt
  | .source value => [.expression value.expr]
  | .cast type inner => [.expression (.cast type inner.valueExpr)]
  | .guarded presence inner => [.branch presence (inner.lower target) []]
  | .set setter inner => [.expression (.call target setter [inner.valueExpr])]
  | .mergeOrReplace read setter replacement inner =>
    [read.declaration target,
      .branch (.notNull read.localVar)
        [read.clear, read.fill inner.valueExpr]
        [.expression (.call target setter [replacementExpr replacement inner])]]
  | .mergeInto read clears inner =>
    [read.declaration target,
      .branch (.notNull read.localVar)
        (if clears then [read.clear, read.fill inner.valueExpr] else [read.fill inner.valueExpr])
        []]
  | .addEach adder element loopName inner =>
    [.forEach element loopName inner.valueExpr
      [.expression (.call target adder [.var loopName])]]

end Assignment

end PropertyAssignment
