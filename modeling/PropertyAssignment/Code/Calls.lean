import PropertyAssignment.Code.Stmt

/-!
# Counting calls

How often a method is called in the text of an expression or a body, whatever the receivers and
whichever branches are taken. Constructor calls are not method calls.
-/

namespace PropertyAssignment

namespace Expr

mutual

/-- The number of calls to the method anywhere in the expression. -/
def callCount (method : String) : Expr → Nat
  | .var _ | .null | .raw _ => 0
  | .invoke called arguments =>
    (if called = method then 1 else 0) + callCounts method arguments
  | .call receiver called arguments =>
    (if called = method then 1 else 0) + callCount method receiver + callCounts method arguments
  | .new _ arguments => callCounts method arguments
  | .cast _ operand => callCount method operand
  | .notNull operand => callCount method operand

def callCounts (method : String) : List Expr → Nat
  | [] => 0
  | expr :: rest => callCount method expr + callCounts method rest

end

theorem callCounts_eq_foldr (method : String) (exprs : List Expr) :
    callCounts method exprs = exprs.foldr (fun expr count => callCount method expr + count) 0 := by
  induction exprs with
  | nil => rfl
  | cons expr rest ih => simp [callCounts, ih]

end Expr

namespace Stmt

mutual

def callCount (method : String) : Stmt → Nat
  | .declare _ _ init => init.callCount method
  | .branch condition thenBody elseBody =>
    condition.callCount method + callCounts method thenBody + callCounts method elseBody
  | .forEach _ _ iterable body => iterable.callCount method + callCounts method body
  | .expression expr => expr.callCount method

def callCounts (method : String) : List Stmt → Nat
  | [] => 0
  | stmt :: rest => callCount method stmt + callCounts method rest

end

theorem callCounts_eq_foldr (method : String) (stmts : List Stmt) :
    callCounts method stmts = stmts.foldr (fun stmt count => callCount method stmt + count) 0 := by
  induction stmts with
  | nil => rfl
  | cons stmt rest ih => simp [callCounts, ih]

end Stmt

end PropertyAssignment
