import PropertyAssignment.Code.Expr

/-!
# Statements of the generated code

The bodies of generated methods are lists of these statements.
-/

namespace PropertyAssignment

inductive Stmt where
  /-- The declaration of a local variable with its initial value. -/
  | declare (type : JavaType) (name : String) (init : Expr)
  /-- A conditional; an empty second body stands for no alternative. -/
  | branch (condition : Expr) (thenBody elseBody : List Stmt)
  /-- A loop that binds the elements of an iterable to a variable, one after the other. -/
  | forEach (elementType : JavaType) (name : String) (iterable : Expr) (body : List Stmt)
  /-- An expression evaluated for its effect. -/
  | expression (expr : Expr)
deriving Repr, Inhabited

namespace Stmt

mutual

/-- Induction over a statement and, at once, over the bodies in it. -/
@[induction_eliminator]
theorem induction {motive : Stmt → Prop}
    (declare : ∀ type name init, motive (.declare type name init))
    (branch : ∀ condition thenBody elseBody, (∀ stmt ∈ thenBody, motive stmt) →
      (∀ stmt ∈ elseBody, motive stmt) → motive (.branch condition thenBody elseBody))
    (forEach : ∀ elementType name iterable body, (∀ stmt ∈ body, motive stmt) →
      motive (.forEach elementType name iterable body))
    (expression : ∀ expr, motive (.expression expr)) : ∀ stmt, motive stmt
  | .declare type name init => declare type name init
  | .branch condition thenBody elseBody =>
    branch condition thenBody elseBody (induction_all declare branch forEach expression thenBody)
      (induction_all declare branch forEach expression elseBody)
  | .forEach elementType name iterable body =>
    forEach elementType name iterable body (induction_all declare branch forEach expression body)
  | .expression expr => expression expr

theorem induction_all {motive : Stmt → Prop}
    (declare : ∀ type name init, motive (.declare type name init))
    (branch : ∀ condition thenBody elseBody, (∀ stmt ∈ thenBody, motive stmt) →
      (∀ stmt ∈ elseBody, motive stmt) → motive (.branch condition thenBody elseBody))
    (forEach : ∀ elementType name iterable body, (∀ stmt ∈ body, motive stmt) →
      motive (.forEach elementType name iterable body))
    (expression : ∀ expr, motive (.expression expr)) :
    ∀ stmts : List Stmt, ∀ stmt ∈ stmts, motive stmt
  | [], _, member => absurd member List.not_mem_nil
  | first :: rest, stmt, member =>
    (List.mem_cons.mp member).elim
      (fun same => same ▸ induction declare branch forEach expression first)
      (induction_all declare branch forEach expression rest stmt)

end

end Stmt

end PropertyAssignment
