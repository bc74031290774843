import PropertyAssignment.JavaType.Basic

/-!
# Expressions of the generated code

The value-producing part of the code that property assignments turn into.
-/

namespace PropertyAssignment

inductive Expr where
  /-- A local variable or a parameter. -/
  | var (name : String)
  /-- The null literal. -/
  | null
  /-- Opaque text that whoever computed a value supplied for it. -/
  | raw (text : String)
  /-- A method call without receiver. -/
  | invoke (method : String) (arguments : List Expr)
  /-- A method call on a receiver. -/
  | call (receiver : Expr) (method : String) (arguments : List Expr)
  /-- A constructor call. -/
  | new (type : JavaType) (arguments : List Expr)
  /-- An explicit cast. -/
  | cast (type : JavaType) (operand : Expr)
  /-- The test that a value is not null. -/
  | notNull (operand : Expr)
deriving Repr, Inhabited

namespace Expr

/-- A call without arguments, the form of every accessor read. -/
def get (receiver : Expr) (method : String) : Expr :=
  .call receiver method []

mutual

/-- Induction over an expression and, at once, over all argument lists in it. -/
@[induction_eliminator]
theorem induction {motive : Expr → Prop}
    (var : ∀ name, motive (.var name)) (null : motive .null) (raw : ∀ text, motive (.raw text))
    (invoke : ∀ method arguments, (∀ argument ∈ arguments, motive argument) →
      motive (.invoke method arguments))
    (call : ∀ receiver method arguments, motive receiver →
      (∀ argument ∈ arguments, motive argument) → motive (.call receiver method arguments))
    (new : ∀ type arguments, (∀ argument ∈ arguments, motive argument) →
      motive (.new type arguments))
    (cast : ∀ type operand, motive operand → motive (.cast type operand))
    (notNull : ∀ operand, motive operand → motive (.notNull operand)) : ∀ expr, motive expr
  | .var name => var name
  | .null => null
  | .raw text => raw text
  | .invoke method arguments =>
    invoke method arguments (induction_all var null raw invoke call new cast notNull arguments)
  | .call receiver method arguments =>
    call receiver method arguments (induction var null raw invoke call new cast notNull receiver)
      (induction_all var null raw invoke call new cast notNull arguments)
  | .new type arguments =>
    new type arguments (induction_all var null raw invoke call new cast notNull arguments)
  | .cast type operand =>
    cast type operand (induction var null raw invoke call new cast notNull operand)
  | .notNull operand =>
    notNull operand (induction var null raw invoke call new cast notNull operand)

theorem induction_all {motive : Expr → Prop}
    (var : ∀ name, motive (.var name)) (null : motive .null) (raw : ∀ text, motive (.raw text))
    (invoke : ∀ method arguments, (∀ argument ∈ arguments, motive argument) →
      motive (.invoke method arguments))
    (call : ∀ receiver method arguments, motive receiver →
      (∀ argument ∈ arguments, motive argument) → motive (.call receiver method arguments))
    (new : ∀ type arguments, (∀ argument ∈ arguments, motive argument) →
      motive (.new type arguments))
    (cast : ∀ type operand, motive operand → motive (.cast type operand))
    (notNull : ∀ operand, motive operand → motive (.notNull operand)) :
    ∀ exprs : List Expr, ∀ expr ∈ exprs, motive expr
  | [], _, member => absurd member List.not_mem_nil
  | first :: rest, expr, member =>
    (List.mem_cons.mp member).elim
      (fun same => same ▸ induction var null raw invoke call new cast notNull first)
      (induction_all var null raw invoke call new cast notNull rest expr)

end

end Expr

end PropertyAssignment
