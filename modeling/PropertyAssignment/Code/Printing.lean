import PropertyAssignment.Code.Stmt

/-!
# The text of generated code

Expressions are written on one line, statements with four more spaces of indentation for every
enclosing body. Nothing is put in parentheses beyond what the forms themselves have, so the text
determines the tree only for trees whose operands need none.
-/

namespace PropertyAssignment

namespace Expr

mutual

def text : Expr → String
  | .var name => name
  | .null => "null"
  | .raw text => text
  | .invoke method arguments => method ++ "(" ++ ", ".intercalate (texts arguments) ++ ")"
  | .call receiver method arguments =>
    receiver.text ++ "." ++ method ++ "(" ++ ", ".intercalate (texts arguments) ++ ")"
  | .new type arguments =>
    "new " ++ type.text ++ "(" ++ ", ".intercalate (texts arguments) ++ ")"
  | .cast type operand => "(" ++ type.text ++ ") " ++ operand.text
  | .notNull operand => operand.text ++ " != null"

def texts : List Expr → List String
  | [] => []
  | expr :: rest => expr.text :: texts rest

end

theorem texts_eq_map (exprs : List Expr) : texts exprs = exprs.map text := by
  induction exprs with
  | nil => rfl
  | cons expr rest ih => simp [texts, ih]

end Expr

namespace Stmt

def indentation (depth : Nat) : String :=
  String.ofList (List.replicate (4 * depth) ' ')

mutual

/-- The lines of a statement at a nesting depth, without line ends. -/
def lines (depth : Nat) : Stmt → List String
  | .declare type name init =>
    [indentation depth ++ type.text ++ " " ++ name ++ " = " ++ init.text ++ ";"]
  | .branch condition thenBody elseBody =>
    (indentation depth ++ "if (" ++ condition.text ++ ") \x7b") ::
      (bodyLines (depth + 1) thenBody ++
        (if elseBody.isEmpty then []
          else (indentation depth ++ "\x7d else \x7b") :: bodyLines (depth + 1) elseBody) ++
        [indentation depth ++ "\x7d"])
  | .forEach elementType name iterable body =>
    (indentation depth ++ "for (" ++ elementType.text ++ " " ++ name ++ " : " ++ iterable.text ++
        ") \x7b") ::
      (bodyLines (depth + 1) body ++ [indentation depth ++ "\x7d"])
  | .expression expr => [indentation depth ++ expr.text ++ ";"]

def bodyLines (depth : Nat) : List Stmt → List String
  | [] => []
  | stmt :: rest => lines depth stmt ++ bodyLines depth rest

end

/-- The text of one statement; its last line has no line end. -/
def text (stmt : Stmt) : String :=
  "\n".intercalate (stmt.lines 0)

/-- The text of a method body: all lines of its statements, each with a line end. -/
def render (stmts : List Stmt) : String :=
  String.join ((bodyLines 0 stmts).map fun line => line ++ "\n")

theorem bodyLines_eq_flatMap (depth : Nat) (stmts : List Stmt) :
    bodyLines depth stmts = stmts.flatMap (lines depth) := by
  induction stmts with
  | nil => rfl
  | cons stmt rest ih => simp [bodyLines, ih]

end Stmt

end PropertyAssignment
