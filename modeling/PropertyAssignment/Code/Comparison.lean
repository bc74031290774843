import PropertyAssignment.Code.Stmt

/-!
# Comparing code

Two pieces of code are compared part by part, and their types by a relation that the caller gives.
Two pieces are the same when the types are compared by identity.
-/

namespace PropertyAssignment

namespace Expr

mutual

/-- Whether two expressions are built alike from equal names, with types that agree. -/
def agrees (agree : JavaType → JavaType → Bool) : Expr → Expr → Bool
  | .var a, .var b => a == b
  | .null, .null => true
  | .raw a, .raw b => a == b
  | .invoke m as, .invoke n bs => m == n && agreesAll agree as bs
  | .call r m as, .call s n bs => agrees agree r s && m == n && agreesAll agree as bs
  | .new t as, .new u bs => agree t u && agreesAll agree as bs
  | .cast t a, .cast u b => agree t u && agrees agree a b
  | .notNull a, .notNull b => agrees agree a b
  | _, _ => false

def agreesAll (agree : JavaType → JavaType → Bool) : List Expr → List Expr → Bool
  | [], [] => true
  | a :: as, b :: bs => agrees agree a b && agreesAll agree as bs
  | _, _ => false

end

/-- Whether two expressions are the same, with types compared by identity. -/
def same (a b : Expr) : Bool :=
  agrees JavaType.same a b

end Expr

namespace Stmt

mutual

def agrees (agree : JavaType → JavaType → Bool) : Stmt → Stmt → Bool
  | .declare t n a, .declare u m b => agree t u && n == m && a.agrees agree b
  | .branch c as bs, .branch d as' bs' =>
    c.agrees agree d && agreesAll agree as as' && agreesAll agree bs bs'
  | .forEach t n a as, .forEach u m b bs =>
    agree t u && n == m && a.agrees agree b && agreesAll agree as bs
  | .expression a, .expression b => a.agrees agree b
  | _, _ => false

def agreesAll (agree : JavaType → JavaType → Bool) : List Stmt → List Stmt → Bool
  | [], [] => true
  | a :: as, b :: bs => agrees agree a b && agreesAll agree as bs
  | _, _ => false

end

/-- Whether two bodies are the same, with types compared by identity. -/
def same (as bs : List Stmt) : Bool :=
  agreesAll JavaType.same as bs

end Stmt

end PropertyAssignment
