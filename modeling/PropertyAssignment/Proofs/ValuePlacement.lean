import PropertyAssignment.Proofs.GuardReach

/-!
# Where the value of an assignment goes

The value of an assignment is the expression of its source under the casts of the chain, and no
other node adds to it. What is written is the value of the first node of the chain that is no guard.
The guards before it become conditionals around its code, one in the other, and do nothing else.
-/

namespace PropertyAssignment.Assignment

def castType? : Assignment → Option JavaType
  | .cast type _ => some type
  | .source _ | .guarded .. | .set .. | .mergeOrReplace .. | .mergeInto .. | .addEach .. => none

def presence? : Assignment → Option Expr
  | .guarded presence _ => some presence
  | .source _ | .cast .. | .set .. | .mergeOrReplace .. | .mergeInto .. | .addEach .. => none

/-- The code under the conditionals, the outermost one first, each without an alternative. -/
def underChecks (checks : List Expr) (code : List Stmt) : List Stmt :=
  checks.foldr (fun presence body => [.branch presence body []]) code

/-- How a node places a value: it is evaluated, handed to the setter, filled into the container or
gone through in a loop. Where there is no container, the replacement's value is set instead if there
is a replacement. A guard places nothing. -/
inductive Places (target value : Expr) : Assignment → List Stmt → Prop
  | source (given : SourceValue) : Places target value (.source given) [.expression value]
  | cast (type : JavaType) (inner : Assignment) :
    Places target value (.cast type inner) [.expression value]
  | set (setter : String) (inner : Assignment) :
    Places target value (.set setter inner) [.expression (.call target setter [value])]
  | mergeOrReplace (read : ContainerRead) (setter : String) (replacement : Option Assignment)
    (inner : Assignment) :
    Places target value (.mergeOrReplace read setter replacement inner)
      [.declare read.type read.localName (.call target read.getter []),
        .branch (.notNull (.var read.localName))
          [.expression (.call (.var read.localName) "clear" []),
            .expression (.call (.var read.localName) read.bulkInsert [value])]
          [.expression (.call target setter [replacement.elim value valueExpr])]]
  | fill (read : ContainerRead) (inner : Assignment) :
    Places target value (.mergeInto read false inner)
      [.declare read.type read.localName (.call target read.getter []),
        .branch (.notNull (.var read.localName))
          [.expression (.call (.var read.localName) read.bulkInsert [value])] []]
  | clearAndFill (read : ContainerRead) (inner : Assignment) :
    Places target value (.mergeInto read true inner)
      [.declare read.type read.localName (.call target read.getter []),
        .branch (.notNull (.var read.localName))
          [.expression (.call (.var read.localName) "clear" []),
            .expression (.call (.var read.localName) read.bulkInsert [value])] []]
  | addEach (adder : String) (element : JavaType) (loopName : String) (inner : Assignment) :
    Places target value (.addEach adder element loopName inner)
      [.forEach element loopName value [.expression (.call target adder [.var loopName])]]

theorem valueExpr_eq_casts (node : Assignment) :
    node.valueExpr = (node.chain.filterMap castType?).foldr Expr.cast node.innermost.expr := by
  induction node with
  | source value => rfl
  | cast type inner ih => exact congrArg (Expr.cast type) ih
  | guarded presence inner ih => exact ih
  | set setter inner ih => exact ih
  | mergeOrReplace read setter replacement inner _ ih => exact ih
  | mergeInto read clears inner ih => exact ih
  | addEach adder element loopName inner ih => exact ih

theorem find?_chain_unguarded (node : Assignment) :
    node.chain.find? (fun part => part.presence?.isNone) = some node.unguarded := by
  induction node with
  | guarded presence inner ih => exact ih
  | source | cast | set | mergeOrReplace | mergeInto | addEach => rfl

theorem outerChecks_eq_takeWhile (node : Assignment) :
    node.outerChecks =
      (node.chain.takeWhile fun part => part.presence?.isSome).filterMap presence? := by
  induction node with
  | guarded presence inner ih => exact congrArg (List.cons presence) ih
  | source | cast | set | mergeOrReplace | mergeInto | addEach => rfl

theorem valueExpr_unguarded (node : Assignment) : node.unguarded.valueExpr = node.valueExpr := by
  induction node with
  | guarded presence inner ih => exact ih
  | source | cast | set | mergeOrReplace | mergeInto | addEach => rfl

theorem lower_eq_underChecks (node : Assignment) (target : Expr) :
    node.lower target = underChecks node.outerChecks (node.unguarded.lower target) := by
  induction node with
  | guarded presence inner ih =>
    exact congrArg (fun body => [Stmt.branch presence body []]) ih
  | source | cast | set | mergeOrReplace | mergeInto | addEach => rfl

/-- Inside the guards the code places the value of its own node. -/
theorem places_lower_unguarded (node : Assignment) (target : Expr) :
    Places target node.unguarded.valueExpr node.unguarded (node.unguarded.lower target) := by
  induction node with
  | guarded presence inner ih => exact ih
  | source value => exact .source value
  | cast type inner => exact .cast type inner
  | set setter inner => exact .set setter inner
  | mergeOrReplace read setter replacement inner =>
    cases replacement with
    | none => exact .mergeOrReplace read setter none inner
    | some node => exact .mergeOrReplace read setter (some node) inner
  | mergeInto read clears inner =>
    cases clears with
    | false => exact .fill read inner
    | true => exact .clearAndFill read inner
  | addEach adder element loopName inner => exact .addEach adder element loopName inner

/-- The value of an assignment is the source's expression under the casts of the chain, in their
order. The first node of the chain that is no guard places just this value, and the guards before
it are conditionals around its code, in their order. -/
theorem lower_placesValue (node : Assignment) :
    node.valueExpr = (node.chain.filterMap castType?).foldr Expr.cast node.innermost.expr ∧
      ∃ writer, node.chain.find? (fun part => part.presence?.isNone) = some writer ∧
        writer.valueExpr = node.valueExpr ∧
        ∀ target, ∃ code, Places target writer.valueExpr writer code ∧
          node.lower target = underChecks
            ((node.chain.takeWhile fun part => part.presence?.isSome).filterMap presence?) code := by
  refine ⟨valueExpr_eq_casts node, node.unguarded, find?_chain_unguarded node,
    valueExpr_unguarded node, ?_⟩
  intro target
  refine ⟨node.unguarded.lower target, places_lower_unguarded node target, ?_⟩
  rw [← outerChecks_eq_takeWhile]
  exact lower_eq_underChecks node target

/-- The inner guard adds nothing to the value, and the cast below it is kept. -/
example (outer inner name : Expr) (type : JavaType) :
    lower (.var "target") (.guarded outer (.set "setName"
        (.guarded inner (.cast type (.source ⟨name, .direct, .empty⟩))))) =
      underChecks [outer] [.expression (.call (.var "target") "setName" [.cast type name])] :=
  rfl

end PropertyAssignment.Assignment
