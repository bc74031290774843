import PropertyAssignment.SourceValue

/-!
# Assignments

An assignment is a source value under a chain of nodes, each around one inner assignment. Nodes
convert the value (a cast), guard it (a presence check) or write it (the four others). The node that
merges or replaces may carry a second assignment beside the chain: the value to set where no
container is there yet.
-/

namespace PropertyAssignment

/-- How the container that a property holds is read into a local variable: the getter, the
property's type and the name of the local. -/
structure ContainerRead where
  getter : String
  type : JavaType
  localName : String
deriving Repr

inductive Assignment where
  | source (value : SourceValue)
  /-- The inner value, cast to a type. -/
  | cast (type : JavaType) (inner : Assignment)
  /-- The inner assignment where a presence check holds. -/
  | guarded (presence : Expr) (inner : Assignment)
  /-- The inner value, written through a setter. -/
  | set (setter : String) (inner : Assignment)
  /-- The inner value, filled into the container that is there; where there is none the
  replacement is set, or the inner value itself. -/
  | mergeOrReplace (read : ContainerRead) (setter : String) (replacement : Option Assignment)
      (inner : Assignment)
  /-- The inner value, filled into the container that is there, which is cleared first if so
  wanted. Nothing is written where there is none. -/
  | mergeInto (read : ContainerRead) (clears : Bool) (inner : Assignment)
  /-- The elements of the inner value, handed to an adder one by one. -/
  | addEach (adder : String) (element : JavaType) (loopName : String) (inner : Assignment)

namespace Assignment

/-- Induction over an assignment; the replacement of a node counts as a part of it. -/
@[induction_eliminator]
theorem induction {motive : Assignment → Prop}
    (source : ∀ value, motive (.source value))
    (cast : ∀ type inner, motive inner → motive (.cast type inner))
    (guarded : ∀ presence inner, motive inner → motive (.guarded presence inner))
    (set : ∀ setter inner, motive inner → motive (.set setter inner))
    (mergeOrReplace : ∀ read setter replacement inner,
      (∀ node, replacement = some node → motive node) → motive inner →
      motive (.mergeOrReplace read setter replacement inner))
    (mergeInto : ∀ read clears inner, motive inner → motive (.mergeInto read clears inner))
    (addEach : ∀ adder element loopName inner, motive inner →
      motive (.addEach adder element loopName inner)) : ∀ node, motive node
  | .source value => source value
  | .cast type inner =>
    cast type inner (induction source cast guarded set mergeOrReplace mergeInto addEach inner)
  | .guarded presence inner =>
    guarded presence inner
      (induction source cast guarded set mergeOrReplace mergeInto addEach inner)
  | .set setter inner =>
    set setter inner (induction source cast guarded set mergeOrReplace mergeInto addEach inner)
  | .mergeOrReplace read setter none inner =>
    mergeOrReplace read setter none inner (fun _ isSome => nomatch isSome)
      (induction source cast guarded set mergeOrReplace mergeInto addEach inner)
  | .mergeOrReplace read setter (some node) inner =>
    mergeOrReplace read setter (some node) inner
      (fun _ isSome => Option.some.inj isSome ▸
        induction source cast guarded set mergeOrReplace mergeInto addEach node)
      (induction source cast guarded set mergeOrReplace mergeInto addEach inner)
  | .mergeInto read clears inner =>
    mergeInto read clears inner
      (induction source cast guarded set mergeOrReplace mergeInto addEach inner)
  | .addEach adder element loopName inner =>
    addEach adder element loopName inner
      (induction source cast guarded set mergeOrReplace mergeInto addEach inner)

/-- The assignment directly inside a node; none in a source value. -/
def inner? : Assignment → Option Assignment
  | .source _ => none
  | .cast _ inner | .guarded _ inner | .set _ inner | .mergeOrReplace _ _ _ inner
  | .mergeInto _ _ inner | .addEach _ _ _ inner => some inner

/-- The nodes from the outermost one down to the source value. -/
def chain : Assignment → List Assignment
  | .source value => [.source value]
  | .cast type inner => .cast type inner :: inner.chain
  | .guarded presence inner => .guarded presence inner :: inner.chain
  | .set setter inner => .set setter inner :: inner.chain
  | .mergeOrReplace read setter replacement inner =>
    .mergeOrReplace read setter replacement inner :: inner.chain
  | .mergeInto read clears inner => .mergeInto read clears inner :: inner.chain
  | .addEach adder element loopName inner => .addEach adder element loopName inner :: inner.chain

/-- The number of nodes of the chain, the source value included. -/
def depth (assignment : Assignment) : Nat :=
  assignment.chain.length

def innermost : Assignment → SourceValue
  | .source value => value
  | .cast _ inner | .guarded _ inner | .set _ inner | .mergeOrReplace _ _ _ inner
  | .mergeInto _ _ inner | .addEach _ _ _ inner => inner.innermost

def kind (assignment : Assignment) : ValueKind :=
  assignment.innermost.kind

/-- The expression of the value: that of the source value under the casts of the chain. All
other nodes leave the value as it is. -/
def valueExpr : Assignment → Expr
  | .source value => value.expr
  | .cast type inner => .cast type inner.valueExpr
  | .guarded _ inner | .set _ inner | .mergeOrReplace _ _ _ inner
  | .mergeInto _ _ inner | .addEach _ _ _ inner => inner.valueExpr

def label : Assignment → String
  | .source _ => "fragment"
  | .cast .. => "cast"
  | .guarded .. => "null-check"
  | .set .. => "setter"
  | .mergeOrReplace .. => "merge-or-replace"
  | .mergeInto .. => "getter-merge"
  | .addEach .. => "adder"

end Assignment

end PropertyAssignment
