import PropertyAssignment.Assignment.Building
import PropertyAssignment.Assignment.Lowering
import PropertyAssignment.Code.Mentions

/-!
# Which types of the code are imported

The imports of an assignment and its code come from two separate recursions. Every type of the
value, of a cast, of a loop variable and of a replacement is covered by the imports, provided that
each source value covers the types of its own expression. The one type that no import set accounts
for is the declared type of the local variable that holds the container: so the code is covered
exactly if that type happens to be, and an assignment without such a local is covered outright.
-/

namespace PropertyAssignment

namespace ImportSet

/-- The set has every import that mentioning the type needs. -/
def Covers (set : ImportSet) (type : JavaType) : Prop :=
  set.isSuperset type.requiredImports = true

instance (set : ImportSet) (type : JavaType) : Decidable (set.Covers type) :=
  inferInstanceAs (Decidable (_ = true))

theorem covers_iff {set : ImportSet} {type : JavaType} :
    set.Covers type ↔
      ∀ identity ∈ type.requiredImports.identities, identity ∈ set.identities :=
  isSuperset_iff

theorem covers_requiredImports (type : JavaType) : type.requiredImports.Covers type :=
  covers_iff.mpr fun _ member => member

theorem Covers.union_left {set : ImportSet} {type : JavaType} (covered : set.Covers type)
    (other : ImportSet) : (set.union other).Covers type := by
  rw [covers_iff] at covered ⊢
  intro identity member
  exact mem_identities_union.mpr (.inl (covered identity member))

theorem Covers.union_right {other : ImportSet} {type : JavaType} (covered : other.Covers type)
    (set : ImportSet) : (set.union other).Covers type := by
  rw [covers_iff] at covered ⊢
  intro identity member
  exact mem_identities_union.mpr (.inr (covered identity member))

end ImportSet

/-- The value carries the imports of every type in its own expression. -/
def SourceValue.IsSelfContained (value : SourceValue) : Prop :=
  ∀ type ∈ value.expr.types, value.imports.Covers type

namespace Assignment

mutual

/-- All source values of an assignment, those of replacements included. -/
def sourceValues : Assignment → List SourceValue
  | .source value => [value]
  | .cast _ inner | .guarded _ inner | .set _ inner | .mergeInto _ _ inner
  | .addEach _ _ _ inner => inner.sourceValues
  | .mergeOrReplace _ _ replacement inner =>
    inner.sourceValues ++ replacementSourceValues replacement

def replacementSourceValues : Option Assignment → List SourceValue
  | none => []
  | some node => node.sourceValues

end

/-- The presence checks along the chain, the outermost one first. -/
def presences : Assignment → List Expr
  | .source _ => []
  | .guarded presence inner => presence :: inner.presences
  | .cast _ inner | .set _ inner | .mergeOrReplace _ _ _ inner | .mergeInto _ _ inner
  | .addEach _ _ _ inner => inner.presences

/-- The type with which the code declares a local variable for the container, if it does. -/
def localType? : Assignment → Option JavaType
  | .guarded _ inner => inner.localType?
  | .mergeOrReplace read _ _ _ | .mergeInto read _ _ => some read.type
  | .source _ | .cast .. | .set .. | .addEach .. => none

theorem importTypes_covers_valueExpr (node : Assignment)
    (sources : ∀ value ∈ node.sourceValues, value.IsSelfContained) :
    ∀ type ∈ node.valueExpr.types, node.importTypes.Covers type := by
  induction node with
  | source value => exact sources value (List.mem_singleton.mpr rfl)
  | cast castType inner ih =>
    intro type member
    rcases List.mem_cons.mp member with rfl | member
    · exact (ImportSet.covers_requiredImports type).union_right _
    · exact (ih sources type member).union_left _
  | guarded presence inner ih => exact ih sources
  | set setter inner ih => exact ih sources
  | mergeOrReplace read setter replacement inner _ ih =>
    intro type member
    have inInner := ih fun value inValue => sources value (List.mem_append_left _ inValue)
    exact (inInner type member).union_left _
  | mergeInto read clears inner ih => exact ih sources
  | addEach adder element loopName inner ih =>
    intro type member
    exact (ih sources type member).union_left _

theorem importTypes_covers_replacementExpr {read : ContainerRead} {setter : String}
    {replacement : Option Assignment} {inner : Assignment}
    (sources : ∀ value ∈ (mergeOrReplace read setter replacement inner).sourceValues,
      value.IsSelfContained) :
    ∀ type ∈ (replacementExpr replacement inner).types,
      (mergeOrReplace read setter replacement inner).importTypes.Covers type := by
  cases replacement with
  | none =>
    intro type member
    have inInner := importTypes_covers_valueExpr inner
      fun value inValue => sources value (List.mem_append_left _ inValue)
    exact (inInner type member).union_left _
  | some node =>
    intro type member
    have inNode := importTypes_covers_valueExpr node
      fun value inValue => sources value (List.mem_append_right _ inValue)
    exact (inNode type member).union_right _

theorem copyOf_isSelfContained {node : Assignment}
    (sources : ∀ value ∈ node.sourceValues, value.IsSelfContained) (type : JavaType) :
    (copyOf type node).IsSelfContained := by
  intro mentioned member
  simp only [copyOf, Expr.types, Expr.typesOfAll, List.append_nil, List.mem_cons] at member
  rcases member with rfl | inValue
  · exact (ImportSet.covers_requiredImports _).union_left _
  · exact (importTypes_covers_valueExpr _ sources mentioned inValue).union_right _

theorem types_lower_set (target : Expr) (setter : String) (inner : Assignment) :
    Stmt.typesOfAll ((Assignment.set setter inner).lower target) =
      target.types ++ inner.valueExpr.types := by
  simp [lower, Stmt.typesOfAll, Stmt.types, Expr.types, Expr.typesOfAll]

theorem types_lower_addEach (target : Expr) (adder : String) (element : JavaType)
    (loopName : String) (inner : Assignment) :
    Stmt.typesOfAll ((addEach adder element loopName inner).lower target) =
      element :: (inner.valueExpr.types ++ target.types) := by
  simp [lower, Stmt.typesOfAll, Stmt.types, Expr.types, Expr.typesOfAll]

theorem types_lower_guarded (target presence : Expr) (inner : Assignment) :
    Stmt.typesOfAll ((guarded presence inner).lower target) =
      presence.types ++ Stmt.typesOfAll (inner.lower target) := by
  simp [lower, Stmt.typesOfAll, Stmt.types]

theorem types_lower_mergeOrReplace (target : Expr) (read : ContainerRead) (setter : String)
    (replacement : Option Assignment) (inner : Assignment) :
    Stmt.typesOfAll ((mergeOrReplace read setter replacement inner).lower target) =
      read.type :: (target.types ++ (inner.valueExpr.types ++
        (target.types ++ (replacementExpr replacement inner).types))) := by
  simp [lower, ContainerRead.declaration, ContainerRead.clear, ContainerRead.fill,
    ContainerRead.localVar, Expr.get, Stmt.typesOfAll, Stmt.types, Expr.types, Expr.typesOfAll]

theorem types_lower_mergeInto (target : Expr) (read : ContainerRead) (clears : Bool)
    (inner : Assignment) :
    Stmt.typesOfAll ((mergeInto read clears inner).lower target) =
      read.type :: (target.types ++ inner.valueExpr.types) := by
  cases clears <;>
    simp [lower, ContainerRead.declaration, ContainerRead.clear, ContainerRead.fill,
      ContainerRead.localVar, Expr.get, Stmt.typesOfAll, Stmt.types, Expr.types, Expr.typesOfAll]

/-- Every type of the code is covered by the imports or is the type of the container's local. -/
theorem mem_types_lower {node : Assignment} {target : Expr}
    (sources : ∀ value ∈ node.sourceValues, value.IsSelfContained)
    (checks : ∀ presence ∈ node.presences, presence.types = []) (plain : target.types = []) :
    ∀ type ∈ Stmt.typesOfAll (node.lower target),
      node.importTypes.Covers type ∨ node.localType? = some type := by
  induction node with
  | source value =>
    intro type member
    simp only [lower, Stmt.typesOfAll, Stmt.types, List.append_nil] at member
    exact .inl (importTypes_covers_valueExpr _ sources type member)
  | cast castType inner _ =>
    intro type member
    simp only [lower, Stmt.typesOfAll, Stmt.types, List.append_nil] at member
    exact .inl (importTypes_covers_valueExpr _ sources type member)
  | guarded presence inner ih =>
    intro type member
    have noTypes := checks presence List.mem_cons_self
    rw [types_lower_guarded, noTypes, List.nil_append] at member
    exact ih sources (fun check inChecks => checks check (List.mem_cons_of_mem _ inChecks))
      type member
  | set setter inner _ =>
    intro type member
    rw [types_lower_set, plain, List.nil_append] at member
    exact .inl (importTypes_covers_valueExpr _ sources type member)
  | mergeOrReplace read setter replacement inner _ _ =>
    intro type member
    simp only [types_lower_mergeOrReplace, plain, List.nil_append, List.mem_cons,
      List.mem_append] at member
    rcases member with rfl | inValue | inReplacement
    · exact .inr rfl
    · exact .inl (importTypes_covers_valueExpr _ sources type inValue)
    · exact .inl (importTypes_covers_replacementExpr sources type inReplacement)
  | mergeInto read clears inner _ =>
    intro type member
    rw [types_lower_mergeInto, plain, List.nil_append] at member
    rcases List.mem_cons.mp member with rfl | inValue
    · exact .inr rfl
    · exact .inl (importTypes_covers_valueExpr _ sources type inValue)
  | addEach adder element loopName inner _ =>
    intro type member
    rw [types_lower_addEach, plain, List.append_nil] at member
    rcases List.mem_cons.mp member with rfl | inValue
    · exact .inl ((ImportSet.covers_requiredImports type).union_right _)
    · exact .inl (importTypes_covers_valueExpr _ sources type inValue)

theorem localType_mem_types_lower {node : Assignment} {type : JavaType}
    (declared : node.localType? = some type) (target : Expr) :
    type ∈ Stmt.typesOfAll (node.lower target) := by
  induction node with
  | guarded presence inner ih =>
    rw [types_lower_guarded]
    exact List.mem_append_right _ (ih declared)
  | mergeOrReplace read setter replacement inner _ _ =>
    obtain rfl := Option.some.inj declared
    rw [types_lower_mergeOrReplace]
    exact List.mem_cons_self
  | mergeInto read clears inner _ =>
    obtain rfl := Option.some.inj declared
    rw [types_lower_mergeInto]
    exact List.mem_cons_self
  | source | cast | set | addEach => contradiction

/-- The imports cover every type of the code exactly if they cover the type with which the
container's local is declared. -/
theorem importTypes_covers_lower_iff {node : Assignment} {target : Expr}
    (sources : ∀ value ∈ node.sourceValues, value.IsSelfContained)
    (checks : ∀ presence ∈ node.presences, presence.types = []) (plain : target.types = []) :
    (∀ type ∈ Stmt.typesOfAll (node.lower target), node.importTypes.Covers type) ↔
      ∀ type, node.localType? = some type → node.importTypes.Covers type := by
  constructor
  · intro covered type declared
    exact covered type (localType_mem_types_lower declared target)
  · intro covered type member
    rcases mem_types_lower sources checks plain type member with inImports | declared
    · exact inImports
    · exact covered type declared

/-- A guarded merge whose value is cast to the type of the local: here nothing is missing. -/
theorem importTypes_covers_lower_of_cast :
    let items := JavaType.generic "java.util.List" [.declared "com.acme.Item"]
    let node : Assignment := .guarded (.notNull (.var "items"))
      (.mergeInto ⟨"getItems", items, "list"⟩ true
        (.cast items (.source ⟨.var "items", .direct, .empty⟩)))
    (∀ value ∈ node.sourceValues, value.IsSelfContained) ∧
      (∀ presence ∈ node.presences, presence.types = []) ∧ (Expr.var "target").types = [] ∧
      ∀ type ∈ Stmt.typesOfAll (node.lower (.var "target")), node.importTypes.Covers type := by
  intro items node
  have sources : ∀ value ∈ node.sourceValues, value.IsSelfContained := by
    simp [node, sourceValues, SourceValue.IsSelfContained, Expr.types]
  have checks : ∀ presence ∈ node.presences, presence.types = [] := by
    simp [node, presences, Expr.types]
  refine ⟨sources, checks, rfl, (importTypes_covers_lower_iff sources checks rfl).mpr ?_⟩
  rintro type declared
  obtain rfl := Option.some.inj declared
  exact (ImportSet.covers_requiredImports items).union_right _

/-- The update of a set of texts from the source's own set. Its code declares a local of type
`Set<String>`, while its imports name `HashSet` alone. -/
theorem importTypes_misses_local :
    let tags := JavaType.generic "java.util.Set" [.declared "java.lang.String"]
    let value : Assignment := .source ⟨.get (.var "source") "getTags", .direct, .empty⟩
    let node : Assignment :=
      .mergeOrReplace ⟨"getTags", tags, "set"⟩ "setTags" (some (.source (copyOf tags value))) value
    (∀ value ∈ node.sourceValues, value.IsSelfContained) ∧
      (∀ presence ∈ node.presences, presence.types = []) ∧ (Expr.var "target").types = [] ∧
      ∃ type ∈ Stmt.typesOfAll (node.lower (.var "target")), ¬ node.importTypes.Covers type := by
  intro tags value node
  have plain : ∀ inner ∈ value.sourceValues, inner.IsSelfContained := by
    simp [value, sourceValues, SourceValue.IsSelfContained, Expr.get, Expr.types, Expr.typesOfAll]
  refine ⟨?_, by simp [node, value, presences], rfl, tags, localType_mem_types_lower rfl _, ?_⟩
  · intro inner member
    rcases List.mem_append.mp member with inValue | inCopy
    · exact plain inner inValue
    · obtain rfl := List.mem_singleton.mp inCopy
      exact copyOf_isSelfContained plain tags
  · decide +kernel

end Assignment

end PropertyAssignment
