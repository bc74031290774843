import PropertyAssignment.Proofs.BuildOutcome

/-!
# Where imports come from

The imports of an assignment are what the nodes of its chain bring along: the source value its
own, a cast and a loop those of the type that they mention, a replacement all that it imports
itself. Imports are only ever added on the way up, so a node imports what any node below it does.
A build keeps the imports of the value too. If it copies the value, the copy takes them over, and
the type it constructs comes on top.
-/

namespace PropertyAssignment

/-- Whether the node of the strategy holds a copy of the value. -/
def WriteStrategy.copies (kind : ValueKind) : WriteStrategy → Bool
  | .set _ copy => copy
  | .mergeOrReplace .. => kind.isDirect
  | .addEach .. | .mergeInto _ => false

namespace Assignment

/-- The ways in which an identity gets into the imports of an assignment. -/
inductive BringsImport (node : Assignment) (identity : Identity) : Prop where
  /-- The source value at the end of the chain needs it. -/
  | source (needed : identity ∈ node.innermost.imports.identities)
  /-- A cast of the chain mentions a type that needs it. -/
  | cast (type : JavaType) (inner : Assignment) (inChain : .cast type inner ∈ node.chain)
    (needed : identity ∈ type.requiredImports.identities)
  /-- A loop of the chain has elements of a type that needs it. -/
  | addEach (adder : String) (element : JavaType) (loopName : String) (inner : Assignment)
    (inChain : .addEach adder element loopName inner ∈ node.chain)
    (needed : identity ∈ element.requiredImports.identities)
  /-- The replacement at a node of the chain imports it. -/
  | replacement (read : ContainerRead) (setter : String) (replacement inner : Assignment)
    (inChain : .mergeOrReplace read setter (some replacement) inner ∈ node.chain)
    (needed : identity ∈ replacement.importTypes.identities)

section
variable {node inner : Assignment} {identity : Identity}

theorem chain_of_inner (isInner : node.inner? = some inner) : node.chain = node :: inner.chain := by
  cases node with
  | source => cases isInner
  | cast | guarded | set | mergeOrReplace | mergeInto | addEach =>
    cases isInner
    rfl

theorem innermost_of_inner (isInner : node.inner? = some inner) :
    node.innermost = inner.innermost := by
  cases node with
  | source => cases isInner
  | cast | guarded | set | mergeOrReplace | mergeInto | addEach =>
    cases isInner
    rfl

theorem mem_chain_self (node : Assignment) : node ∈ node.chain := by
  cases node <;> exact List.mem_cons_self

theorem source_innermost_mem_chain (node : Assignment) : .source node.innermost ∈ node.chain := by
  induction node with
  | source value => exact List.mem_cons_self
  | cast _ _ ih | guarded _ _ ih | set _ _ ih | mergeOrReplace _ _ _ _ _ ih | mergeInto _ _ _ ih
  | addEach _ _ _ _ ih => exact List.mem_cons_of_mem _ ih

theorem mem_replacementImports {replacement : Option Assignment} :
    identity ∈ (replacementImports replacement).identities ↔
      ∃ node, replacement = some node ∧ identity ∈ node.importTypes.identities := by
  cases replacement with
  | none => simp [replacementImports, ImportSet.identities, ImportSet.empty]
  | some node => simp [replacementImports]

theorem mem_importTypes_of_inner (isInner : node.inner? = some inner)
    (member : identity ∈ inner.importTypes.identities) :
    identity ∈ node.importTypes.identities := by
  cases node with
  | source => cases isInner
  | guarded | set | mergeInto =>
    cases isInner
    exact member
  | cast | mergeOrReplace | addEach =>
    cases isInner
    exact ImportSet.mem_identities_union.mpr (.inl member)

theorem mem_importTypes_of_mem_chain {below : Assignment} (inChain : below ∈ node.chain)
    (member : identity ∈ below.importTypes.identities) :
    identity ∈ node.importTypes.identities := by
  induction node with
  | source value =>
    obtain rfl := List.mem_singleton.mp inChain
    exact member
  | cast _ _ ih | guarded _ _ ih | set _ _ ih | mergeOrReplace _ _ _ _ _ ih | mergeInto _ _ _ ih
  | addEach _ _ _ _ ih =>
    rcases List.mem_cons.mp inChain with rfl | inRest
    · exact member
    · exact mem_importTypes_of_inner rfl (ih inRest)

theorem BringsImport.of_inner (isInner : node.inner? = some inner)
    (brings : inner.BringsImport identity) : node.BringsImport identity := by
  have inChain {below : Assignment} (member : below ∈ inner.chain) : below ∈ node.chain := by
    rw [chain_of_inner isInner]
    exact List.mem_cons_of_mem _ member
  cases brings with
  | source needed => exact .source (innermost_of_inner isInner ▸ needed)
  | cast type below member needed => exact .cast type below (inChain member) needed
  | addEach adder element loopName below member needed =>
    exact .addEach adder element loopName below (inChain member) needed
  | replacement read setter replacement below member needed =>
    exact .replacement read setter replacement below (inChain member) needed

/-- The imports of an assignment are what the nodes of the chain bring along. -/
theorem mem_importTypes : identity ∈ node.importTypes.identities ↔ node.BringsImport identity := by
  constructor
  · intro member
    induction node with
    | source value => exact .source member
    | guarded presence inner ih => exact (ih member).of_inner rfl
    | set setter inner ih => exact (ih member).of_inner rfl
    | mergeInto read clears inner ih => exact (ih member).of_inner rfl
    | cast type inner ih =>
      rcases ImportSet.mem_identities_union.mp member with inInner | needed
      · exact (ih inInner).of_inner rfl
      · exact .cast type inner (mem_chain_self _) needed
    | addEach adder element loopName inner ih =>
      rcases ImportSet.mem_identities_union.mp member with inInner | needed
      · exact (ih inInner).of_inner rfl
      · exact .addEach adder element loopName inner (mem_chain_self _) needed
    | mergeOrReplace read setter replacement inner _ ih =>
      rcases ImportSet.mem_identities_union.mp member with inInner | needed
      · exact (ih inInner).of_inner rfl
      · obtain ⟨node, rfl, needed⟩ := mem_replacementImports.mp needed
        exact .replacement read setter node inner (mem_chain_self _) needed
  · intro brings
    cases brings with
    | source needed => exact mem_importTypes_of_mem_chain (source_innermost_mem_chain node) needed
    | cast type below inChain needed =>
      exact mem_importTypes_of_mem_chain inChain (ImportSet.mem_identities_union.mpr (.inr needed))
    | addEach adder element loopName below inChain needed =>
      exact mem_importTypes_of_mem_chain inChain (ImportSet.mem_identities_union.mpr (.inr needed))
    | replacement read setter replacement below inChain needed =>
      exact mem_importTypes_of_mem_chain inChain (ImportSet.mem_identities_union.mpr (.inr needed))

end

/-! ### The imports of what is built -/

section
variable {source : Assignment} {strategy : WriteStrategy}

theorem importTypes_underCheck (options : Options) (kind : ValueKind) (type : JavaType)
    (assignment : Assignment) (presence : Option Expr) :
    (underCheck options kind type assignment presence).importTypes = assignment.importTypes := by
  rcases underCheck_cases options kind type assignment presence with same | ⟨check, _, guarded⟩
  · rw [same]
  · rw [guarded]
    rfl

/-- The node of a strategy imports what the value does. Where it holds a copy in place of the value,
the copy does. -/
theorem mem_importTypes_node {identity : Identity}
    (member : identity ∈ source.importTypes.identities) (strategy : WriteStrategy)
    (type : JavaType) (options : Options) (name : String) :
    identity ∈ (strategy.node type options source name).importTypes.identities := by
  have inCopy : identity ∈ (Assignment.source (copyOf type source)).importTypes.identities :=
    ImportSet.mem_identities_union.mpr (.inr member)
  cases strategy with
  | addEach | mergeOrReplace | mergeInto => exact mem_importTypes_of_inner rfl member
  | set setter copy =>
    cases copy with
    | true => exact inCopy
    | false => exact member

theorem importTypes_node_of_plain (noCopy : strategy.copies source.kind = false)
    (noAdder : ∀ adder element, strategy ≠ .addEach adder element) (type : JavaType)
    (options : Options) (name : String) :
    (strategy.node type options source name).importTypes = source.importTypes := by
  cases strategy with
  | addEach adder element => exact absurd rfl (noAdder adder element)
  | mergeOrReplace setter getter =>
    have shared : source.kind.isDirect = false := noCopy
    simp only [WriteStrategy.node, shared]
    rfl
  | set setter copy =>
    obtain rfl : copy = false := noCopy
    rfl
  | mergeInto getter => rfl

/-- The imports of an assignment are those of its source value, of the types of its casts, of the
element types of its loops and of its replacements, each identity once; and every node imports
what the assignment inside it does. A build never loses an import of the value. It adds some only
where it makes a copy or a loop. -/
theorem importTypes_eq_union (node : Assignment) :
    (∀ identity, identity ∈ node.importTypes.identities ↔ node.BringsImport identity) ∧
      node.importTypes.identities.Nodup ∧
      (∀ inner, node.inner? = some inner → node.importTypes.isSuperset inner.importTypes = true) ∧
      ∀ options property presence scope assignment,
        ((build options property node presence).run.run scope).1 = .ok assignment →
          assignment.importTypes.isSuperset node.importTypes = true ∧
          ∀ strategy, WriteStrategy.select property options node.kind = .ok strategy →
            strategy.copies node.kind = false →
            (∀ adder element, strategy ≠ .addEach adder element) →
              assignment.importTypes = node.importTypes := by
  refine ⟨fun identity => mem_importTypes, node.importTypes.distinct, ?_, ?_⟩
  · intro inner isInner
    exact ImportSet.isSuperset_iff.mpr fun identity => mem_importTypes_of_inner isInner
  · intro options property presence scope assignment built
    obtain ⟨chosenStrategy, chosen, rfl⟩ := exists_chosen_of_build built
    rw [importTypes_underCheck]
    constructor
    · exact ImportSet.isSuperset_iff.mpr fun identity member => mem_importTypes_node member ..
    · intro strategy selected noCopy noAdder
      cases chosen.symm.trans selected
      exact importTypes_node_of_plain noCopy noAdder ..

/-- A set of numbers, cast on the way: set without an old value it is copied, which imports the type
of the copy besides that of the cast. A converted value is set as it is and imports nothing more. -/
theorem importTypes_eq_union_numbers :
    let numbers := JavaType.generic "java.util.Set" [.declared "java.math.BigDecimal"]
    let property : Property := { name := "numbers", type := numbers, setter := some "setNumbers" }
    let value (kind : ValueKind) : Assignment :=
      .cast numbers (.source ⟨.var "numbers", kind, .empty⟩)
    (∃ assignment,
      ((build {} property (value .direct) none).run.run .empty).1 = .ok assignment ∧
        assignment.importTypes.isSuperset (value .direct).importTypes = true ∧
        (QualifiedName.parse "java.util.HashSet").identity ∈ assignment.importTypes.identities) ∧
      ∃ assignment,
        ((build {} property (value .converted) none).run.run .empty).1 = .ok assignment ∧
          assignment.importTypes = (value .converted).importTypes := by
  intro numbers property value
  have copied : ((build {} property (value .direct) none).run.run .empty).1 =
      .ok (.set "setNumbers" (.source (copyOf numbers (value .direct)))) := rfl
  have kept : ((build {} property (value .converted) none).run.run .empty).1 =
      .ok (.set "setNumbers" (value .converted)) := rfl
  refine ⟨⟨_, copied, ((importTypes_eq_union _).2.2.2 _ _ _ _ _ copied).1, by decide +kernel⟩,
    _, kept, ?_⟩
  have selected : WriteStrategy.select property {} (value .converted).kind =
      .ok (.set "setNumbers" false) := rfl
  have noAdder (adder : String) (element : JavaType) :
      WriteStrategy.set "setNumbers" false ≠ .addEach adder element := by
    rintro ⟨⟩
  exact ((importTypes_eq_union _).2.2.2 _ _ _ _ _ kept).2 _ selected rfl noAdder

end

end Assignment

end PropertyAssignment
