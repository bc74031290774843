import PropertyAssignment.Proofs.NameHygiene

/-!
# Another name for the variable

The code of an assignment declares at most one variable. Giving that variable another name changes
nothing else of the assignment, and in the code it changes the declaration and the uses that the
writing node makes of it. To tell these from uses of an equal name in the value, in the target or
in a presence check, the code is first written with a name that occurs in none of them; renaming
this one everywhere then gives the code under any other name.
-/

namespace PropertyAssignment

def renamed (old new name : String) : String :=
  if name = old then new else name

@[simp] theorem renamed_self (old new : String) : renamed old new old = new :=
  if_pos rfl

namespace Expr

mutual

@[simp] def rename (old new : String) : Expr → Expr
  | .var name => .var (renamed old new name)
  | .null => .null
  | .raw text => .raw text
  | .invoke method arguments => .invoke method (renameAll old new arguments)
  | .call receiver method arguments =>
    .call (rename old new receiver) method (renameAll old new arguments)
  | .new type arguments => .new type (renameAll old new arguments)
  | .cast type operand => .cast type (rename old new operand)
  | .notNull operand => .notNull (rename old new operand)

@[simp] def renameAll (old new : String) : List Expr → List Expr
  | [] => []
  | expr :: rest => rename old new expr :: renameAll old new rest

end

section
variable {old new : String}

theorem renameAll_of_forall {exprs : List Expr}
    (same : ∀ expr ∈ exprs, expr.rename old new = expr) : renameAll old new exprs = exprs := by
  induction exprs with
  | nil => rfl
  | cons first rest ih =>
    rw [renameAll, same first List.mem_cons_self,
      ih fun expr member => same expr (List.mem_cons_of_mem _ member)]

theorem not_mem_usedNames_of_mem {exprs : List Expr} (unused : old ∉ usedNamesOfAll exprs) :
    ∀ expr ∈ exprs, old ∉ expr.usedNames := by
  intro expr member used
  rw [usedNamesOfAll_eq_flatMap] at unused
  exact unused (List.mem_flatMap.mpr ⟨expr, member, used⟩)

theorem rename_of_not_mem {expr : Expr} (unused : old ∉ expr.usedNames) :
    expr.rename old new = expr := by
  induction expr with
  | var name =>
    have different : name ≠ old := fun same => unused (by simp [usedNames, same])
    rw [rename, renamed, if_neg different]
  | null | raw => rfl
  | invoke method arguments ih | new type arguments ih =>
    have argumentsUnused := not_mem_usedNames_of_mem unused
    rw [rename, renameAll_of_forall fun argument member =>
      ih argument member (argumentsUnused argument member)]
  | call receiver method arguments ihReceiver ihArguments =>
    rw [usedNames, List.mem_append, not_or] at unused
    have argumentsUnused := not_mem_usedNames_of_mem unused.2
    rw [rename, ihReceiver unused.1, renameAll_of_forall fun argument member =>
      ihArguments argument member (argumentsUnused argument member)]
  | cast type operand ih | notNull operand ih => rw [rename, ih unused]

end

end Expr

namespace Stmt

mutual

/-- The statement with one variable replaced by another, in declarations and in uses. -/
@[simp] def rename (old new : String) : Stmt → Stmt
  | .declare type name init => .declare type (renamed old new name) (init.rename old new)
  | .branch condition thenBody elseBody =>
    .branch (condition.rename old new) (renameAll old new thenBody) (renameAll old new elseBody)
  | .forEach elementType name iterable body =>
    .forEach elementType (renamed old new name) (iterable.rename old new) (renameAll old new body)
  | .expression expr => .expression (expr.rename old new)

@[simp] def renameAll (old new : String) : List Stmt → List Stmt
  | [] => []
  | stmt :: rest => rename old new stmt :: renameAll old new rest

end

end Stmt

/-! The statements that a node makes around its variable, under a name that occurs in neither the
target nor the value. -/

namespace ContainerRead
variable {common name : String} (read : ContainerRead)

theorem rename_declaration {target : Expr} (fresh : common ∉ target.usedNames) :
    (declaration { read with localName := common } target).rename common name =
      declaration { read with localName := name } target := by
  simp [declaration, Expr.get, Expr.rename_of_not_mem fresh]

theorem rename_localVar :
    (localVar { read with localName := common }).rename common name =
      localVar { read with localName := name } := by
  simp [localVar]

theorem rename_clear :
    (clear { read with localName := common }).rename common name =
      clear { read with localName := name } := by
  simp [clear, Expr.get, rename_localVar]

theorem rename_fill {value : Expr} (fresh : common ∉ value.usedNames) :
    (fill { read with localName := common } value).rename common name =
      fill { read with localName := name } value := by
  simp [fill, bulkInsert, rename_localVar, Expr.rename_of_not_mem fresh]

end ContainerRead

namespace Assignment

/-- The assignment with another name for the variable that its code declares, if there is one. -/
def withVariableName (name : String) : Assignment → Assignment
  | .source value => .source value
  | .cast type inner => .cast type inner
  | .guarded presence inner => .guarded presence (inner.withVariableName name)
  | .set setter inner => .set setter inner
  | .mergeOrReplace read setter replacement inner =>
    .mergeOrReplace { read with localName := name } setter replacement inner
  | .mergeInto read clears inner => .mergeInto { read with localName := name } clears inner
  | .addEach adder element _ inner => .addEach adder element name inner

/-- The value to set where no container is there yet, if the node that writes has one of its own. -/
def replacement? : Assignment → Option Assignment
  | .guarded _ inner => inner.replacement?
  | .mergeOrReplace _ _ replacement _ => replacement
  | .source _ | .cast .. | .set .. | .mergeInto .. | .addEach .. => none

/-- The variables that the code takes from elsewhere: those of the target, of the value and its
replacement, and of the presence checks. -/
def outerNames (target : Expr) : Assignment → List String
  | .source value => value.expr.usedNames
  | .cast _ inner => inner.valueExpr.usedNames
  | .guarded presence inner => presence.usedNames ++ inner.outerNames target
  | .mergeOrReplace _ _ replacement inner =>
    target.usedNames ++ inner.valueExpr.usedNames ++ (replacementExpr replacement inner).usedNames
  | .set _ inner | .mergeInto _ _ inner | .addEach _ _ _ inner =>
    target.usedNames ++ inner.valueExpr.usedNames

section Renamed
variable (name : String) (assignment : Assignment)

theorem withVariableName_own :
    assignment.withVariableName (assignment.variableName?.getD name) = assignment := by
  induction assignment with
  | guarded presence inner ih => rw [variableName?, withVariableName, ih]
  | source | cast | set | mergeOrReplace | mergeInto | addEach => rfl

@[simp] theorem label_withVariableName :
    (assignment.withVariableName name).label = assignment.label := by
  cases assignment <;> rfl

@[simp] theorem chain_labels_withVariableName :
    (assignment.withVariableName name).chain.map label = assignment.chain.map label := by
  induction assignment with
  | guarded presence inner ih =>
    simp only [withVariableName, chain, List.map_cons, label, ih]
  | source | cast | set | mergeOrReplace | mergeInto | addEach => rfl

@[simp] theorem innermost_withVariableName :
    (assignment.withVariableName name).innermost = assignment.innermost := by
  induction assignment with
  | guarded presence inner ih => exact ih
  | source | cast | set | mergeOrReplace | mergeInto | addEach => rfl

@[simp] theorem kind_withVariableName :
    (assignment.withVariableName name).kind = assignment.kind := by
  rw [kind, innermost_withVariableName, kind]

@[simp] theorem valueExpr_withVariableName :
    (assignment.withVariableName name).valueExpr = assignment.valueExpr := by
  induction assignment with
  | guarded presence inner ih => exact ih
  | source | cast | set | mergeOrReplace | mergeInto | addEach => rfl

@[simp] theorem importTypes_withVariableName :
    (assignment.withVariableName name).importTypes = assignment.importTypes := by
  induction assignment with
  | guarded presence inner ih => rw [withVariableName, importTypes, ih, importTypes]
  | source | cast | set | mergeOrReplace | mergeInto | addEach =>
    simp only [withVariableName, importTypes]

@[simp] theorem replacement_withVariableName :
    (assignment.withVariableName name).replacement? = assignment.replacement? := by
  induction assignment with
  | guarded presence inner ih => exact ih
  | source | cast | set | mergeOrReplace | mergeInto | addEach => rfl

@[simp] theorem outerNames_withVariableName (target : Expr) :
    (assignment.withVariableName name).outerNames target = assignment.outerNames target := by
  induction assignment with
  | guarded presence inner ih => rw [withVariableName, outerNames, ih, outerNames]
  | source | cast | set | mergeOrReplace | mergeInto | addEach => rfl

end Renamed

/-- A name that the code takes from nowhere else marks exactly what the writing node declares and
uses by itself: put another name in its place, and this is the code under the other name. -/
theorem renameAll_lower {target : Expr} {assignment : Assignment} {common : String}
    (fresh : common ∉ assignment.outerNames target) (name : String) :
    Stmt.renameAll common name ((assignment.withVariableName common).lower target) =
      (assignment.withVariableName name).lower target := by
  induction assignment with
  | guarded presence inner ih =>
    rw [outerNames, List.mem_append, not_or] at fresh
    simp [withVariableName, lower, Expr.rename_of_not_mem fresh.1, ih fresh.2]
  | source value => simp [withVariableName, lower, Expr.rename_of_not_mem fresh]
  | cast type inner => simp [withVariableName, lower, Expr.rename_of_not_mem fresh]
  | set setter inner =>
    rw [outerNames, List.mem_append, not_or] at fresh
    simp [withVariableName, lower, Expr.rename_of_not_mem fresh.1, Expr.rename_of_not_mem fresh.2]
  | mergeOrReplace read setter replacement inner =>
    rw [outerNames, List.mem_append, List.mem_append, not_or, not_or] at fresh
    obtain ⟨⟨inTarget, inValue⟩, inReplacement⟩ := fresh
    simp [withVariableName, lower, read.rename_declaration inTarget, read.rename_localVar,
      read.rename_clear, read.rename_fill inValue, Expr.rename_of_not_mem inTarget,
      Expr.rename_of_not_mem inReplacement]
  | mergeInto read clears inner =>
    rw [outerNames, List.mem_append, not_or] at fresh
    cases clears <;>
      simp [withVariableName, lower, read.rename_declaration fresh.1, read.rename_localVar,
        read.rename_clear, read.rename_fill fresh.2]
  | addEach adder element loopName inner =>
    rw [outerNames, List.mem_append, not_or] at fresh
    simp [withVariableName, lower, Expr.rename_of_not_mem fresh.1, Expr.rename_of_not_mem fresh.2]

end Assignment

end PropertyAssignment
