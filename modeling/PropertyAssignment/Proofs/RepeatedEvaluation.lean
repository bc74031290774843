import PropertyAssignment.Proofs.EvaluationEffects

/-!
# Evaluating an expression again

What containers hold does not matter for whether an expression can be evaluated, nor for whether
it gives null. So if it could be evaluated once, it can be evaluated again later, as long as the
objects are as they were (`Expr.eval_again`). The two evaluations are followed side by side: values
of one form correspond, objects pairwise, and the properties of corresponding objects again.
-/

namespace PropertyAssignment

/-- The values are of one form. If they are objects, they correspond. -/
inductive RunValue.Alike (same : Nat → Nat → Prop) : RunValue → RunValue → Prop where
  | null : Alike same .null .null
  | bool (left right : Bool) : Alike same (.bool left) (.bool right)
  | text (left right : String) : Alike same (.text left) (.text right)
  | sequence (left right : Nat) : Alike same (.sequence left) (.sequence right)
  | map (left right : Nat) : Alike same (.map left) (.map right)
  | object {left right : Nat} (isSame : same left right) : Alike same (.object left) (.object right)

/-- Addresses of objects correspond one to one, and corresponding objects are alike: they have the
same adders, and their properties are alike. -/
structure Memory.Alike (same : Nat → Nat → Prop) (left right : Memory) : Prop where
  below : ∀ {a b}, same a b → a < left.next ∧ b < right.next
  unique : ∀ {a b c d}, same a b → same c d → (c = a ↔ d = b)
  adders : ∀ {a b}, same a b → (right.objects b).adders = (left.objects a).adders
  properties : ∀ {a b}, same a b → ∀ property,
    ((left.objects a).properties property).Alike same ((right.objects b).properties property)

namespace RunValue

variable {same larger : Nat → Nat → Prop} {left right : RunValue}

theorem Alike.mono (grown : ∀ a b, same a b → larger a b) (alike : left.Alike same right) :
    left.Alike larger right := by
  cases alike with
  | null => exact .null
  | bool => exact .bool ..
  | text => exact .text ..
  | sequence => exact .sequence ..
  | map => exact .map ..
  | object isSame => exact .object (grown _ _ isSame)

theorem Alike.eq_null_iff (alike : left.Alike same right) : right = .null ↔ left = .null := by
  cases alike <;> simp

theorem Alike.refl_of_isBelow {bound : Nat} (self : ∀ a, a < bound → same a a)
    (below : left.IsBelow bound) : left.Alike same left := by
  cases left with
  | null => exact .null
  | bool => exact .bool ..
  | text => exact .text ..
  | sequence => exact .sequence ..
  | map => exact .map ..
  | object address => exact .object (self address below)

end RunValue

namespace Memory

variable {same : Nat → Nat → Prop} {left right left' right' : Memory}

theorem Alike.of_objects_eq (alike : left.Alike same right)
    (leftObjects : left'.objects = left.objects) (leftNext : left.next ≤ left'.next)
    (rightObjects : right'.objects = right.objects) (rightNext : right.next ≤ right'.next) :
    left'.Alike same right' where
  below isSame :=
    ⟨Nat.lt_of_lt_of_le (alike.below isSame).1 leftNext,
      Nat.lt_of_lt_of_le (alike.below isSame).2 rightNext⟩
  unique := alike.unique
  adders isSame := by
    rw [leftObjects, rightObjects]
    exact alike.adders isSame
  properties isSame := by
    rw [leftObjects, rightObjects]
    exact alike.properties isSame

theorem Alike.setProperty (alike : left.Alike same right) {a b : Nat} (isSame : same a b)
    (property : String) {stored stored' : RunValue} (storedAlike : stored.Alike same stored') :
    (left.setProperty a property stored).Alike same (right.setProperty b property stored') where
  below := alike.below
  unique := alike.unique
  adders {c d} isOther := by
    have leftAdders := Slot.adders_store ⟨a, property⟩ stored left c
    have rightAdders := Slot.adders_store ⟨b, property⟩ stored' right d
    exact rightAdders.trans ((alike.adders isOther).trans leftAdders.symm)
  properties {c d} isOther other := by
    have leftValue := Slot.properties_store ⟨a, property⟩ stored left c other
    have rightValue := Slot.properties_store ⟨b, property⟩ stored' right d other
    simp only [Slot.store] at leftValue rightValue
    rw [leftValue, rightValue]
    -- Objects correspond one to one, so the value is stored on both sides here or on neither.
    have together : (c = a ∧ other = property) ↔ (d = b ∧ other = property) :=
      and_congr_left fun _ => alike.unique isSame isOther
    by_cases atSlot : c = a ∧ other = property
    · rw [if_pos atSlot, if_pos (together.mp atSlot)]
      exact storedAlike
    · rw [if_neg atSlot, if_neg (mt together.mpr atSlot)]
      exact alike.properties isOther other

theorem Alike.newObject (alike : left.Alike same right) :
    left.newObject.2.Alike (fun a b => same a b ∨ (a = left.next ∧ b = right.next))
      right.newObject.2 := by
  have leftOld {a b : Nat} (isSame : same a b) :=
    left.keeps_newObject.objects a (alike.below isSame).1
  have rightOld {a b : Nat} (isSame : same a b) :=
    right.keeps_newObject.objects b (alike.below isSame).2
  have leftNew : left.newObject.2.objects left.next = ⟨fun _ => .null, fun _ => none⟩ := if_pos rfl
  have rightNew : right.newObject.2.objects right.next = ⟨fun _ => .null, fun _ => none⟩ :=
    if_pos rfl
  constructor
  · rintro a b (isSame | ⟨rfl, rfl⟩)
    · exact ⟨Nat.lt_succ_of_lt (alike.below isSame).1, Nat.lt_succ_of_lt (alike.below isSame).2⟩
    · exact ⟨Nat.lt_succ_self _, Nat.lt_succ_self _⟩
  · rintro a b c d (isSame | ⟨rfl, rfl⟩) (isOther | ⟨rfl, rfl⟩)
    · exact alike.unique isSame isOther
    · have below := alike.below isSame
      omega
    · have below := alike.below isOther
      omega
    · exact iff_of_true rfl rfl
  · rintro a b (isSame | ⟨rfl, rfl⟩)
    · rw [leftOld isSame, rightOld isSame]
      exact alike.adders isSame
    · rw [leftNew, rightNew]
  · rintro a b (isSame | ⟨rfl, rfl⟩) property
    · rw [leftOld isSame, rightOld isSame]
      exact (alike.properties isSame property).mono fun _ _ => .inl
    · rw [leftNew, rightNew]
      exact .null

end Memory

/-! ### Evaluation side by side -/

section
variable {same : Nat → Nat → Prop} {left right after : Memory} {target target' result : RunValue}
  {method : String} {arguments arguments' : List RunValue}

/-- A call on alike values in alike memories succeeds if the other one does. -/
theorem callMethod_alike (alike : left.Alike same right) (targets : target.Alike same target')
    (given : List.Forall₂ (RunValue.Alike same) arguments arguments')
    (succeeds : callMethod target method arguments left = .ok (result, after)) :
    ∃ result' after', callMethod target' method arguments' right = .ok (result', after') ∧
      after.Alike same after' ∧ result.Alike same result' := by
  cases targets with
  | null | bool | text => cases succeeds
  | sequence a b =>
    simp only [callMethod, callSequence] at succeeds ⊢
    split at succeeds
    next =>
      cases succeeds
      cases given
      exact ⟨_, _, rfl, alike.of_objects_eq rfl (Nat.le_refl _) rfl (Nat.le_refl _), .null⟩
    next => cases succeeds
    next other =>
      cases succeeds
      obtain _ | ⟨⟨⟩, ⟨⟩⟩ := given
      exact ⟨_, _, rfl, alike.of_objects_eq rfl (Nat.le_refl _) rfl (Nat.le_refl _), .null⟩
    next => cases succeeds
  | map a b =>
    simp only [callMethod, callMap] at succeeds ⊢
    split at succeeds
    next =>
      cases succeeds
      cases given
      exact ⟨_, _, rfl, alike.of_objects_eq rfl (Nat.le_refl _) rfl (Nat.le_refl _), .null⟩
    next => cases succeeds
    next other =>
      cases succeeds
      obtain _ | ⟨⟨⟩, ⟨⟩⟩ := given
      exact ⟨_, _, rfl, alike.of_objects_eq rfl (Nat.le_refl _) rfl (Nat.le_refl _), .null⟩
    next => cases succeeds
  | @object a b isSame =>
    simp only [callMethod, callObject, alike.adders isSame] at succeeds ⊢
    cases isAdder : (left.objects a).adders method with
    | some property =>
      simp only [isAdder] at succeeds ⊢
      have held := alike.properties isSame property
      split at succeeds
      next => cases succeeds
      next nonNull =>
        cases succeeds
        rw [if_neg (mt held.eq_null_iff.mp nonNull)]
        obtain ⟨leftObjects, leftNext⟩ :=
          objects_next_appendTexts ((left.objects a).properties property) arguments left
        obtain ⟨rightObjects, rightNext⟩ :=
          objects_next_appendTexts ((right.objects b).properties property) arguments' right
        exact ⟨_, _, rfl, alike.of_objects_eq leftObjects (Nat.le_of_eq leftNext.symm)
          rightObjects (Nat.le_of_eq rightNext.symm), .null⟩
    | none =>
      simp only [isAdder] at succeeds ⊢
      split at succeeds
      next property isGetter =>
        cases succeeds
        cases given
        rw [isGetter]
        exact ⟨_, _, rfl, alike, alike.properties isSame property⟩
      next stored property isSetter =>
        cases succeeds
        obtain _ | ⟨storedAlike, ⟨⟩⟩ := given
        rw [isSetter]
        exact ⟨_, _, rfl, alike.setProperty isSame property storedAlike, .null⟩
      next => cases succeeds

theorem construct_alike {type : JavaType} {value value' : RunValue} (alike : left.Alike same right)
    (values : value.Alike same value')
    (succeeds : construct type value left = .ok (result, after)) :
    ∃ result' after', construct type value' right = .ok (result', after') ∧
      after.Alike same after' ∧ result.Alike same result' := by
  cases values with
  | null => cases succeeds
  | bool | text =>
    cases succeeds
    exact ⟨_, _, rfl, alike, by constructor⟩
  | sequence | map =>
    cases succeeds
    exact ⟨_, _, rfl, alike.of_objects_eq rfl (Nat.le_succ _) rfl (Nat.le_succ _), by constructor⟩
  | object isSame =>
    cases succeeds
    exact ⟨_, _, rfl, alike, .object isSame⟩

theorem constructEmpty_alike (type : JavaType) (alike : left.Alike same right) :
    ∃ larger : Nat → Nat → Prop, (∀ a b, same a b → larger a b) ∧
      (constructEmpty type left).2.Alike larger (constructEmpty type right).2 ∧
      (constructEmpty type left).1.Alike larger (constructEmpty type right).1 := by
  unfold constructEmpty
  cases type.container with
  | none => exact ⟨_, fun _ _ => .inl, alike.newObject, .object (.inr ⟨rfl, rfl⟩)⟩
  | some kind =>
    refine ⟨same, fun _ _ isSame => isSame, ?_⟩
    cases kind with
    | sequence =>
      exact ⟨alike.of_objects_eq rfl (Nat.le_succ _) rfl (Nat.le_succ _), .sequence ..⟩
    | map => exact ⟨alike.of_objects_eq rfl (Nat.le_succ _) rfl (Nat.le_succ _), .map ..⟩

end

/-- What is bound is like itself. -/
structure Bindings.AreAlike (same : Nat → Nat → Prop) (bindings : Bindings) : Prop where
  var : ∀ name value, bindings.var name = some value → value.Alike same value
  raw : ∀ text value, bindings.raw text = some value → value.Alike same value

theorem Bindings.AreAlike.mono {same larger : Nat → Nat → Prop} {bindings : Bindings}
    (grown : ∀ a b, same a b → larger a b) (bound : bindings.AreAlike same) :
    bindings.AreAlike larger where
  var name value isBound := (bound.var name value isBound).mono grown
  raw text value isBound := (bound.raw text value isBound).mono grown

namespace Expr

variable {same : Nat → Nat → Prop} {bindings : Bindings} {left right after : Memory}

/-- If evaluation succeeds in the one memory, it succeeds in the other one, and what comes out is
alike. New objects may correspond besides those that did. -/
def EvaluatesAlike (bindings : Bindings) (expr : Expr) : Prop :=
  ∀ {same left right value after}, bindings.AreAlike same → left.Alike same right →
    expr.eval bindings left = .ok (value, after) →
      ∃ (larger : Nat → Nat → Prop) (value' : RunValue) (after' : Memory),
        (∀ a b, same a b → larger a b) ∧ expr.eval bindings right = .ok (value', after') ∧
        after.Alike larger after' ∧ value.Alike larger value'

theorem evalAll_alike {exprs : List Expr} {values : List RunValue}
    (each : ∀ expr ∈ exprs, expr.EvaluatesAlike bindings)
    (bound : bindings.AreAlike same) (alike : left.Alike same right)
    (evaluates : evalAll bindings exprs left = .ok (values, after)) :
    ∃ (larger : Nat → Nat → Prop) (values' : List RunValue) (after' : Memory),
      (∀ a b, same a b → larger a b) ∧ evalAll bindings exprs right = .ok (values', after') ∧
      after.Alike larger after' ∧ List.Forall₂ (RunValue.Alike larger) values values' := by
  induction exprs generalizing same left right values with
  | nil =>
    cases evaluates
    exact ⟨same, [], right, fun _ _ isSame => isSame, rfl, alike, .nil⟩
  | cons expr rest ih =>
    obtain ⟨⟨value, middle⟩, first, evaluates⟩ := exists_of_bind_eq_ok evaluates
    obtain ⟨⟨others, last⟩, rest, evaluates⟩ := exists_of_bind_eq_ok evaluates
    cases evaluates
    obtain ⟨_, value', middle', grown, firstAgain, alike, valueAlike⟩ :=
      each expr List.mem_cons_self bound alike first
    obtain ⟨larger, others', last', grownAgain, restAgain, alike, othersAlike⟩ :=
      ih (fun expr member => each expr (List.mem_cons_of_mem _ member)) (bound.mono grown) alike
        rest
    refine ⟨larger, value' :: others', last', fun a b isSame => grownAgain a b (grown a b isSame),
      ?_, alike, .cons (valueAlike.mono grownAgain) othersAlike⟩
    simp only [evalAll, firstAgain, ok_bind, restAgain]
    rfl

theorem evaluatesAlike (bindings : Bindings) (expr : Expr) : expr.EvaluatesAlike bindings := by
  intro same left right value after bound alike evaluates
  -- The correspondence grows from part to part, as each of them may make objects.
  induction expr generalizing same left right value after with
  | var name =>
    simp only [Expr.eval] at evaluates ⊢
    split at evaluates
    next isBound =>
      cases evaluates
      exact ⟨same, _, right, fun _ _ isSame => isSame, rfl, alike, bound.var _ _ isBound⟩
    next => cases evaluates
  | null =>
    cases evaluates
    exact ⟨same, _, right, fun _ _ isSame => isSame, rfl, alike, .null⟩
  | raw text =>
    simp only [Expr.eval] at evaluates ⊢
    split at evaluates
    next isBound =>
      cases evaluates
      exact ⟨same, _, right, fun _ _ isSame => isSame, rfl, alike, bound.raw _ _ isBound⟩
    next => cases evaluates
  | invoke method arguments =>
    cases evaluates
  | call receiver method arguments receiverIh argumentsIh =>
    rw [Expr.eval] at evaluates
    obtain ⟨⟨target, middle⟩, receiverEval, evaluates⟩ := exists_of_bind_eq_ok evaluates
    obtain ⟨⟨values, last⟩, argumentsEval, called⟩ := exists_of_bind_eq_ok evaluates
    obtain ⟨_, target', middle', grown, receiverAgain, alike, targetAlike⟩ :=
      receiverIh bound alike receiverEval
    obtain ⟨larger, values', last', grownAgain, argumentsAgain, alike, valuesAlike⟩ :=
      evalAll_alike argumentsIh (bound.mono grown) alike argumentsEval
    obtain ⟨value', after', calledAgain, alike, valueAlike⟩ :=
      callMethod_alike alike (targetAlike.mono grownAgain) valuesAlike called
    refine ⟨larger, value', after', fun a b isSame => grownAgain a b (grown a b isSame), ?_, alike,
      valueAlike⟩
    simp only [Expr.eval, receiverAgain, ok_bind, argumentsAgain, calledAgain]
  | new type arguments argumentsIh =>
    rw [Expr.eval.eq_def] at evaluates ⊢
    cases arguments with
    | nil =>
      obtain ⟨larger, grown, memories, values⟩ := constructEmpty_alike type alike
      have constructed : constructEmpty type left = (value, after) := Except.ok.inj evaluates
      rw [constructed] at memories values
      exact ⟨larger, _, _, grown, rfl, memories, values⟩
    | cons source rest =>
      obtain ⟨⟨inner, middle⟩, sourceEval, constructed⟩ := exists_of_bind_eq_ok evaluates
      obtain ⟨larger, inner', middle', grown, sourceAgain, alike, innerAlike⟩ :=
        argumentsIh source List.mem_cons_self bound alike sourceEval
      obtain ⟨value', after', constructedAgain, alike, valueAlike⟩ :=
        construct_alike alike innerAlike constructed
      refine ⟨larger, value', after', grown, ?_, alike, valueAlike⟩
      exact (congrArg (· >>= _) sourceAgain).trans constructedAgain
  | cast type operand ih =>
    rw [Expr.eval] at evaluates ⊢
    exact ih bound alike evaluates
  | notNull operand ih =>
    rw [Expr.eval] at evaluates ⊢
    obtain ⟨⟨inner, middle⟩, operandEval, evaluates⟩ := exists_of_bind_eq_ok evaluates
    cases evaluates
    obtain ⟨larger, inner', middle', grown, operandAgain, alike, _⟩ := ih bound alike operandEval
    refine ⟨larger, .bool (inner' ≠ .null), middle', grown, ?_, alike, .bool ..⟩
    rw [operandAgain]
    rfl

/-- An expression that was evaluated with no effect on objects can be evaluated again when the
objects are as they were. It gives null then exactly if it did so before, and no adder is lost. -/
theorem eval_again {expr : Expr} {memory other : Memory} {value : RunValue}
    (wellFormed : RunState.WellFormed ⟨bindings, memory⟩)
    (evaluates : expr.eval bindings memory = .ok (value, after))
    (quiet : memory.KeepsObjects after) (unchanged : memory.KeepsObjects other) :
    ∃ again last, expr.eval bindings other = .ok (again, last) ∧ (again = .null ↔ value = .null) ∧
      ∀ address < memory.next, (last.objects address).adders = (memory.objects address).adders := by
  let same (a b : Nat) : Prop := a < memory.next ∧ b = a
  have self (a : Nat) (inUse : a < memory.next) : same a a := ⟨inUse, rfl⟩
  have bound : bindings.AreAlike same :=
    ⟨fun name value isBound => .refl_of_isBelow self (wellFormed.bound name value isBound),
      fun text value isBound => .refl_of_isBelow self (wellFormed.raw text value isBound)⟩
  have alike : memory.Alike same other := by
    constructor
    · rintro a _ ⟨inUse, rfl⟩
      exact ⟨inUse, Nat.lt_of_lt_of_le inUse unchanged.next⟩
    · rintro a _ c _ ⟨_, rfl⟩ ⟨_, rfl⟩
      exact Iff.rfl
    · rintro a b ⟨inUse, rfl⟩
      rw [unchanged.objects _ inUse]
    · rintro a b ⟨inUse, rfl⟩ property
      rw [unchanged.objects _ inUse]
      exact .refl_of_isBelow self (wellFormed.properties _ inUse property)
  obtain ⟨larger, again, last, grown, evaluatesAgain, alike, values⟩ :=
    evaluatesAlike bindings expr bound alike evaluates
  refine ⟨again, last, evaluatesAgain, values.eq_null_iff, fun address inUse => ?_⟩
  rw [alike.adders (grown _ _ (self address inUse)), quiet.objects address inUse]

end Expr

end PropertyAssignment
