import Mathlib.Data.Nat.Nth
import PropertyAssignment.Proofs.FreshName

/-!
# Which name is allocated

An allocation gives the first of the names `base`, `base1`, `base2`, ... that is neither in use nor
reserved. Counting up from 1 in 64 bits finds it: only names in use are passed over on the way, so
the count ends at most one above the size of the scope. The names of the sequence differ, so an
allocation takes nothing from the sequence but its first free name, and the allocations after it
give the other free names in order. The free numbers are told by `Nat.nth`.
-/

namespace PropertyAssignment

/-- The base that names are made from: the fallback name stands for an empty one. -/
def BaseName.orFallback (base : String) : String :=
  if base.isEmpty then fallback else base

namespace Scope

/-- The name made from the base with this number is neither in use nor reserved. -/
def IsFree (scope : Scope) (base : String) (number : Nat) : Prop :=
  numbered base number ∉ scope.names ∧ isReservedWord (numbered base number) = false

/-- The number makes the first free name of the sequence. -/
structure IsFirstFree (scope : Scope) (base : String) (number : Nat) : Prop where
  free : scope.IsFree base number
  first : ∀ earlier < number, ¬ scope.IsFree base earlier

/-- Counting up in 64 bits from one number ends at another: it passes over names that are taken,
and does not overflow. -/
inductive CountsTo (scope : Scope) (base : String) : UInt64 → UInt64 → Prop
  | found (counter : UInt64) (free : scope.isTaken (numbered base counter.toNat) = false) :
    CountsTo scope base counter counter
  | next (counter last : UInt64) (taken : scope.isTaken (numbered base counter.toNat) = true)
    (fits : counter.toNat + 1 < UInt64.size) (rest : CountsTo scope base (counter + 1) last) :
    CountsTo scope base counter last

variable (scope : Scope) (base : String)

theorem isFree_iff {scope : Scope} {base : String} {number : Nat} :
    scope.IsFree base number ↔ scope.isTaken (numbered base number) = false :=
  isTaken_eq_false_iff.symm

/-- A number behind the first is taken only if its name is in use, because it is not reserved. -/
theorem isFree_succ_iff {scope : Scope} {base : String} {number : Nat} :
    scope.IsFree base (number + 1) ↔ numbered base (number + 1) ∉ scope.names :=
  and_iff_left (isReservedWord_numbered_succ base number)

/-! ### The search -/

theorem isFirstFree_firstFree : scope.IsFirstFree base (scope.firstFree base) where
  free := isFree_iff.mpr (isTaken_firstFree scope base)
  first := by
    intro earlier before isFree
    have notTaken := isFree_iff.mp isFree
    unfold firstFree at before
    cases search :
        (List.range (scope.size + 1)).find? fun n => !scope.isTaken (numbered base n) with
    | some number =>
      rw [search, Option.getD_some] at before
      have passed := (List.find?_range_eq_some.mp search).2.2 earlier before
      simp [notTaken] at passed
    | none =>
      rw [search, Option.getD_none] at before
      have passed := List.find?_eq_none.mp search earlier (List.mem_range.mpr before)
      simp [notTaken] at passed

theorem IsFirstFree.le {scope : Scope} {base : String} {number other : Nat}
    (isFirst : scope.IsFirstFree base number) (isFree : scope.IsFree base other) :
    number ≤ other := by
  by_contra before
  exact isFirst.first other (Nat.lt_of_not_le before) isFree

/-- The free name with the lowest number comes at most one behind as many names as are in use. -/
theorem firstFree_le : scope.firstFree base ≤ scope.size + 1 := by
  obtain ⟨n, bound, notUsed⟩ := exists_numbered_not_mem scope base 1
  rw [Nat.add_comm] at notUsed
  have isFree : scope.IsFree base (n + 1) := isFree_succ_iff.mpr notUsed
  have atMost := (isFirstFree_firstFree scope base).le isFree
  omega

theorem firstFree_le_of_mem (used : base ∈ scope.names) : scope.firstFree base ≤ scope.size := by
  obtain ⟨n, bound, notUsed⟩ := exists_numbered_not_mem scope base 0
  rw [Nat.zero_add] at notUsed
  have isFree : scope.IsFree base n := by
    cases n with
    | zero => exact absurd used notUsed
    | succ n => exact isFree_succ_iff.mpr notUsed
  have atMost := (isFirstFree_firstFree scope base).le isFree
  omega

/-- Counting comes from every number to a free one behind it if all between them are taken. -/
theorem countsTo_of_taken {scope : Scope} {base : String} {counter last : UInt64}
    (before : counter.toNat ≤ last.toNat)
    (taken : ∀ number, counter.toNat ≤ number → number < last.toNat →
      scope.isTaken (numbered base number) = true)
    (free : scope.isTaken (numbered base last.toNat) = false) :
    scope.CountsTo base counter last := by
  obtain ⟨gap, isGap⟩ := Nat.exists_eq_add_of_le before
  induction gap generalizing counter with
  | zero =>
    have same : last = counter := UInt64.toNat_inj.mp isGap
    rw [same] at free ⊢
    exact .found counter free
  | succ gap ih =>
    have isBefore : counter.toNat < last.toNat := by omega
    have lastFits : last.toNat < UInt64.size := last.toNat_lt
    have fits : counter.toNat + 1 < UInt64.size := by omega
    have following : (counter + 1).toNat = counter.toNat + 1 := by
      rw [UInt64.toNat_add]
      exact Nat.mod_eq_of_lt fits
    apply CountsTo.next counter last (taken _ (Nat.le_refl _) isBefore) fits
    apply ih
    · omega
    · intro number from_ below
      exact taken number (by omega) below
    · omega

/-- A scope that 64 bits can count is counted through: where the base is taken, counting from 1 ends
at the number of the first free name. -/
theorem countsTo_firstFree (fits : scope.size < 2 ^ 64 - 1)
    (isNumbered : 0 < scope.firstFree base) :
    ∃ counter : UInt64,
      counter.toNat = scope.firstFree base ∧ scope.CountsTo base 1 counter := by
  have atMost := firstFree_le scope base
  have below : scope.firstFree base < 2 ^ 64 := by omega
  have representable : (UInt64.ofNat (scope.firstFree base)).toNat = scope.firstFree base :=
    UInt64.toNat_ofNat_of_lt' below
  refine ⟨UInt64.ofNat (scope.firstFree base), representable, ?_⟩
  apply countsTo_of_taken
  · rw [representable]
    exact isNumbered
  · intro number _ before
    rw [representable] at before
    have notFree := (isFirstFree_firstFree scope base).first number before
    rw [isFree_iff, Bool.not_eq_false] at notFree
    exact notFree
  · rw [representable]
    exact isTaken_firstFree scope base

/-! ### One allocation after the other -/

theorem allocate_eq :
    scope.allocate base =
      (numbered (BaseName.orFallback base) (scope.firstFree (BaseName.orFallback base)),
        (scope.allocate base).2) :=
  rfl

theorem infinite_isFree : {number | scope.IsFree base number}.Infinite := by
  apply Set.infinite_of_forall_exists_gt
  intro bound
  obtain ⟨n, _, notUsed⟩ := exists_numbered_not_mem scope base (bound + 1)
  have isFree : scope.IsFree base (bound + n + 1) := by
    rw [isFree_succ_iff, Nat.add_right_comm]
    exact notUsed
  exact ⟨bound + n + 1, isFree, by omega⟩

theorem nth_isFree_zero : Nat.nth (scope.IsFree base) 0 = scope.firstFree base := by
  have isFirst := isFirstFree_firstFree scope base
  have least : IsLeast {number | scope.IsFree base number} (scope.firstFree base) :=
    ⟨isFirst.free, fun _ isFree => isFirst.le isFree⟩
  rw [Nat.nth_zero]
  exact least.csInf_eq

theorem isFree_allocate_iff {number : Nat} :
    (scope.allocate base).2.IsFree (BaseName.orFallback base) number ↔
      scope.IsFree (BaseName.orFallback base) number ∧
        number ≠ scope.firstFree (BaseName.orFallback base) := by
  have sameName : numbered (BaseName.orFallback base) number = (scope.allocate base).1 ↔
      number = scope.firstFree (BaseName.orFallback base) :=
    ⟨fun same => numbered_injective _ same, fun same => same ▸ rfl⟩
  rw [IsFree, IsFree, names_allocate, List.mem_cons, sameName, not_or]
  tauto

theorem nth_of_ne_first {p : ℕ → Prop} (infinite : {n | p n}.Infinite) (i : ℕ) :
    Nat.nth (fun n => p n ∧ n ≠ Nat.nth p 0) i = Nat.nth p (i + 1) := by
  have increasing : StrictMono (Nat.nth p) := Nat.nth_strictMono infinite
  have shifted : StrictMono fun i => Nat.nth p (i + 1) := fun _ _ less =>
    increasing (Nat.succ_lt_succ less)
  have isMember (k : ℕ) : p (Nat.nth p (k + 1)) ∧ Nat.nth p (k + 1) ≠ Nat.nth p 0 :=
    ⟨Nat.nth_mem_of_infinite infinite _, (increasing (Nat.succ_pos k)).ne'⟩
  have reached (n : ℕ) (member : p n ∧ n ≠ Nat.nth p 0) :
      n ∈ Set.range fun i => Nat.nth p (i + 1) := by
    obtain ⟨k, isNth⟩ := Nat.subset_range_nth (show n ∈ {n | p n} from member.1)
    cases k with
    | zero => exact absurd isNth.symm member.2
    | succ k => exact ⟨k, isNth⟩
  have stillInfinite : {n | p n ∧ n ≠ Nat.nth p 0}.Infinite :=
    infinite.sdiff (Set.finite_singleton (Nat.nth p 0))
  have counted := Nat.nth_comp_of_strictMono (n := i) shifted reached
    (fun finite => absurd finite stillInfinite)
  rw [Nat.nth_of_forall fun k _ => isMember k] at counted
  exact counted.symm

theorem nth_isFree_allocate (i : Nat) :
    Nat.nth ((scope.allocate base).2.IsFree (BaseName.orFallback base)) i =
      Nat.nth (scope.IsFree (BaseName.orFallback base)) (i + 1) := by
  rw [← nth_of_ne_first (infinite_isFree scope _), nth_isFree_zero]
  congr 1
  funext number
  exact propext (isFree_allocate_iff scope base)

theorem allocateMany_eq (count : Nat) :
    (scope.allocateMany base count).1 =
      (List.range count).map fun i =>
        numbered (BaseName.orFallback base)
          (Nat.nth (scope.IsFree (BaseName.orFallback base)) i) := by
  induction count generalizing scope with
  | zero => rfl
  | succ count ih =>
    have rest := ih (scope.allocate base).2
    simp only [nth_isFree_allocate] at rest
    rw [List.range_succ_eq_map, List.map_cons, List.map_map, nth_isFree_zero]
    exact congrArg (List.cons _) rest

theorem allocateMany_nodup (count : Nat) : (scope.allocateMany base count).1.Nodup := by
  rw [allocateMany_eq]
  apply List.Nodup.map _ List.nodup_range
  intro i j same
  exact Nat.nth_injective (infinite_isFree scope _) (numbered_injective _ same)

/-- An allocation gives the first name of the sequence that is neither in use nor reserved, and puts
just that name in use. Its number is at most one above the number of names in use, and not above
it if the base is one of them; counting from 1 in 64 bits comes to it, and no numbered name is
reserved. Further allocations from the base give the further free names in order. -/
theorem allocate_takesFirstFree :
    ∃ number after, scope.allocate base = (numbered (BaseName.orFallback base) number, after) ∧
      scope.IsFirstFree (BaseName.orFallback base) number ∧
      after.names = numbered (BaseName.orFallback base) number :: scope.names ∧
      number ≤ scope.size + 1 ∧
      (BaseName.orFallback base ∈ scope.names → number ≤ scope.size) ∧
      (scope.size < 2 ^ 64 - 1 → 0 < number → ∃ counter : UInt64,
        counter.toNat = number ∧ scope.CountsTo (BaseName.orFallback base) 1 counter) ∧
      (∀ suffix, isReservedWord (numbered (BaseName.orFallback base) (suffix + 1)) = false) ∧
      {free | scope.IsFree (BaseName.orFallback base) free}.Infinite ∧
      ∀ count, (scope.allocateMany base count).1.Nodup ∧
        (scope.allocateMany base count).1 = (List.range count).map fun i =>
          numbered (BaseName.orFallback base)
            (Nat.nth (scope.IsFree (BaseName.orFallback base)) i) := by
  refine ⟨_, _, allocate_eq scope base, isFirstFree_firstFree scope _, names_allocate scope base,
    firstFree_le scope _, firstFree_le_of_mem scope _, countsTo_firstFree scope _,
    isReservedWord_numbered_succ _, infinite_isFree scope _, ?_⟩
  intro count
  exact ⟨allocateMany_nodup scope base count, allocateMany_eq scope base count⟩

/-- With a gap in the numbers in use, the gap is filled before the count goes on behind it. -/
theorem allocate_takesFirstFree_gap :
    let scope := Scope.ofList ["set", "set1", "set3"]
    "set" ∈ scope.names ∧ scope.size < 2 ^ 64 - 1 ∧ (scope.allocate "set").1 = "set2" ∧
      (∃ counter : UInt64, counter.toNat = 2 ∧ scope.CountsTo "set" 1 counter) ∧
      (scope.allocateMany "set" 2).1 = ["set2", "set4"] ∧ (scope.allocateMany "set" 2).1.Nodup := by
  intro scope
  have used : "set" ∈ scope.names := by decide
  have fits : scope.size < 2 ^ 64 - 1 := by decide
  obtain ⟨number, after, gives, _, _, _, _, counts, _, _, further⟩ :=
    allocate_takesFirstFree scope "set"
  have second : numbered "set" number = numbered "set" 2 := (congrArg Prod.fst gives).symm
  obtain rfl := numbered_injective "set" second
  exact ⟨used, fits, rfl, counts fits (by decide), by decide, (further 2).1⟩

end Scope

end PropertyAssignment
