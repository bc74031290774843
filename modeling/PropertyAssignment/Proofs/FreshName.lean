import Mathlib.Tactic.ByContra
import PropertyAssignment.Variable.Scope

/-!
# New variable names

The name that a scope hands out is neither in use nor reserved, and it is in use afterwards. The
numbered names made from one base differ from each other, and none but the base itself can be
reserved, because no reserved word ends in a digit. So among the first `n + 2` of them one is free
when `n` names are in use, which is all that the bounded search relies on.
-/

namespace PropertyAssignment

theorem isReservedWord_append_digits (base : String) {digits : List Char}
    (nonempty : digits ≠ []) (areDigits : ∀ c ∈ digits, c.isDigit) :
    isReservedWord (base ++ String.ofList digits) = false := by
  have noneEndsInDigit :
      (reservedWords.all fun word => !word.toList.getLast?.any Char.isDigit) = true := by
    decide
  have lastDigit : (digits.getLast nonempty).isDigit = true :=
    areDigits _ (List.getLast_mem nonempty)
  rw [Bool.eq_false_iff]
  intro reserved
  have noDigit := List.all_eq_true.mp noneEndsInDigit _ (List.contains_iff_mem.mp reserved)
  simp [List.getLast?_append, List.getLast?_eq_some_getLast nonempty, lastDigit] at noDigit

namespace Scope

theorem isReservedWord_numbered_succ (base : String) (n : Nat) :
    isReservedWord (numbered base (n + 1)) = false :=
  isReservedWord_append_digits base Nat.toDigits_ne_nil fun _ member =>
    Nat.isDigit_of_mem_toDigits (by decide) (by decide) member

theorem numbered_injective (base : String) {m n : Nat} (same : numbered base m = numbered base n) :
    m = n := by
  have digits : (numbered base m).toList = (numbered base n).toList := by rw [same]
  cases m with
  | zero =>
    cases n with
    | zero => rfl
    | succ n => simp [numbered, Nat.toDigits_ne_nil] at digits
  | succ m =>
    cases n with
    | zero => simp [numbered, Nat.toDigits_ne_nil] at digits
    | succ n =>
      simp only [numbered, String.toList_append, String.toList_ofList,
        List.append_cancel_left_eq] at digits
      calc
        m + 1 = Nat.ofDigitChars 10 (Nat.toDigits 10 (m + 1)) 0 :=
          Nat.ofDigitChars_ten_toDigits.symm
        _ = Nat.ofDigitChars 10 (Nat.toDigits 10 (n + 1)) 0 := by rw [digits]
        _ = n + 1 := Nat.ofDigitChars_ten_toDigits

theorem isTaken_eq_false_iff {scope : Scope} {name : String} :
    scope.isTaken name = false ↔ name ∉ scope.names ∧ isReservedWord name = false := by
  rw [isTaken, Bool.or_eq_false_iff, ← Bool.not_eq_true, contains_iff]

/-- Of any run of numbered names that is longer than the scope, one is not in use. -/
theorem exists_numbered_not_mem (scope : Scope) (base : String) (start : Nat) :
    ∃ n ≤ scope.size, numbered base (start + n) ∉ scope.names := by
  by_contra allUsed
  let candidates := (List.range (scope.size + 1)).map fun n => numbered base (start + n)
  have distinct : candidates.Nodup := by
    refine List.Pairwise.map _ ?_ List.nodup_range
    intro m n different same
    exact different (Nat.add_left_cancel (numbered_injective base same))
  have inUse : candidates ⊆ scope.names := by
    intro name member
    obtain ⟨n, bound, rfl⟩ := List.mem_map.mp member
    by_contra free
    exact allUsed ⟨n, Nat.le_of_lt_succ (List.mem_range.mp bound), free⟩
  have length := distinct.length_le_of_subset inUse
  rw [List.length_map, List.length_range] at length
  exact absurd length (Nat.not_succ_le_self _)

theorem isTaken_firstFree (scope : Scope) (base : String) :
    scope.isTaken (numbered base (scope.firstFree base)) = false := by
  unfold firstFree
  cases search : (List.range (scope.size + 1)).find? fun n => !scope.isTaken (numbered base n) with
  | some n => simpa using List.find?_some search
  | none =>
    -- All candidates up to the size are taken, so the numbered one that is free is the last.
    rw [List.find?_eq_none] at search
    obtain ⟨n, bound, free⟩ := exists_numbered_not_mem scope base 1
    rw [Nat.add_comm] at free
    have notTaken : scope.isTaken (numbered base (n + 1)) = false :=
      isTaken_eq_false_iff.mpr ⟨free, isReservedWord_numbered_succ base n⟩
    have last : n = scope.size := by
      by_contra different
      have inRange : n + 1 ∈ List.range (scope.size + 1) := List.mem_range.mpr (by omega)
      exact search _ inRange (by rw [notTaken]; rfl)
    rw [last] at notTaken
    exact notTaken

theorem allocate_not_isTaken (scope : Scope) (base : String) :
    scope.isTaken (scope.allocate base).1 = false :=
  isTaken_firstFree scope _

theorem names_allocate (scope : Scope) (base : String) :
    (scope.allocate base).2.names = (scope.allocate base).1 :: scope.names := by
  have free := (isTaken_eq_false_iff.mp (allocate_not_isTaken scope base)).1
  exact (names_insert scope _).trans (if_neg free)

theorem allocateFor_not_isTaken (scope : Scope) (type : JavaType) :
    scope.isTaken (scope.allocateFor type).1 = false :=
  allocate_not_isTaken scope _

theorem allocateFor_not_mem (scope : Scope) (type : JavaType) :
    (scope.allocateFor type).1 ∉ scope.names :=
  (isTaken_eq_false_iff.mp (scope.allocateFor_not_isTaken type)).1

theorem names_allocateFor (scope : Scope) (type : JavaType) :
    (scope.allocateFor type).2.names = (scope.allocateFor type).1 :: scope.names :=
  names_allocate scope _

end Scope

end PropertyAssignment
