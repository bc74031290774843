import PropertyAssignment.JavaType.Basic
import PropertyAssignment.Variable.BaseName
import PropertyAssignment.Variable.ReservedWord

/-!
# Variable scopes

A scope holds the variable names in use within one generated method. A new name is the first one
of the sequence `base`, `base1`, `base2`, ... that is neither in use nor reserved. With `n` names in
use the number appended is at most `n + 1`, because the numbered names differ from each other
and none of them is reserved.
-/

namespace PropertyAssignment

/-- The variable names in use, each once. -/
structure Scope where
  names : List String
  distinct : names.Nodup

namespace Scope

def empty : Scope :=
  ⟨[], List.nodup_nil⟩

instance : Inhabited Scope := ⟨empty⟩

def size (scope : Scope) : Nat :=
  scope.names.length

def isEmpty (scope : Scope) : Bool :=
  scope.names.isEmpty

def contains (scope : Scope) (name : String) : Bool :=
  scope.names.contains name

def isTaken (scope : Scope) (name : String) : Bool :=
  scope.contains name || isReservedWord name

def insert (scope : Scope) (name : String) : Scope :=
  if used : scope.contains name then scope
  else ⟨name :: scope.names, List.nodup_cons.mpr
    ⟨fun member => used (List.contains_iff_mem.mpr member), scope.distinct⟩⟩

def ofList (names : List String) : Scope :=
  names.foldl insert empty

/-- Put a name in use; tells whether it was new. A reserved word can be put in use too. -/
def reserve (scope : Scope) (name : String) : Bool × Scope :=
  (!scope.contains name, scope.insert name)

/-- The names that can be made from a base: the base itself, then the base with 1, 2, ...
appended. -/
def numbered (base : String) : Nat → String
  | 0 => base
  | n + 1 => base ++ String.ofList (Nat.toDigits 10 (n + 1))

/-- The place of the first name made from the base that is not taken. -/
def firstFree (scope : Scope) (base : String) : Nat :=
  ((List.range (scope.size + 1)).find? fun n => !scope.isTaken (numbered base n)).getD
    (scope.size + 1)

/-- Put a new name made from the base in use; an empty base stands for the fallback name. -/
def allocate (scope : Scope) (base : String) : String × Scope :=
  let base := if base.isEmpty then BaseName.fallback else base
  let name := numbered base (scope.firstFree base)
  (name, scope.insert name)

def allocateFor (scope : Scope) (type : JavaType) : String × Scope :=
  scope.allocate (BaseName.ofTypeName type.name.simple)

def allocateMany (scope : Scope) (base : String) : Nat → List String × Scope
  | 0 => ([], scope)
  | n + 1 =>
    let (name, scope) := scope.allocate base
    let (names, scope) := scope.allocateMany base n
    (name :: names, scope)

theorem contains_iff {scope : Scope} {name : String} :
    scope.contains name = true ↔ name ∈ scope.names := by
  simp [contains]

theorem names_insert (scope : Scope) (name : String) :
    (scope.insert name).names =
      if name ∈ scope.names then scope.names else name :: scope.names := by
  unfold insert
  by_cases used : scope.contains name
  · rw [dif_pos used, if_pos (contains_iff.mp used)]
  · rw [dif_neg used, if_neg fun member => used (contains_iff.mpr member)]

theorem mem_names_insert {scope : Scope} {name other : String} :
    other ∈ (scope.insert name).names ↔ other = name ∨ other ∈ scope.names := by
  rw [names_insert]
  split
  next used => exact ⟨.inr, fun member => member.elim (fun same => same ▸ used) id⟩
  next => exact List.mem_cons

end Scope

end PropertyAssignment
