import PropertyAssignment.Name

/-!
# Sets of imports

A set of names to import, at most one per identity. The first name inserted with an identity stays;
a later one with the same dotted form changes nothing, even if it is split differently into
package and simple name. The stored order is the order of insertion and shows nowhere: output goes
through `sorted`.
-/

namespace PropertyAssignment

/-- Names to import, no two of the same identity. -/
structure ImportSet where
  names : List QualifiedName
  distinct : (names.map QualifiedName.identity).Nodup

namespace ImportSet

def empty : ImportSet :=
  ⟨[], List.nodup_nil⟩

instance : Inhabited ImportSet := ⟨empty⟩

def identities (set : ImportSet) : List Identity :=
  set.names.map QualifiedName.identity

def size (set : ImportSet) : Nat :=
  set.names.length

def isEmpty (set : ImportSet) : Bool :=
  set.names.isEmpty

def containsIdentity (set : ImportSet) (identity : Identity) : Bool :=
  set.identities.contains identity

def contains (set : ImportSet) (name : QualifiedName) : Bool :=
  set.containsIdentity name.identity

/-- Whether the set has the identity of the text exactly as it stands. Empty segments are not
dropped from the text first. -/
def containsText (set : ImportSet) (text : String) : Bool :=
  set.containsIdentity (Identity.ofName text)

def find? (set : ImportSet) (identity : Identity) : Option QualifiedName :=
  set.names.find? fun name => name.identity == identity

/-- Add a name unless its identity is already there. -/
def insert (set : ImportSet) (name : QualifiedName) : ImportSet :=
  if known : set.contains name then set
  else {
    names := set.names ++ [name]
    distinct := by
      simp only [contains, containsIdentity, identities, List.contains_iff_mem] at known
      rw [List.map_append, List.map_singleton, List.nodup_append]
      refine ⟨set.distinct, by simp, ?_⟩
      intro a inSet b isNew same
      rw [List.mem_singleton] at isNew
      exact known (isNew ▸ same ▸ inSet) }

/-- Whether the identity was already there, and the set with the name added. -/
def containsThenInsert (set : ImportSet) (name : QualifiedName) : Bool × ImportSet :=
  (set.contains name, set.insert name)

def insertMany (set : ImportSet) (names : List QualifiedName) : ImportSet :=
  names.foldl insert set

def ofList (names : List QualifiedName) : ImportSet :=
  empty.insertMany names

/-- All imports of both sets; where both have an identity, the name of the first set stays. -/
def union (set other : ImportSet) : ImportSet :=
  set.insertMany other.names

/-- Whether every identity of the other set is in this one. -/
def isSuperset (set other : ImportSet) : Bool :=
  other.names.all set.contains

/-- Whether two sets have the same identities: one includes the other and they are equally large. -/
def same (set other : ImportSet) : Bool :=
  set.size == other.size && set.isSuperset other

def sorted (set : ImportSet) : List QualifiedName :=
  QualifiedName.sorted set.names

theorem contains_iff {set : ImportSet} {name : QualifiedName} :
    set.contains name = true ↔ name.identity ∈ set.identities := by
  simp [contains, containsIdentity]

theorem identities_insert (set : ImportSet) (name : QualifiedName) :
    (set.insert name).identities =
      if name.identity ∈ set.identities then set.identities
      else set.identities ++ [name.identity] := by
  unfold insert
  by_cases known : set.contains name
  · rw [dif_pos known, if_pos (contains_iff.mp known)]
  · rw [dif_neg known, if_neg fun member => known (contains_iff.mpr member)]
    simp [identities]

theorem mem_identities_insert {set : ImportSet} {name : QualifiedName} {identity : Identity} :
    identity ∈ (set.insert name).identities ↔
      identity = name.identity ∨ identity ∈ set.identities := by
  rw [identities_insert]
  split
  next known => exact ⟨.inr, fun member => member.elim (fun same => same ▸ known) id⟩
  next => rw [List.mem_append, List.mem_singleton, or_comm]

theorem mem_identities_insertMany {set : ImportSet} {names : List QualifiedName}
    {identity : Identity} :
    identity ∈ (set.insertMany names).identities ↔
      identity ∈ set.identities ∨ identity ∈ names.map QualifiedName.identity := by
  unfold insertMany
  induction names generalizing set with
  | nil => simp
  | cons name rest ih =>
    rw [List.foldl_cons, ih, mem_identities_insert, List.map_cons, List.mem_cons]
    constructor
    · rintro ((isNew | old) | later)
      · exact .inr (.inl isNew)
      · exact .inl old
      · exact .inr (.inr later)
    · rintro (old | isNew | later)
      · exact .inl (.inr old)
      · exact .inl (.inl isNew)
      · exact .inr later

theorem mem_identities_union {set other : ImportSet} {identity : Identity} :
    identity ∈ (set.union other).identities ↔
      identity ∈ set.identities ∨ identity ∈ other.identities :=
  mem_identities_insertMany

theorem isSuperset_iff {set other : ImportSet} :
    set.isSuperset other = true ↔ ∀ identity ∈ other.identities, identity ∈ set.identities := by
  simp [isSuperset, identities, contains, containsIdentity]

end ImportSet

end PropertyAssignment
