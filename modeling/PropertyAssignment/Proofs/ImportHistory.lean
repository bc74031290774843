import Mathlib.Data.Finset.Card
import Mathlib.Tactic.ByContra
import PropertyAssignment.ImportSet

/-!
# Import sets and the names put into them

Whatever operations made it, an import set is a finite map from identities to names: an identity
has the first name that was put in with it. Nothing else of the history is left, and nothing of the
order in which the table of another set is iterated when that is taken in. Membership,
inclusion, size and union are those of the finite set of identities. Two sets count as the same if
they are equally large and one includes the other, and this is the equality of these finite sets.
-/

namespace PropertyAssignment

namespace QualifiedName

def firstOf? (names : List QualifiedName) (identity : Identity) : Option QualifiedName :=
  names.find? fun name => name.identity == identity

/-- The order of names in output, strictly: by package, then by simple name. -/
def Precedes (a b : QualifiedName) : Prop :=
  a.package < b.package ∨ a.package = b.package ∧ a.simple < b.simple

section
variable {names : List QualifiedName} {name : QualifiedName} {identity : Identity}

theorem firstOf?_append (names others : List QualifiedName) (identity : Identity) :
    firstOf? (names ++ others) identity =
      (firstOf? names identity).or (firstOf? others identity) :=
  List.find?_append

theorem firstOf?_singleton (name : QualifiedName) (identity : Identity) :
    firstOf? [name] identity = if name.identity = identity then some name else none := by
  simp [firstOf?, List.find?_singleton]

theorem isSome_firstOf?_iff :
    (firstOf? names identity).isSome ↔ identity ∈ names.map QualifiedName.identity := by
  simp [firstOf?]

theorem firstOf?_eq_some_iff (distinct : (names.map QualifiedName.identity).Nodup) :
    firstOf? names identity = some name ↔ name ∈ names ∧ name.identity = identity := by
  constructor
  · intro found
    have matching := List.find?_some found
    exact ⟨List.mem_of_find?_eq_some found, by simpa using matching⟩
  · rintro ⟨member, rfl⟩
    have present : (firstOf? names name.identity).isSome :=
      isSome_firstOf?_iff.mpr (List.mem_map_of_mem member)
    obtain ⟨first, found⟩ := Option.isSome_iff_exists.mp present
    have matching : first.identity = name.identity := by simpa using List.find?_some found
    have firstMember : first ∈ names := List.mem_of_find?_eq_some found
    rw [found, List.inj_on_of_nodup_map distinct firstMember member matching]

theorem firstOf?_of_perm {order : List QualifiedName}
    (distinct : (names.map QualifiedName.identity).Nodup) (isOrder : order.Perm names)
    (identity : Identity) : firstOf? order identity = firstOf? names identity := by
  have distinctOrder : (order.map QualifiedName.identity).Nodup :=
    (isOrder.map QualifiedName.identity).nodup_iff.mpr distinct
  apply Option.ext
  intro name
  rw [firstOf?_eq_some_iff distinctOrder, firstOf?_eq_some_iff distinct, isOrder.mem_iff]

theorem precedes_of_le {a b : QualifiedName} (ordered : le a b = true) (different : a ≠ b) :
    a.Precedes b := by
  by_cases package : a.package < b.package
  · exact .inl package
  · obtain ⟨same, simple⟩ := (le_iff.mp ordered).resolve_left package
    refine .inr ⟨same, ?_⟩
    by_contra notBefore
    have reversed : le b a = true := le_iff.mpr (.inr ⟨same.symm, String.not_lt.mp notBefore⟩)
    exact different (le_antisymm ordered reversed)

end

end QualifiedName

namespace ImportSet

open QualifiedName

/-! ### Histories -/

/-- The sets that operations make, each with all names put in on the way, the oldest first. A set
that is taken in into another one is iterated in the order of its table, which may be any. -/
inductive BuiltFrom : List QualifiedName → ImportSet → Prop
  | empty : BuiltFrom [] .empty
  | insert {names : List QualifiedName} {set : ImportSet} (built : BuiltFrom names set)
      (name : QualifiedName) : BuiltFrom (names ++ [name]) (set.insert name)
  | extend {names otherNames order : List QualifiedName} {set other : ImportSet}
      (built : BuiltFrom names set) (builtOther : BuiltFrom otherNames other)
      (isOrder : order.Perm other.names) : BuiltFrom (names ++ otherNames) (set.insertMany order)
  | ofList (names : List QualifiedName) : BuiltFrom names (.ofList names)

section
variable {set other : ImportSet} {names : List QualifiedName}

theorem names_insert (set : ImportSet) (name : QualifiedName) :
    (set.insert name).names =
      if name.identity ∈ set.identities then set.names else set.names ++ [name] := by
  unfold insert
  by_cases known : set.contains name
  · rw [dif_pos known, if_pos (contains_iff.mp known)]
  · rw [dif_neg known, if_neg fun member => known (contains_iff.mpr member)]

/-- An insertion adds the name to an identity that had none, and changes nothing else. -/
theorem find?_insert (set : ImportSet) (name : QualifiedName) (identity : Identity) :
    (set.insert name).find? identity =
      (set.find? identity).or (firstOf? [name] identity) := by
  show firstOf? (set.insert name).names identity = (firstOf? set.names identity).or _
  rw [names_insert]
  split
  next known =>
    rw [firstOf?_singleton]
    split
    next same =>
      -- The name that is there already hides the new one.
      obtain ⟨first, found⟩ := Option.isSome_iff_exists.mp (isSome_firstOf?_iff.mpr known)
      rw [← same, found]
      rfl
    next => exact (Option.or_none).symm
  next => exact firstOf?_append ..

theorem find?_insertMany (set : ImportSet) (names : List QualifiedName) (identity : Identity) :
    (set.insertMany names).find? identity =
      (set.find? identity).or (firstOf? names identity) := by
  unfold insertMany
  induction names generalizing set with
  | nil => exact (Option.or_none).symm
  | cons name rest ih =>
    rw [List.foldl_cons, ih, find?_insert, Option.or_assoc, ← firstOf?_append]
    rfl

theorem find?_empty (identity : Identity) : empty.find? identity = none :=
  List.find?_nil

theorem find?_union (set other : ImportSet) (identity : Identity) :
    (set.union other).find? identity = (set.find? identity).or (other.find? identity) :=
  find?_insertMany set other.names identity

theorem isSome_find?_iff {identity : Identity} :
    (set.find? identity).isSome ↔ identity ∈ set.identities :=
  isSome_firstOf?_iff

theorem find?_insertMany_of_perm (set : ImportSet) {order : List QualifiedName}
    (isOrder : order.Perm other.names) (identity : Identity) :
    (set.insertMany order).find? identity = (set.union other).find? identity := by
  rw [find?_insertMany, firstOf?_of_perm other.distinct isOrder, union, find?_insertMany]

/-- However it was built, a set has for each identity the first name that was put in with it. -/
theorem BuiltFrom.find?_eq (built : BuiltFrom names set) (identity : Identity) :
    set.find? identity = firstOf? names identity := by
  induction built with
  | empty => rfl
  | insert _ name ih => rw [find?_insert, ih, firstOf?_append]
  | extend _ _ isOrder ih ihOther =>
    rw [find?_insertMany_of_perm _ isOrder, union, find?_insertMany, ih, firstOf?_append, ← ihOther]
    rfl
  | ofList names => exact find?_insertMany ..

/-! ### The finite set of identities -/

def identitySet (set : ImportSet) : Finset Identity :=
  set.identities.toFinset

theorem mem_identitySet {identity : Identity} :
    identity ∈ set.identitySet ↔ identity ∈ set.identities :=
  List.mem_toFinset

theorem size_eq_card (set : ImportSet) : set.size = set.identitySet.card := by
  rw [identitySet, identities, List.toFinset_card_of_nodup set.distinct, List.length_map, size]

theorem BuiltFrom.identitySet_eq (built : BuiltFrom names set) :
    set.identitySet = (names.map QualifiedName.identity).toFinset := by
  ext identity
  rw [mem_identitySet, List.mem_toFinset, ← isSome_firstOf?_iff, ← built.find?_eq]
  exact isSome_firstOf?_iff.symm

theorem contains_iff_mem {name : QualifiedName} :
    set.contains name = true ↔ name.identity ∈ set.identitySet :=
  contains_iff.trans mem_identitySet.symm

theorem isSuperset_iff_subset :
    set.isSuperset other = true ↔ other.identitySet ⊆ set.identitySet := by
  rw [isSuperset_iff]
  simp only [Finset.subset_iff, mem_identitySet]

theorem same_iff_identitySet_eq :
    set.same other = true ↔ set.identitySet = other.identitySet := by
  rw [same, Bool.and_eq_true, beq_iff_eq, isSuperset_iff_subset, size_eq_card, size_eq_card]
  constructor
  · rintro ⟨size, included⟩
    exact (Finset.eq_of_subset_of_card_le included size.le).symm
  · intro equal
    rw [equal]
    exact ⟨rfl, Finset.Subset.refl _⟩

theorem identitySet_union (set other : ImportSet) :
    (set.union other).identitySet = set.identitySet ∪ other.identitySet := by
  ext identity
  rw [Finset.mem_union, mem_identitySet, mem_identitySet, mem_identitySet, mem_identities_union]

/-! ### Sorted output -/

theorem nodup_names (set : ImportSet) : set.names.Nodup :=
  set.distinct.of_map

theorem perm_sorted (set : ImportSet) : set.sorted.Perm set.names :=
  List.mergeSort_perm set.names le

theorem pairwise_le_sorted (set : ImportSet) :
    set.sorted.Pairwise fun a b => le a b = true :=
  List.pairwise_mergeSort le_trans le_total set.names

/-- Names of different identities are different, so the order of output is strict. -/
theorem pairwise_precedes_sorted (set : ImportSet) : set.sorted.Pairwise Precedes := by
  have distinct : set.sorted.Nodup := set.perm_sorted.nodup_iff.mpr set.nodup_names
  exact set.pairwise_le_sorted.imp₂ (fun _ _ ordered different => precedes_of_le ordered different)
    distinct

end

/-- Import sets are finite maps from identities to names. However one was built, it has for each
identity the first name put in with it, and it is as large as there are identities. An insertion
says whether the identity was there, and then changes nothing. Membership and inclusion are those
of the identities. Being the same is equality of the identities, hence an equivalence. Union is
associative, commutative and idempotent up to that, and takes the other set's names whatever the
order in which it iterates them. The output lists each name of the set once, in strict order. -/
theorem importSet_isFiniteMap :
    (∀ names set, BuiltFrom names set →
      (∀ identity, set.find? identity = firstOf? names identity) ∧
      set.identitySet = (names.map QualifiedName.identity).toFinset ∧
      set.size = (names.map QualifiedName.identity).toFinset.card) ∧
    (∀ (set : ImportSet) (name : QualifiedName),
      ((set.containsThenInsert name).1 = false ↔ name.identity ∉ set.identitySet) ∧
      ∀ identity, (set.containsThenInsert name).2.find? identity =
        (set.find? identity).or (if name.identity = identity then some name else none)) ∧
    (∀ (set : ImportSet) (name : QualifiedName),
      set.contains name = true ↔ name.identity ∈ set.identitySet) ∧
    (∀ set other : ImportSet,
      set.isSuperset other = true ↔ other.identitySet ⊆ set.identitySet) ∧
    (∀ set other : ImportSet, set.same other = true ↔ set.identitySet = other.identitySet) ∧
    Equivalence (fun set other : ImportSet => set.same other = true) ∧
    (∀ a b c : ImportSet, ((a.union b).union c).same (a.union (b.union c)) = true) ∧
    (∀ a b : ImportSet, (a.union b).same (b.union a) = true) ∧
    (∀ a : ImportSet, (a.union a).same a = true) ∧
    (∀ (set other : ImportSet) (order : List QualifiedName), order.Perm other.names →
      ∀ identity, (set.insertMany order).find? identity = (set.union other).find? identity) ∧
    ∀ set : ImportSet, set.sorted.Perm set.names ∧ set.sorted.Pairwise Precedes := by
  refine ⟨?history, ?insert, fun _ _ => contains_iff_mem, fun _ _ => isSuperset_iff_subset,
    fun _ _ => same_iff_identitySet_eq, ?equivalence, ?assoc, ?comm, ?idem, ?order,
    fun set => ⟨set.perm_sorted, set.pairwise_precedes_sorted⟩⟩
  case history =>
    intro names set built
    refine ⟨built.find?_eq, built.identitySet_eq, ?_⟩
    rw [size_eq_card, built.identitySet_eq]
  case insert =>
    intro set name
    constructor
    · rw [containsThenInsert, ← Bool.not_eq_true, contains_iff_mem]
    · intro identity
      rw [containsThenInsert, find?_insert, firstOf?_singleton]
  case equivalence =>
    simp only [same_iff_identitySet_eq]
    exact ⟨fun _ => rfl, Eq.symm, Eq.trans⟩
  case assoc =>
    intro a b c
    rw [same_iff_identitySet_eq]
    simp only [identitySet_union, Finset.union_assoc]
  case comm =>
    intro a b
    rw [same_iff_identitySet_eq, identitySet_union, identitySet_union, Finset.union_comm]
  case idem =>
    intro a
    rw [same_iff_identitySet_eq, identitySet_union, Finset.union_self]
  case order =>
    intro set other order isOrder identity
    exact find?_insertMany_of_perm set isOrder identity

/-- The entry class of maps, first read from its dotted name and then given as a class inside the
class of maps, beside a set. The name that came first stays, though the other set is iterated from
its end. -/
theorem importSet_isFiniteMap_entries :
    let entry := QualifiedName.parse "java.util.Map.Entry"
    let nested : QualifiedName := ⟨["java", "util"], "Map.Entry"⟩
    let set := QualifiedName.parse "java.util.Set"
    let imports := (ofList [entry]).insertMany [set, nested]
    BuiltFrom [entry, nested, set] imports ∧ [set, nested].Perm (ofList [nested, set]).names ∧
      imports.find? nested.identity = some entry ∧ imports.size = 2 ∧
      ∀ identity, imports.find? identity =
        ((ofList [entry]).union (ofList [nested, set])).find? identity := by
  intro entry nested set imports
  have isOrder : [set, nested].Perm (ofList [nested, set]).names := by decide +kernel
  have built : BuiltFrom [entry, nested, set] imports :=
    .extend (.ofList [entry]) (.ofList [nested, set]) isOrder
  obtain ⟨history, _, _, _, _, _, _, _, _, order, _⟩ := importSet_isFiniteMap
  obtain ⟨first, _, size⟩ := history _ _ built
  refine ⟨built, isOrder, ?_, ?_, order _ _ _ isOrder⟩
  · rw [first]
    decide +kernel
  · rw [size]
    decide +kernel

end ImportSet

end PropertyAssignment
