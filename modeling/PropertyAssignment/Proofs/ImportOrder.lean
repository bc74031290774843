import PropertyAssignment.Proofs.ImportHistory

/-!
# The order of imports in output

The output of an import set is sorted by package and simple name, while sets are the same if they
have the same identities. A dotted name that is split in two ways has one identity and two places in
the order, and the split that was put in first stays. So the output of sets that are the same
agrees exactly if the names of each identity are shown alike and stand in the same order in both. It
does so, whatever was put in and in which order, if names of one identity are always one name.
-/

namespace PropertyAssignment

namespace ImportSet

open QualifiedName

theorem getElem_eq_of_map_eq {α : Type} {names others : List QualifiedName}
    {view : QualifiedName → α} (same : names.map view = others.map view) {i : Nat}
    (hi : i < names.length) (hi' : i < others.length) : view names[i] = view others[i] := by
  have atIndex := congrArg (fun views => views[i]?) same
  simpa [hi, hi'] using atIndex

/-- Whether the set has names for both identities, and that of the first one does not stand after
that of the second one. -/
def Orders (set : ImportSet) (first second : Identity) : Prop :=
  ∃ x ∈ set.names, ∃ y ∈ set.names,
    x.identity = first ∧ y.identity = second ∧ le x y = true

/-- Whether names of one identity, one from each set, have the same dotted form, and the names of
any two identities stand in the same order in both. -/
structure IsOrderedLike (set other : ImportSet) : Prop where
  dotted_eq : ∀ x ∈ set.names, ∀ x' ∈ other.names, x.identity = x'.identity →
    x.dotted = x'.dotted
  orders_iff : ∀ first second, set.Orders first second ↔ other.Orders first second

section
variable {set other : ImportSet} {names others : List QualifiedName}

/-- The order of output is the only one in which the names are sorted. -/
theorem sorted_eq_of_perm (isPerm : names.Perm set.names)
    (ordered : names.Pairwise fun a b => le a b = true) : set.sorted = names :=
  (set.perm_sorted.trans isPerm.symm).eq_of_pairwise
    (fun _ _ _ _ ab ba => le_antisymm ab ba) set.pairwise_le_sorted ordered

theorem mem_sorted {name : QualifiedName} : name ∈ set.sorted ↔ name ∈ set.names :=
  set.perm_sorted.mem_iff

theorem distinct_sorted (set : ImportSet) :
    (set.sorted.map QualifiedName.identity).Nodup :=
  (set.perm_sorted.map QualifiedName.identity).nodup_iff.mpr set.distinct

theorem eq_of_identity_eq {x y : QualifiedName} (inSet : x ∈ set.names) (alsoInSet : y ∈ set.names)
    (same : x.identity = y.identity) : x = y :=
  List.inj_on_of_nodup_map set.distinct inSet alsoInSet same

theorem exists_mem_of_same (same : set.same other = true) {name : QualifiedName}
    (member : name ∈ set.names) : ∃ name' ∈ other.names, name.identity = name'.identity := by
  have inSet : name.identity ∈ set.identitySet :=
    mem_identitySet.mpr (List.mem_map_of_mem member)
  rw [same_iff_identitySet_eq.mp same, mem_identitySet] at inSet
  obtain ⟨name', member', identity⟩ := List.mem_map.mp inSet
  exact ⟨name', member', identity.symm⟩

theorem same_symm (same : set.same other = true) : other.same set = true :=
  same_iff_identitySet_eq.mpr (same_iff_identitySet_eq.mp same).symm

theorem le_sorted_getElem (set : ImportSet) {i j : Nat} (hi : i < set.sorted.length)
    (hj : j < set.sorted.length) : le set.sorted[i] set.sorted[j] = true ↔ i ≤ j := by
  have ordered {i j : Nat} (hi : i < set.sorted.length) (hj : j < set.sorted.length)
      (before : i < j) : le set.sorted[i] set.sorted[j] = true :=
    List.pairwise_iff_getElem.mp set.pairwise_le_sorted i j hi hj before
  have nodup : set.sorted.Nodup := set.perm_sorted.nodup_iff.mpr set.nodup_names
  constructor
  · intro precedes
    by_contra after
    have reversed := ordered hj hi (Nat.lt_of_not_le after)
    have position : i = j := (nodup.getElem_inj_iff).mp (le_antisymm precedes reversed)
    exact after position.le
  · intro before
    rcases before.eq_or_lt with rfl | before
    · simpa using le_total set.sorted[i] set.sorted[i]
    · exact ordered hi hj before

/-- Where the outputs have the same identities, names of one identity stand at one position. -/
theorem exists_position (identities : set.sorted.map QualifiedName.identity =
      other.sorted.map QualifiedName.identity) {x x' : QualifiedName} (member : x ∈ set.names)
    (member' : x' ∈ other.names) (same : x.identity = x'.identity) :
    ∃ (i : Nat) (hi : i < set.sorted.length) (hi' : i < other.sorted.length),
      set.sorted[i] = x ∧ other.sorted[i] = x' := by
  obtain ⟨i, hi, atI⟩ := List.getElem_of_mem (mem_sorted.mpr member)
  have length : set.sorted.length = other.sorted.length := by
    simpa using congrArg List.length identities
  have hi' : i < other.sorted.length := length ▸ hi
  have identity : set.sorted[i].identity = other.sorted[i].identity :=
    getElem_eq_of_map_eq identities hi hi'
  refine ⟨i, hi, hi', atI, ?_⟩
  apply eq_of_identity_eq (mem_sorted.mp (List.getElem_mem hi')) member'
  rw [← identity, atI, same]

theorem orders_iff_sorted (set : ImportSet) (first second : Identity) :
    set.Orders first second ↔
      ∃ i j : Nat, i ≤ j ∧ (set.sorted.map QualifiedName.identity)[i]? = some first ∧
        (set.sorted.map QualifiedName.identity)[j]? = some second := by
  constructor
  · rintro ⟨x, memberX, y, memberY, rfl, rfl, xy⟩
    obtain ⟨i, hi, rfl⟩ := List.getElem_of_mem (mem_sorted.mpr memberX)
    obtain ⟨j, hj, rfl⟩ := List.getElem_of_mem (mem_sorted.mpr memberY)
    exact ⟨i, j, (le_sorted_getElem set hi hj).mp xy, by simp [hi], by simp [hj]⟩
  · rintro ⟨i, j, before, atI, atJ⟩
    obtain ⟨hi, isFirst⟩ := List.getElem?_eq_some_iff.mp atI
    obtain ⟨hj, isSecond⟩ := List.getElem?_eq_some_iff.mp atJ
    rw [List.getElem_map] at isFirst isSecond
    rw [List.length_map] at hi hj
    exact ⟨_, mem_sorted.mp (List.getElem_mem hi), _, mem_sorted.mp (List.getElem_mem hj),
      isFirst, isSecond, (le_sorted_getElem set hi hj).mpr before⟩

theorem Orders.antisymm {first second : Identity} (forth : set.Orders first second)
    (back : set.Orders second first) : first = second := by
  obtain ⟨x, memberX, y, memberY, rfl, rfl, xy⟩ := forth
  obtain ⟨y', memberY', x', memberX', sameY, sameX, yx⟩ := back
  rw [eq_of_identity_eq memberY' memberY sameY, eq_of_identity_eq memberX' memberX sameX] at yx
  rw [le_antisymm xy yx]

theorem pairwise_orders_sorted (set : ImportSet) :
    (set.sorted.map QualifiedName.identity).Pairwise set.Orders := by
  rw [List.pairwise_map]
  refine set.pairwise_le_sorted.imp_of_mem ?_
  intro x y memberX memberY xy
  exact ⟨x, mem_sorted.mp memberX, y, mem_sorted.mp memberY, rfl, rfl, xy⟩

theorem isOrderedLike_of_sorted (shown : set.sorted.map dotted = other.sorted.map dotted) :
    set.IsOrderedLike other := by
  have identities : set.sorted.map QualifiedName.identity =
      other.sorted.map QualifiedName.identity := by
    have hashed := congrArg (List.map Identity.ofName) shown
    rw [List.map_map, List.map_map] at hashed
    exact hashed
  constructor
  · intro x member x' member' same
    obtain ⟨i, hi, hi', rfl, rfl⟩ := exists_position identities member member' same
    exact getElem_eq_of_map_eq shown hi hi'
  · intro first second
    rw [orders_iff_sorted, orders_iff_sorted, identities]

theorem identities_sorted_eq (same : set.same other = true) (alike : set.IsOrderedLike other) :
    set.sorted.map QualifiedName.identity = other.sorted.map QualifiedName.identity := by
  have isPerm : (set.sorted.map QualifiedName.identity).Perm
      (other.sorted.map QualifiedName.identity) := by
    rw [List.perm_ext_iff_of_nodup set.distinct_sorted other.distinct_sorted]
    intro identity
    rw [(set.perm_sorted.map _).mem_iff, (other.perm_sorted.map _).mem_iff]
    have equal := same_iff_identitySet_eq.mp same
    exact mem_identitySet.symm.trans (equal ▸ mem_identitySet)
  have ordered : (other.sorted.map QualifiedName.identity).Pairwise set.Orders :=
    other.pairwise_orders_sorted.imp fun between => (alike.orders_iff _ _).mpr between
  exact isPerm.eq_of_pairwise (fun _ _ _ _ => Orders.antisymm) set.pairwise_orders_sorted ordered

theorem sorted_of_isOrderedLike (same : set.same other = true) (alike : set.IsOrderedLike other) :
    set.sorted.map dotted = other.sorted.map dotted := by
  have identities := identities_sorted_eq same alike
  have length : (set.sorted.map dotted).length = (other.sorted.map dotted).length := by
    simpa using congrArg List.length identities
  apply List.ext_getElem length
  intro i hi hi'
  rw [List.getElem_map, List.getElem_map]
  rw [List.length_map] at hi hi'
  have identity : set.sorted[i].identity = other.sorted[i].identity :=
    getElem_eq_of_map_eq identities hi hi'
  exact alike.dotted_eq _ (mem_sorted.mp (List.getElem_mem hi)) _
    (mem_sorted.mp (List.getElem_mem hi')) identity

theorem BuiltFrom.mem {name : QualifiedName} (built : BuiltFrom names set)
    (member : name ∈ set.names) : name ∈ names := by
  have kept : firstOf? set.names name.identity = some name :=
    (firstOf?_eq_some_iff set.distinct).mpr ⟨member, rfl⟩
  exact List.mem_of_find?_eq_some ((built.find?_eq name.identity).symm.trans kept)

theorem sorted_eq_of_names_eq (same : set.same other = true)
    (consistent : ∀ x ∈ set.names, ∀ y ∈ other.names, x.identity = y.identity → x = y) :
    set.sorted = other.sorted := by
  have isPerm : other.names.Perm set.names := by
    rw [List.perm_ext_iff_of_nodup other.nodup_names set.nodup_names]
    intro name
    constructor
    · intro member
      obtain ⟨kept, keptMember, identity⟩ := exists_mem_of_same (same_symm same) member
      exact consistent kept keptMember name member identity.symm ▸ keptMember
    · intro member
      obtain ⟨kept, keptMember, identity⟩ := exists_mem_of_same same member
      exact (consistent name member kept keptMember identity).symm ▸ keptMember
  exact sorted_eq_of_perm (other.perm_sorted.trans isPerm) other.pairwise_le_sorted

theorem same_of_perm (built : BuiltFrom names set) (builtOther : BuiltFrom others other)
    (isPerm : names.Perm others) : set.same other = true := by
  rw [same_iff_identitySet_eq, built.identitySet_eq, builtOther.identitySet_eq]
  exact List.toFinset_eq_of_perm _ _ (isPerm.map QualifiedName.identity)

/-- Sets that are the same are shown in the same way exactly if names of one identity are shown
alike and stand in the same order in both. In particular they have the same output if all names put
in with one identity are one name. Sets are the same if the same names were put in in any order. -/
theorem sorted_eq_iff_isOrderedLike (built : BuiltFrom names set)
    (builtOther : BuiltFrom others other) :
    (names.Perm others → set.same other = true) ∧
    (set.same other = true →
      (set.sorted.map dotted = other.sorted.map dotted ↔ set.IsOrderedLike other)) ∧
    (set.same other = true →
      (∀ x ∈ names, ∀ y ∈ others, x.identity = y.identity → x = y) →
        set.sorted = other.sorted) := by
  refine ⟨same_of_perm built builtOther, ?_, ?_⟩
  · intro same
    exact ⟨isOrderedLike_of_sorted, sorted_of_isOrderedLike same⟩
  · intro same consistent
    apply sorted_eq_of_names_eq same
    intro x member y member'
    exact consistent x (built.mem member) y (builtOther.mem member')

end

/-- Three names read from texts and put in in two orders. -/
theorem sorted_eq_iff_isOrderedLike_texts :
    let names := ["java.util.Set", "java.util.Map.Entry", "java.math.BigDecimal"].map parse
    let set := ofList names
    let other := ofList names.reverse
    BuiltFrom names set ∧ BuiltFrom names.reverse other ∧ names.Perm names.reverse ∧
      set.same other = true ∧
      (∀ x ∈ names, ∀ y ∈ names.reverse, x.identity = y.identity → x = y) ∧
      set.sorted = other.sorted ∧ set.IsOrderedLike other := by
  intro names set other
  have built : BuiltFrom names set := .ofList names
  have builtOther : BuiltFrom names.reverse other := .ofList names.reverse
  have isPerm : names.Perm names.reverse := (List.reverse_perm names).symm
  have consistent : ∀ x ∈ names, ∀ y ∈ names.reverse, x.identity = y.identity → x = y := by
    decide +kernel
  obtain ⟨sameOfPerm, shown, sortedOfSame⟩ := sorted_eq_iff_isOrderedLike built builtOther
  have same : set.same other = true := sameOfPerm isPerm
  have sorted : set.sorted = other.sorted := sortedOfSame same consistent
  have alike : set.IsOrderedLike other := (shown same).mp (by rw [sorted])
  exact ⟨built, builtOther, isPerm, same, consistent, sorted, alike⟩

/-- The entry class of maps, read from its dotted name and given as a class inside the class of
maps, beside a set. Put in in two orders, the three names make sets that are the same, but the
set comes first in the output of the one and last in that of the other. -/
theorem sorted_depends_on_first_split :
    let entry := QualifiedName.parse "java.util.Map.Entry"
    let nested : QualifiedName := ⟨["java", "util"], "Map.Entry"⟩
    let set := QualifiedName.parse "java.util.Set"
    let parsedFirst := ofList [entry, nested, set]
    let nestedFirst := ofList [nested, entry, set]
    BuiltFrom [entry, nested, set] parsedFirst ∧ BuiltFrom [nested, entry, set] nestedFirst ∧
      [entry, nested, set].Perm [nested, entry, set] ∧ parsedFirst.same nestedFirst = true ∧
      parsedFirst.sorted.map dotted = ["java.util.Set", "java.util.Map.Entry"] ∧
      nestedFirst.sorted.map dotted = ["java.util.Map.Entry", "java.util.Set"] := by
  intro entry nested set parsedFirst nestedFirst
  have sortedParsed : parsedFirst.sorted = [set, entry] :=
    sorted_eq_of_perm (by decide +kernel) (by decide +kernel)
  have sortedNested : nestedFirst.sorted = [nested, set] :=
    sorted_eq_of_perm (by decide +kernel) (by decide +kernel)
  refine ⟨.ofList _, .ofList _, .swap .., by decide +kernel, ?_, ?_⟩
  · rw [sortedParsed]
    decide +kernel
  · rw [sortedNested]
    decide +kernel

end ImportSet

end PropertyAssignment
