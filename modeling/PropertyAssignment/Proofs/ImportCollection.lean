import PropertyAssignment.Proofs.ImportHistory
import PropertyAssignment.Proofs.RequiredImports
import PropertyAssignment.Proofs.TypeIdentity

/-!
# Which imports are collected from a type

One set goes through a type and all its arguments and takes in what has to be imported. It ends up
with the identities of exactly the types that are neither primitive nor implicitly imported, at
whatever depth. Places in a type are lists of argument positions, and pre-order is the lexicographic
order of places: of the names of one identity, the set keeps the one whose place comes first.

Collecting into a set takes the union with what is collected from nothing. So what a type needs is
the union of its own name, if that has to be imported, with what its arguments need, and a type that
is not imported itself hides nothing of what stands inside it.
-/

namespace PropertyAssignment

namespace ImportSet

/-- Names that are put in by way of another set are put in all the same. -/
theorem insertMany_ofList (set : ImportSet) (names : List QualifiedName) :
    set.insertMany (ofList names).names = set.insertMany names := by
  induction names using List.reverseRecOn with
  | nil => rfl
  | append_singleton names name ih =>
    have last (start : ImportSet) :
        start.insertMany (names ++ [name]) = (start.insertMany names).insert name :=
      insertMany_append start names [name]
    rw [ofList, last, names_insert, last]
    split
    next known =>
      -- The name is not new in the other set, hence not in the set that took its names in.
      have inBoth : name.identity ∈ (set.insertMany names).identities := by
        rw [← ih]
        exact mem_identities_insertMany.mpr (.inr known)
      rw [insert, dif_pos (contains_iff.mpr inBoth)]
      exact ih
    next => rw [insertMany_append, ← ofList, ih]; rfl

end ImportSet

namespace JavaType

/-! ### Places of names to import -/

/-- At the place stands a type of this name that is neither primitive nor implicitly imported. -/
def HasImportAt (type : JavaType) (path : List Nat) (name : QualifiedName) : Prop :=
  ∃ node, type.argumentAt? path = some node ∧ node.isPrimitive = false ∧
    node.name.isImplicitlyImported = false ∧ node.name = name

/-- The name is to be imported at the place, has the identity, and no name at an earlier place has
it. The places are ordered lexicographically, a place before those inside it. -/
structure IsFirstImport (type : JavaType) (identity : Identity) (path : List Nat)
    (name : QualifiedName) : Prop where
  stands : type.HasImportAt path name
  matching : name.identity = identity
  first : ∀ earlier < path, ∀ other, type.HasImportAt earlier other → other.identity ≠ identity

section
variable {type argument node : JavaType} {name other : QualifiedName} {identity : Identity}
  {path rest : List Nat}

theorem hasImportAt_nil :
    type.HasImportAt [] name ↔ type.isImportable = true ∧ type.name = name := by
  simp [HasImportAt, argumentAt?, isImportable, and_assoc]

theorem hasImportAt_cons {position : Nat} :
    type.HasImportAt (position :: path) name ↔
      ∃ argument, type.arguments[position]? = some argument ∧ argument.HasImportAt path name := by
  simp only [HasImportAt, argumentAt?, Option.bind_eq_some_iff]
  constructor
  · rintro ⟨node, ⟨argument, found, below⟩, isNode⟩
    exact ⟨argument, found, node, below, isNode⟩
  · rintro ⟨argument, found, node, below, isNode⟩
    exact ⟨node, ⟨argument, found, below⟩, isNode⟩

theorem HasImportAt.within (isPlace : type.argumentAt? path = some node)
    (stands : node.HasImportAt rest name) : type.HasImportAt (path ++ rest) name := by
  induction path generalizing type with
  | nil =>
    obtain rfl := Option.some.inj isPlace
    exact stands
  | cons position path ih =>
    obtain ⟨argument, found, below⟩ := Option.bind_eq_some_iff.mp isPlace
    exact hasImportAt_cons.mpr ⟨argument, found, ih below⟩

theorem IsFirstImport.name_eq {otherPath : List Nat}
    (isFirst : type.IsFirstImport identity path name)
    (isOther : type.IsFirstImport identity otherPath other) : name = other := by
  rcases lt_trichotomy path otherPath with earlier | rfl | later
  · exact absurd isFirst.matching (isOther.first path earlier name isFirst.stands)
  · obtain ⟨node, found, _, _, rfl⟩ := isFirst.stands
    obtain ⟨otherNode, otherFound, _, _, rfl⟩ := isOther.stands
    rw [Option.some.inj (found.symm.trans otherFound)]
  · exact absurd isOther.matching (isFirst.first otherPath later other isOther.stands)

end

/-! ### The union over the arguments -/

/-- Collecting into a set is the union with what is collected from nothing. -/
theorem addImports_eq_union (type : JavaType) (imports : ImportSet) :
    type.addImports imports = imports.union type.requiredImports := by
  have collected : type.requiredImports = .ofList (importableNames type.nodes) :=
    addImports_eq_insertMany type .empty
  rw [ImportSet.union, collected, ImportSet.insertMany_ofList, addImports_eq_insertMany]

theorem requiredImports_eq_union (type : JavaType) :
    type.requiredImports = type.arguments.foldl
      (fun imports argument => imports.union argument.requiredImports)
      (type.addOwnImport .empty) := by
  obtain ⟨name, arguments, container⟩ := type
  rw [requiredImports, addImports, addAllImports_eq_foldl]
  simp only [addImports_eq_union]

theorem find?_addOwnImport_eq_some_iff {type : JavaType} {identity : Identity}
    {name : QualifiedName} :
    (type.addOwnImport .empty).find? identity = some name ↔
      type.HasImportAt [] name ∧ name.identity = identity := by
  rw [hasImportAt_nil, addOwnImport]
  cases type.isImportable with
  | true =>
    have kept : (ImportSet.empty.insert type.name).find? identity =
        if type.name.identity = identity then some type.name else none := by
      rw [ImportSet.find?_insert, ImportSet.find?_empty, Option.none_or,
        QualifiedName.firstOf?_singleton]
    rw [if_pos rfl, kept, Option.ite_none_right_eq_some, Option.some.injEq]
    constructor
    · rintro ⟨matching, rfl⟩
      exact ⟨⟨rfl, rfl⟩, matching⟩
    · rintro ⟨⟨_, rfl⟩, matching⟩
      exact ⟨matching, rfl⟩
  | false => simp [ImportSet.find?_empty]

theorem find?_foldl_union (types : List JavaType) (imports : ImportSet) (identity : Identity) :
    (types.foldl (fun imports type => imports.union type.requiredImports) imports).find? identity =
      (imports.find? identity).or
        (types.findSome? fun type => type.requiredImports.find? identity) := by
  induction types generalizing imports with
  | nil => exact Option.or_none.symm
  | cons type rest ih =>
    rw [List.foldl_cons, ih, ImportSet.find?_union, Option.or_assoc, List.findSome?_cons]
    cases type.requiredImports.find? identity with
    | none => rfl
    | some name => rfl

/-- What is kept for an identity is the own name or, failing that, what the first argument that has
anything keeps. -/
theorem find?_requiredImports (type : JavaType) (identity : Identity) :
    type.requiredImports.find? identity = ((type.addOwnImport .empty).find? identity).or
      (type.arguments.findSome? fun argument => argument.requiredImports.find? identity) := by
  rw [requiredImports_eq_union, find?_foldl_union]

/-! ### What is required, and what is kept -/

section
variable {type argument node : JavaType} {name : QualifiedName} {identity : Identity}
  {path : List Nat}

theorem mem_requiredImports_iff_own_or_argument :
    identity ∈ type.requiredImports.identities ↔
      (∃ name, type.HasImportAt [] name ∧ name.identity = identity) ∨
        ∃ argument ∈ type.arguments, identity ∈ argument.requiredImports.identities := by
  rw [← ImportSet.isSome_find?_iff, find?_requiredImports, Option.isSome_or, Bool.or_eq_true,
    List.findSome?_isSome_iff, Option.isSome_iff_exists]
  simp only [find?_addOwnImport_eq_some_iff, ImportSet.isSome_find?_iff]

theorem mem_requiredImports_iff_hasImportAt :
    identity ∈ type.requiredImports.identities ↔
      ∃ path name, type.HasImportAt path name ∧ name.identity = identity := by
  induction type with
  | mk root arguments container ih =>
    rw [mem_requiredImports_iff_own_or_argument]
    constructor
    · rintro (⟨name, stands, matching⟩ | ⟨argument, member, required⟩)
      · exact ⟨[], name, stands, matching⟩
      · obtain ⟨path, name, stands, matching⟩ := (ih argument member).mp required
        obtain ⟨position, found⟩ := List.getElem?_of_mem member
        exact ⟨position :: path, name, hasImportAt_cons.mpr ⟨argument, found, stands⟩, matching⟩
    · rintro ⟨path, name, stands, matching⟩
      cases path with
      | nil => exact .inl ⟨name, stands, matching⟩
      | cons position path =>
        obtain ⟨argument, found, below⟩ := hasImportAt_cons.mp stands
        have member : argument ∈ arguments := List.mem_of_getElem? found
        exact .inr ⟨argument, member, (ih argument member).mpr ⟨path, name, below, matching⟩⟩

theorem HasImportAt.find?_ne_none (stands : type.HasImportAt path name) :
    type.requiredImports.find? name.identity ≠ none := by
  have required := mem_requiredImports_iff_hasImportAt.mpr ⟨path, name, stands, rfl⟩
  exact Option.isSome_iff_ne_none.mp (ImportSet.isSome_find?_iff.mpr required)

/-- The first place in an argument is the first one in the type if neither the type itself nor an
argument further left has a name of the identity. -/
theorem IsFirstImport.of_argument {before after : List JavaType}
    (arguments : type.arguments = before ++ argument :: after)
    (noOwn : (type.addOwnImport .empty).find? identity = none)
    (noneBefore : ∀ other ∈ before, other.requiredImports.find? identity = none)
    (isFirst : argument.IsFirstImport identity path name) :
    type.IsFirstImport identity (before.length :: path) name where
  stands := hasImportAt_cons.mpr ⟨argument, by simp [arguments], isFirst.stands⟩
  matching := isFirst.matching
  first := by
    rintro earlier isEarlier other stands rfl
    -- Earlier are the type itself, all of the arguments further left, and a part of this argument.
    cases earlier with
    | nil =>
      have own := find?_addOwnImport_eq_some_iff.mpr ⟨stands, rfl⟩
      exact absurd (own.symm.trans noOwn) (Option.some_ne_none other)
    | cons position earlier =>
      obtain ⟨holder, found, below⟩ := hasImportAt_cons.mp stands
      rw [arguments] at found
      rcases List.cons_lt_cons_iff.mp isEarlier with further | ⟨rfl, inside⟩
      · rw [List.getElem?_append_left further] at found
        exact below.find?_ne_none (noneBefore holder (List.mem_of_getElem? found))
      · obtain rfl : argument = holder := by simpa using found
        exact isFirst.first earlier inside other below rfl

theorem exists_isFirstImport (kept : type.requiredImports.find? identity = some name) :
    ∃ path, type.IsFirstImport identity path name := by
  induction type with
  | mk root arguments container ih =>
    rw [find?_requiredImports, Option.or_eq_some_iff] at kept
    rcases kept with own | ⟨noOwn, inArgument⟩
    · obtain ⟨stands, matching⟩ := find?_addOwnImport_eq_some_iff.mp own
      exact ⟨[], stands, matching, fun earlier before => absurd before (List.not_lt_nil earlier)⟩
    · obtain ⟨before, argument, after, split, keptThere, noneBefore⟩ :=
        List.findSome?_eq_some_iff.mp inArgument
      have member : argument ∈ arguments := by
        rw [show arguments = _ from split]
        exact List.mem_append_cons_self
      obtain ⟨path, isFirst⟩ := ih argument member keptThere
      exact ⟨before.length :: path, isFirst.of_argument split noOwn noneBefore⟩

theorem find?_requiredImports_eq_some_iff :
    type.requiredImports.find? identity = some name ↔
      ∃ path, type.IsFirstImport identity path name := by
  constructor
  · exact exists_isFirstImport
  · rintro ⟨path, isFirst⟩
    have present := isFirst.stands.find?_ne_none
    rw [isFirst.matching] at present
    obtain ⟨kept, isKept⟩ := Option.ne_none_iff_exists'.mp present
    obtain ⟨otherPath, isFirstKept⟩ := exists_isFirstImport isKept
    rw [isKept, isFirst.name_eq isFirstKept]

theorem isSuperset_of_argumentAt? (isPlace : type.argumentAt? path = some node) :
    type.requiredImports.isSuperset node.requiredImports = true := by
  rw [ImportSet.isSuperset_iff]
  intro identity required
  obtain ⟨rest, name, stands, matching⟩ := mem_requiredImports_iff_hasImportAt.mp required
  exact mem_requiredImports_iff_hasImportAt.mpr
    ⟨path ++ rest, name, stands.within isPlace, matching⟩

end

/-- The imports of a type, of any depth and any number of arguments, have an identity exactly if it
is that of a type inside, the type itself included, that is neither primitive nor implicitly
imported. The name kept for it is that of the first such type in pre-order. The imports of a written
type are the union of its own name, if it has to be imported, with the imports of its arguments. So
a type needs the imports of everything that stands inside it, whether it is itself imported or
not. -/
theorem requiredImports_collectsNodes :
    (∀ (type : JavaType) (identity : Identity),
      (identity ∈ type.requiredImports.identities ↔
        ∃ path node, type.argumentAt? path = some node ∧ node.isPrimitive = false ∧
          node.name.isImplicitlyImported = false ∧ node.name.identity = identity) ∧
      ∀ name, type.requiredImports.find? identity = some name ↔
        ∃ path, type.IsFirstImport identity path name) ∧
    (∀ (written : String) (arguments : List JavaType),
      (generic written arguments).requiredImports =
        arguments.foldl (fun imports argument => imports.union argument.requiredImports)
          ((generic written arguments).addOwnImport .empty) ∧
      ∀ identity, identity ∈ (generic written arguments).requiredImports.identities ↔
        ((generic written arguments).isPrimitive = false ∧
          (QualifiedName.parse written).isImplicitlyImported = false ∧
          (QualifiedName.parse written).identity = identity) ∨
        ∃ argument ∈ arguments, identity ∈ argument.requiredImports.identities) ∧
    ∀ (type : JavaType) (path : List Nat) (node : JavaType), type.argumentAt? path = some node →
      type.requiredImports.isSuperset node.requiredImports = true := by
  refine ⟨?nodes, ?union, fun _ _ _ => isSuperset_of_argumentAt?⟩
  case nodes =>
    intro type identity
    refine ⟨?_, fun name => find?_requiredImports_eq_some_iff⟩
    rw [mem_requiredImports_iff_hasImportAt]
    constructor
    · rintro ⟨path, _, ⟨node, isPlace, notPrimitive, notImplicit, rfl⟩, matching⟩
      exact ⟨path, node, isPlace, notPrimitive, notImplicit, matching⟩
    · rintro ⟨path, node, isPlace, notPrimitive, notImplicit, matching⟩
      exact ⟨path, node.name, ⟨node, isPlace, notPrimitive, notImplicit, rfl⟩, matching⟩
  case union =>
    intro written arguments
    refine ⟨requiredImports_eq_union _, ?_⟩
    intro identity
    rw [mem_requiredImports_iff_own_or_argument]
    simp [HasImportAt, argumentAt?, generic, and_assoc]

/-- An entry class inside a list, given as a class in the class of maps, and the same class read
from its dotted name further right: the name of the inner one is kept, because it comes first. The
class around both needs no import and hides neither these nor the items inside. -/
theorem requiredImports_collectsNodes_entries :
    let item := declared "com.acme.Item"
    let nested : JavaType := ⟨⟨["java", "util"], "Map.Entry"⟩, [declared "int", item], none⟩
    let entries := generic "java.lang.Iterable"
      [generic "java.util.List" [nested], declared "java.util.Map.Entry"]
    entries.name.isImplicitlyImported = true ∧
      (∃ path, entries.IsFirstImport (QualifiedName.parse "java.util.Map.Entry").identity path
        nested.name) ∧
      item.name.identity ∈ entries.requiredImports.identities ∧
      entries.argumentAt? [0, 0] = some nested ∧
      entries.requiredImports.isSuperset nested.requiredImports = true := by
  intro item nested entries
  obtain ⟨nodes, _, inside⟩ := requiredImports_collectsNodes
  have isPlace : entries.argumentAt? [0, 0] = some nested := rfl
  have kept : entries.requiredImports.find?
      (QualifiedName.parse "java.util.Map.Entry").identity = some nested.name := by
    decide +kernel
  have itemStands : entries.argumentAt? [0, 0, 1] = some item := rfl
  refine ⟨by decide, ((nodes entries _).2 nested.name).mp kept, ?_, isPlace,
    inside entries [0, 0] nested isPlace⟩
  exact (nodes entries _).1.mpr ⟨[0, 0, 1], item, itemStands, by decide, by decide, rfl⟩

end JavaType

end PropertyAssignment
