import Mathlib.Data.FinEnum
import Mathlib.Data.Fintype.Card
import PropertyAssignment.JavaType.Container

/-!
# How the parts of a type determine its identity

An argument is taken into the state of an identity by three operations on words: a rotation, a
multiplication by an odd number, and exclusive or. Each of them can be undone. So a step loses
neither the state before it nor the argument, and no later step does. Hence the identity of an
instance is a bijection of the raw name and of each argument, as long as everything else is fixed,
and the type around two arguments never confuses them. This needs nothing of the digest that makes
words of names and of positions.
-/

namespace PropertyAssignment

open Function

namespace Digest

theorem rotateLeft_rotateLeft_5 (word : UInt64) : rotateLeft (rotateLeft word 5) 59 = word := by
  apply UInt64.toBitVec_inj.mp
  apply BitVec.eq_of_getLsbD_eq
  intro i bound
  have above : 64 ≤ 59 + (5 + i) := by omega
  by_cases low : i < 59
  · have inside : 5 + i < 64 := by omega
    simp [rotateLeft, bound, low, inside, BitVec.getLsbD_of_ge _ _ above]
  · -- The five highest bits come back from the low end.
    have outside : ¬ 5 + i < 64 := by omega
    have atLowEnd : i - 59 < 5 := by omega
    have back : 59 + (i - 59) = i := by omega
    simp [rotateLeft, bound, low, outside, atLowEnd, back, BitVec.getLsbD_of_ge _ _ above]

end Digest

namespace Identity

/-- The inverse of the multiplier modulo `2 ^ 64`. There is one because the multiplier is odd. -/
def spreadInverse : UInt64 := 0xf1de_83e1_9937_733d

theorem spread_mul_spreadInverse : spread * spreadInverse = 1 := by decide

theorem rotateLeft_5_bijective : Bijective fun word => Digest.rotateLeft word 5 := by
  apply Finite.injective_iff_bijective.mp
  apply LeftInverse.injective (g := fun word => Digest.rotateLeft word 59)
  exact Digest.rotateLeft_rotateLeft_5

theorem mul_spread_bijective : Bijective fun word => word * spread := by
  apply Finite.injective_iff_bijective.mp
  apply LeftInverse.injective (g := fun word => word * spreadInverse)
  intro word
  calc
    word * spread * spreadInverse = word * (spread * spreadInverse) := UInt64.mul_assoc ..
    _ = word * 1 := by rw [spread_mul_spreadInverse]
    _ = word := UInt64.mul_one word

theorem xor_bijective (mask : UInt64) : Bijective fun word => word ^^^ mask :=
  Finite.injective_iff_bijective.mp fun _ _ same => (UInt64.xor_left_inj mask).mp same

theorem word_bijective : Bijective word :=
  bijective_iff_has_inverse.mpr ⟨mk, fun _ => rfl, fun _ => rfl⟩

theorem mk_bijective : Bijective mk :=
  bijective_iff_has_inverse.mpr ⟨word, fun _ => rfl, fun _ => rfl⟩

theorem applyArgument_bijective_state (position : Nat) (argument : Identity) :
    Bijective fun state => applyArgument state position argument := by
  have marked := xor_bijective (positionMarker position)
  have mixed := xor_bijective argument.word
  exact mixed.comp (marked.comp (mul_spread_bijective.comp rotateLeft_5_bijective))

theorem applyArgument_bijective_argument (state : UInt64) (position : Nat) :
    Bijective fun argument => applyArgument state position argument := by
  have swapped (argument : Identity) : applyArgument state position argument =
      argument.word ^^^ (Digest.rotateLeft state 5 * spread ^^^ positionMarker position) :=
    UInt64.xor_comm ..
  simp only [swapped]
  exact (xor_bijective _).comp word_bijective

theorem applyArguments_bijective (position : Nat) (arguments : List Identity) :
    Bijective fun state => applyArguments state position arguments := by
  induction arguments generalizing position with
  | nil => exact bijective_id
  | cons argument rest ih =>
    exact (ih (position + 1)).comp (applyArgument_bijective_state position argument)

theorem applyArguments_append (state : UInt64) (position : Nat) (before after : List Identity) :
    applyArguments state position (before ++ after) =
      applyArguments (applyArguments state position before) (position + before.length) after := by
  induction before generalizing state position with
  | nil => rfl
  | cons argument rest ih =>
    rw [List.cons_append, applyArguments, ih, applyArguments, List.length_cons]
    rw [Nat.add_assoc, Nat.add_comm 1]

theorem ofInstance_bijective_raw (arguments : List Identity) :
    Bijective fun raw => ofInstance raw arguments :=
  mk_bijective.comp ((applyArguments_bijective 0 arguments).comp word_bijective)

theorem ofInstance_bijective_argument (raw : Identity) (before after : List Identity) :
    Bijective fun argument => ofInstance raw (before ++ argument :: after) := by
  simp only [ofInstance, applyArguments_append, applyArguments]
  have takenIn := applyArgument_bijective_argument (applyArguments raw.word 0 before)
    (0 + before.length)
  exact mk_bijective.comp ((applyArguments_bijective _ after).comp takenIn)

end Identity

namespace JavaType

/-- The type at a place inside a type, if there is such a place. A place is given by the positions
of the arguments that lead to it from the outside in. -/
def argumentAt? (type : JavaType) : List Nat → Option JavaType
  | [] => some type
  | position :: path => type.arguments[position]?.bind fun argument => argument.argumentAt? path

/-- The type with another one put at a place inside it. -/
def replaceAt (type : JavaType) (path : List Nat) (replacement : JavaType) : JavaType :=
  match path with
  | [] => replacement
  | position :: path =>
    { type with
      arguments := type.arguments.modify position fun argument =>
        argument.replaceAt path replacement }

theorem same_iff {first second : JavaType} :
    first.same second = true ↔ first.identity = second.identity := by
  rw [same, beq_iff_eq]

theorem identity_eq (type : JavaType) :
    type.identity = Identity.ofInstance type.name.identity (type.arguments.map identity) := by
  obtain ⟨name, arguments, container⟩ := type
  rw [identity, identities_eq_map]

theorem identity_eq_iff_of_arguments {first second : JavaType}
    (arguments : first.arguments.map identity = second.arguments.map identity) :
    first.identity = second.identity ↔ first.name.identity = second.name.identity := by
  rw [identity_eq first, identity_eq second, arguments]
  exact (Identity.ofInstance_bijective_raw _).injective.eq_iff

theorem same_of_name_eq {first second : JavaType} (name : first.name = second.name)
    (arguments : first.arguments.map identity = second.arguments.map identity) :
    first.same second = true := by
  rw [same_iff, identity_eq_iff_of_arguments arguments, name]

theorem identity_eq_iff_of_argument (name : QualifiedName) (container : Option ContainerKind)
    (before after : List JavaType) (first second : JavaType) :
    identity ⟨name, before ++ first :: after, container⟩ =
        identity ⟨name, before ++ second :: after, container⟩ ↔
      first.identity = second.identity := by
  rw [identity_eq, identity_eq]
  simp only [List.map_append, List.map_cons]
  exact (Identity.ofInstance_bijective_argument _ _ _).injective.eq_iff

theorem replaceAt_cons {type argument : JavaType} {position : Nat}
    (found : type.arguments[position]? = some argument) (path : List Nat)
    (replacement : JavaType) :
    type.replaceAt (position :: path) replacement =
      ⟨type.name, type.arguments.take position ++ argument.replaceAt path replacement ::
        type.arguments.drop (position + 1), type.container⟩ := by
  obtain ⟨bound, isArgument⟩ := List.getElem?_eq_some_iff.mp found
  rw [replaceAt, List.modify_eq_take_cons_drop bound, isArgument]

/-- A type keeps apart what stands at a place inside it. -/
theorem identity_replaceAt_iff {type : JavaType} {path : List Nat}
    (isPlace : (type.argumentAt? path).isSome) (first second : JavaType) :
    (type.replaceAt path first).identity = (type.replaceAt path second).identity ↔
      first.identity = second.identity := by
  induction path generalizing type with
  | nil => rfl
  | cons position path ih =>
    rw [argumentAt?, Option.isSome_bind, Option.any_eq_true] at isPlace
    obtain ⟨argument, found, isPlaceBelow⟩ := isPlace
    rw [replaceAt_cons found, replaceAt_cons found, identity_eq_iff_of_argument]
    exact ih isPlaceBelow

/-- Identities of instances correspond one to one to those of each argument and of the raw name,
everything else fixed. So for every type and every place inside it, two types put there give the
same type exactly if they are the same; and two types with the same arguments are the same exactly
if their names have the same identity. -/
theorem identity_injective_in_context :
    (∀ raw before after,
      Bijective fun argument => Identity.ofInstance raw (before ++ argument :: after)) ∧
    (∀ arguments, Bijective fun raw => Identity.ofInstance raw arguments) ∧
    (∀ (type : JavaType) (path : List Nat), (type.argumentAt? path).isSome →
      ∀ first second : JavaType,
        (type.replaceAt path first).same (type.replaceAt path second) = true ↔
          first.same second = true) ∧
    ∀ first second : JavaType, first.arguments.map identity = second.arguments.map identity →
      (first.same second = true ↔ first.name.identity = second.name.identity) := by
  refine ⟨Identity.ofInstance_bijective_argument, Identity.ofInstance_bijective_raw, ?_, ?_⟩
  · intro type path isPlace first second
    rw [same_iff, same_iff]
    exact identity_replaceAt_iff isPlace first second
  · intro first second arguments
    rw [same_iff]
    exact identity_eq_iff_of_arguments arguments

/-- Items of two packages inside the values of a map: neither the map nor the list between them and
it confuses them, and a list of items is no set of the same items. -/
theorem identity_injective_in_context_items :
    let item := declared "com.acme.Item"
    let otherItem := declared "com.other.Item"
    let items := generic "java.util.List" [item]
    let itemsByName := generic "java.util.Map" [declared "java.lang.String", items]
    (itemsByName.argumentAt? [1, 0]).isSome ∧
      (itemsByName.replaceAt [1, 0] item).same (itemsByName.replaceAt [1, 0] otherItem) = false ∧
      items.same (generic "java.util.Set" [item]) = false := by
  intro item otherItem items itemsByName
  obtain ⟨_, _, inContext, byName⟩ := identity_injective_in_context
  have isPlace : (itemsByName.argumentAt? [1, 0]).isSome := rfl
  refine ⟨isPlace, ?_, ?_⟩
  · rw [Bool.eq_false_iff, Ne, inContext _ _ isPlace]
    decide +kernel
  · rw [Bool.eq_false_iff, Ne, byName items (generic "java.util.Set" [item]) rfl]
    decide +kernel

end JavaType

end PropertyAssignment
