import PropertyAssignment.JavaType.Basic
import PropertyAssignment.Text.LetterCase

/-!
# Target properties

A property that values are written to, with the methods that give access to it. A method with an
empty name counts as absent.
-/

namespace PropertyAssignment

/-- A property of the target object: its name, its type and the names of its access methods. -/
structure Property where
  name : String
  type : JavaType
  setter : Option String := none
  getter : Option String := none
  adder : Option String := none
deriving Repr

/-- Which kinds of access methods a property has. -/
structure Accessors where
  setter : Bool
  getter : Bool
  adder : Bool
deriving DecidableEq, Repr

namespace Accessors

/-- The kinds as a number: bit 0 for the setter, bit 1 for the getter, bit 2 for the adder. -/
def bits (accessors : Accessors) : Nat :=
  accessors.setter.toNat + 2 * accessors.getter.toNat + 4 * accessors.adder.toNat

def ofLowBits (bits : Nat) : Accessors :=
  ⟨bits.testBit 0, bits.testBit 1, bits.testBit 2⟩

/-- The kinds that a number stands for, if it has no other bits. -/
def ofBits? (bits : Nat) : Option Accessors :=
  if bits < 8 then some (ofLowBits bits) else none

def canMerge (accessors : Accessors) : Bool :=
  accessors.setter && accessors.getter

theorem ofLowBits_bits (accessors : Accessors) : ofLowBits accessors.bits = accessors := by
  obtain ⟨setter, getter, adder⟩ := accessors
  cases setter <;> cases getter <;> cases adder <;> rfl

theorem bits_ofLowBits (n : Nat) : (ofLowBits n).bits = n % 8 := by
  have digit (k : Nat) : (decide (n / 2 ^ k % 2 = 1)).toNat = n / 2 ^ k % 2 := by
    rcases Nat.mod_two_eq_zero_or_one (n / 2 ^ k) with even | odd
    · rw [even]; rfl
    · rw [odd]; rfl
  simp only [bits, ofLowBits, Nat.testBit_eq_decide_div_mod_eq, digit]
  omega

end Accessors

namespace Property

/-- The property of a bean: its setter and its getter are named after it. -/
def bean (name : String) (type : JavaType) : Property where
  name := name
  type := type
  setter := some ("set" ++ String.ofList (Text.capitalized name.toList))
  getter := some ("get" ++ String.ofList (Text.capitalized name.toList))

/-- The name of the setter, unless it is absent or empty. -/
def setter? (property : Property) : Option String :=
  property.setter.filter fun name => !name.isEmpty

/-- The name of the getter, unless it is absent or empty. -/
def getter? (property : Property) : Option String :=
  property.getter.filter fun name => !name.isEmpty

/-- The name of the adder, unless it is absent or empty. -/
def adder? (property : Property) : Option String :=
  property.adder.filter fun name => !name.isEmpty

def accessors (property : Property) : Accessors :=
  ⟨property.setter?.isSome, property.getter?.isSome, property.adder?.isSome⟩

end Property

end PropertyAssignment
