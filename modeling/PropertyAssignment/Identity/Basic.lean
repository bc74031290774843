import PropertyAssignment.Identity.Digest

/-!
# Identities of names and types

An identity is a 64-bit word that stands for a dotted name, or for a type made from a name and
type arguments. Names, imports and types are compared by identity throughout, so equal dotted
texts have equal identities however the text is split into package and simple name.
-/

namespace PropertyAssignment

structure Identity where
  word : UInt64
deriving DecidableEq, Repr, Hashable

namespace Identity

def nameSeed : UInt64 := 0x6d61_7066_6f72_6765

/-- The seed of the markers that tell argument positions apart. -/
def positionSeed : UInt64 := 0x7479_7065_5f61_7267

/-- The odd multiplier between two arguments. -/
def spread : UInt64 := 0x9e37_79b9_7f4a_7c15

def ofName (dotted : String) : Identity :=
  ⟨Digest.ofText nameSeed dotted⟩

def positionMarker (position : Nat) : UInt64 :=
  Digest.ofBytes positionSeed (Digest.toLittleEndian position.toUInt64)

/-- The state after the argument at `position`: the old state is turned and multiplied, then the
marker of the position and the identity of the argument are mixed in. -/
def applyArgument (state : UInt64) (position : Nat) (argument : Identity) : UInt64 :=
  (Digest.rotateLeft state 5 * spread) ^^^ positionMarker position ^^^ argument.word

/-- The state after all the arguments from `position` on. -/
def applyArguments (state : UInt64) (position : Nat) : List Identity → UInt64
  | [] => state
  | argument :: rest => applyArguments (applyArgument state position argument) (position + 1) rest

/-- The identity of a type with the given raw name and type arguments. Without arguments it is
the identity of the raw name. -/
def ofInstance (raw : Identity) (arguments : List Identity) : Identity :=
  ⟨applyArguments raw.word 0 arguments⟩

/-- An identity as sixteen lower-case hexadecimal digits. -/
def text (identity : Identity) : String :=
  let digits := Nat.toDigits 16 identity.word.toNat
  String.ofList (List.replicate (16 - digits.length) '0' ++ digits)

end Identity

end PropertyAssignment
