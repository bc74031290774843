/-!
# A seeded 64-bit digest of bytes

This is the function xxHash64. The input is read as 64-bit lanes in little-endian order. Whole
stripes of four lanes go to four accumulators, which are then merged; what is left over is mixed
in lane by lane, then four bytes at once, then byte by byte; a last step spreads every bit. An
input shorter than one stripe skips the accumulators. All arithmetic is modulo `2 ^ 64`.
-/

namespace PropertyAssignment.Digest

/-- The first of the five odd constants of the digest; all but the fourth are multipliers. -/
def prime1 : UInt64 := 0x9E3779B185EBCA87

def prime2 : UInt64 := 0xC2B2AE3D27D4EB4F

def prime3 : UInt64 := 0x165667B19E3779F9

def prime4 : UInt64 := 0x85EBCA77C2B2AE63

def prime5 : UInt64 := 0x27D4EB2F165667C5

/-- The word turned left by `count` bits, for a count between 1 and 63. -/
def rotateLeft (word count : UInt64) : UInt64 :=
  (word <<< count) ||| (word >>> (64 - count))

/-- The number whose base-256 digits, least significant first, are the bytes. -/
def littleEndian : List UInt8 → UInt64
  | [] => 0
  | b :: bs => b.toUInt64 + 256 * littleEndian bs

def toLittleEndian (word : UInt64) : List UInt8 :=
  (List.range 8).map fun i => (word >>> (8 * i.toUInt64)).toUInt8

/-- The whole 64-bit lanes of the input and the at most seven bytes after them. -/
def lanes : List UInt8 → List UInt64 × List UInt8
  | a :: b :: c :: d :: e :: f :: g :: h :: rest =>
    let (words, tail) := lanes rest
    (littleEndian [a, b, c, d, e, f, g, h] :: words, tail)
  | tail => ([], tail)

def absorb (accumulator lane : UInt64) : UInt64 :=
  rotateLeft (accumulator + lane * prime2) 31 * prime1

/-- The four accumulators that the stripes feed. -/
structure Accumulators where
  first : UInt64
  second : UInt64
  third : UInt64
  fourth : UInt64
deriving DecidableEq, Repr

def Accumulators.start (seed : UInt64) : Accumulators where
  first := seed + prime1 + prime2
  second := seed + prime2
  third := seed
  fourth := seed - prime1

/-- Feed all whole stripes of four lanes; the at most three lanes after them are returned too. -/
def Accumulators.feed (acc : Accumulators) : List UInt64 → Accumulators × List UInt64
  | a :: b :: c :: d :: rest =>
    Accumulators.feed
      ⟨absorb acc.first a, absorb acc.second b, absorb acc.third c, absorb acc.fourth d⟩ rest
  | tail => (acc, tail)

def mergeOne (state accumulator : UInt64) : UInt64 :=
  (state ^^^ absorb 0 accumulator) * prime1 + prime4

def Accumulators.merged (acc : Accumulators) : UInt64 :=
  let sum := rotateLeft acc.first 1 + rotateLeft acc.second 7 + rotateLeft acc.third 12 +
    rotateLeft acc.fourth 18
  mergeOne (mergeOne (mergeOne (mergeOne sum acc.first) acc.second) acc.third) acc.fourth

/-- Mix in a lane that belongs to no stripe. -/
def mixLane (state lane : UInt64) : UInt64 :=
  rotateLeft (state ^^^ absorb 0 lane) 27 * prime1 + prime4

def mixByte (state : UInt64) (byte : UInt8) : UInt64 :=
  rotateLeft (state ^^^ (byte.toUInt64 * prime5)) 11 * prime1

/-- Mix in the bytes after the last lane: four at once if there are so many, then one by one. -/
def mixTail (state : UInt64) : List UInt8 → UInt64
  | a :: b :: c :: d :: rest =>
    let half := rotateLeft (state ^^^ (littleEndian [a, b, c, d] * prime1)) 23 * prime2 + prime3
    rest.foldl mixByte half
  | rest => rest.foldl mixByte state

/-- Spread every bit of the state over the whole word. -/
def avalanche (state : UInt64) : UInt64 :=
  let state := (state ^^^ (state >>> 33)) * prime2
  let state := (state ^^^ (state >>> 29)) * prime3
  state ^^^ (state >>> 32)

def ofBytes (seed : UInt64) (bytes : List UInt8) : UInt64 :=
  let (words, tail) := lanes bytes
  let (acc, leftover) := (Accumulators.start seed).feed words
  let state := if bytes.length < 32 then seed + prime5 else acc.merged
  let state := state + bytes.length.toUInt64
  avalanche (mixTail (leftover.foldl mixLane state) tail)

def ofText (seed : UInt64) (text : String) : UInt64 :=
  ofBytes seed (text.toList.flatMap String.utf8EncodeChar)

end PropertyAssignment.Digest
