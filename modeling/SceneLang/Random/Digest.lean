import SceneLang.Decimal.Binary

/-!
# Digests

`digest` condenses bytes into 64 bytes by SHA-512: the bytes are padded to blocks of 128, and each
block in turn is mixed into a state of eight 64-bit words.  The constants are not listed but
computed: they are leading bits of the fractional parts of square and cube roots of small primes.
-/

namespace SceneLang.Random

/-! ### Constants -/

/-- Whether a number is prime, by trial division. -/
def isPrime (n : Nat) : Bool := 2 ≤ n && (List.range n).all fun d => d < 2 || n % d != 0

/-- The first eighty primes. -/
def primes : List Nat := (List.range 410).filter isPrime

/-- The greatest of the `2 ^ bits` numbers from `base` on that `holds`, where `holds` is true up to
some number and false after it. -/
def greatestBelow (holds : Nat → Bool) : Nat → Nat → Nat
  | 0, base => base
  | bit + 1, base =>
    let next := base + Decimal.twoTo bit
    greatestBelow holds bit (if holds next then next else base)

/-- The first 64 bits of the fractional part of the square root of a prime. -/
def squareRootBits (p : Nat) : UInt64 :=
  UInt64.ofNat (greatestBelow (fun r => r * r ≤ p * Decimal.twoTo 128) 72 0)

/-- The first 64 bits of the fractional part of the cube root of a prime. -/
def cubeRootBits (p : Nat) : UInt64 :=
  UInt64.ofNat (greatestBelow (fun r => r * r * r ≤ p * Decimal.twoTo 192) 72 0)

/-- The constants of the eighty rounds. -/
def roundConstants : List UInt64 := primes.map cubeRootBits

/-! ### Blocks -/

/-- The bits of a word moved to the right, those that fall out coming back at the left. -/
def rotateRight (x : UInt64) (n : UInt64) : UInt64 := (x >>> n) ||| (x <<< (64 - n))

/-- **The state of a digest**: eight words. -/
structure DigestState where
  a : UInt64
  b : UInt64
  c : UInt64
  d : UInt64
  e : UInt64
  f : UInt64
  g : UInt64
  h : UInt64
  deriving DecidableEq, Inhabited

namespace DigestState

/-- The state of the digest of nothing, from the first eight primes. -/
def initial : DigestState where
  a := squareRootBits 2
  b := squareRootBits 3
  c := squareRootBits 5
  d := squareRootBits 7
  e := squareRootBits 11
  f := squareRootBits 13
  g := squareRootBits 17
  h := squareRootBits 19

/-- The words in order. -/
def toList (s : DigestState) : List UInt64 := [s.a, s.b, s.c, s.d, s.e, s.f, s.g, s.h]

/-- The sums of corresponding words. -/
def add (s t : DigestState) : DigestState :=
  ⟨s.a + t.a, s.b + t.b, s.c + t.c, s.d + t.d, s.e + t.e, s.f + t.f, s.g + t.g, s.h + t.h⟩

/-- One round, with the sum of its constant and its word of the schedule. -/
def round (s : DigestState) (input : UInt64) : DigestState :=
  let mixedE := rotateRight s.e 14 ^^^ rotateRight s.e 18 ^^^ rotateRight s.e 41
  let choice := (s.e &&& s.f) ^^^ ((s.e ^^^ 0xFFFFFFFFFFFFFFFF) &&& s.g)
  let first := s.h + mixedE + choice + input
  let mixedA := rotateRight s.a 28 ^^^ rotateRight s.a 34 ^^^ rotateRight s.a 39
  let majority := (s.a &&& s.b) ^^^ (s.a &&& s.c) ^^^ (s.b &&& s.c)
  ⟨first + mixedA + majority, s.a, s.b, s.c, s.d + first, s.e, s.f, s.g⟩

end DigestState

/-- The word that follows sixteen words of the schedule. -/
def nextWord (ws : Array UInt64) : UInt64 :=
  let back (n : Nat) := ws.getD (ws.size - n) 0
  let x := back 15
  let y := back 2
  (rotateRight y 19 ^^^ rotateRight y 61 ^^^ (y >>> 6)) + back 7
    + (rotateRight x 1 ^^^ rotateRight x 8 ^^^ (x >>> 7)) + back 16

/-- The eighty words of the schedule of a block of sixteen. -/
def schedule (block : List UInt64) : List UInt64 :=
  ((List.range 64).foldl (fun ws _ => ws.push (nextWord ws)) block.toArray).toList

/-- Mix a block into the state. -/
def DigestState.absorb (s : DigestState) (block : List UInt64) : DigestState :=
  s.add ((List.zipWith (· + ·) roundConstants (schedule block)).foldl DigestState.round s)

/-! ### Bytes -/

/-- The number that bytes write, the highest first. -/
def ofBytes (bytes : List Nat) : Nat := bytes.foldl (fun n b => n * 256 + b) 0

/-- The lowest `count` bytes of a number, the highest first. -/
def toBytes (count n : Nat) : List Nat :=
  (List.range count).reverse.map fun i => n / Decimal.twoTo (8 * i) % 256

/-- Bytes filled up to whole blocks: a mark, zeros, and the number of bits in 16 bytes. -/
def padded (bytes : List Nat) : List Nat :=
  let zeros := (239 - bytes.length % 128) % 128
  bytes ++ [0x80] ++ List.replicate zeros 0 ++ toBytes 16 (8 * bytes.length)

/-- The words of bytes, `count` of them. -/
def wordsOf : Nat → List Nat → List UInt64
  | 0, _ => []
  | count + 1, bytes => UInt64.ofNat (ofBytes (bytes.take 8)) :: wordsOf count (bytes.drop 8)

/-- Mix `count` blocks of bytes into the state. -/
def absorbAll : Nat → List Nat → DigestState → DigestState
  | 0, _, s => s
  | count + 1, bytes, s => absorbAll count (bytes.drop 128) (s.absorb (wordsOf 16 bytes))

/-- **The digest of bytes**, 64 bytes. -/
def digest (bytes : List Nat) : List Nat :=
  let whole := padded bytes
  let final := absorbAll (whole.length / 128) whole DigestState.initial
  final.toList.flatMap fun w => toBytes 8 w.toNat

end SceneLang.Random
