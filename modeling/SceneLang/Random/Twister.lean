import SceneLang.Random.Digest

/-!
# The random number generator

A Mersenne Twister with 32-bit words and a state of 624 of them.  `Twister.ofKey` mixes a key of
words into the state, `Twister.next` draws a word, and `Twister.draw` combines two words into a
double of 53 random bits in `[0, 1)`.  `Twister.ofSeed` seeds it from a number of a script through
that number's residue modulo the Mersenne prime `2⁶¹ - 1`, and `Twister.ofText` from a text through
its digest.

Everything is a pure function of the state, so equal seeds give equal draws.
-/

namespace SceneLang.Random

/-- The number of words of the state. -/
def size : Nat := 624

/-- The distance from a word to the one mixed into it. -/
def shift : Nat := 397

/-- **The generator**: its words and how many of them the current round has given out. -/
structure Twister where
  words : Array UInt32
  used : Nat
  deriving DecidableEq, Inhabited

/-- The word at an index. -/
def word (ws : Array UInt32) (i : Nat) : UInt32 := ws.getD i 0

/-- The state words that follow from a single word. -/
def spread (seed : UInt32) : Array UInt32 :=
  (List.range (size - 1)).foldl
    (fun ws i =>
      let last := word ws i
      ws.push ((1812433253 : UInt32) * (last ^^^ (last >>> 30)) + UInt32.ofNat (i + 1)))
    #[seed]

/-- Mix the word before index `i` into the word at `i`, and add `extra`.  The last word also stands
in for the first, which precedes index 1. -/
def mixAt (factor extra : UInt32) (i : Nat) (ws : Array UInt32) : Array UInt32 :=
  let before := word ws (i - 1)
  let mixed := word ws i ^^^ ((before ^^^ (before >>> 30)) * factor)
  let ws := ws.set! i (mixed + extra)
  if i = size - 1 then ws.set! 0 (word ws (size - 1)) else ws

/-- One mixing pass: `count` steps over the indices 1 to 623 and around, starting at `start`; step
`k` at index `i` adds `extra i k`. -/
def mix (factor : UInt32) (extra : Nat → Nat → UInt32) (start count : Nat) (ws : Array UInt32) :
    Array UInt32 :=
  (List.range count).foldl
    (fun ws k =>
      let i := 1 + (start - 1 + k) % (size - 1)
      mixAt factor (extra i k) i ws)
    ws

/-- **The generator of a key** of 32-bit words. -/
def Twister.ofKey (key : Array UInt32) : Twister :=
  let count := max size key.size
  let first := mix 1664525
    (fun _ k => word key (k % key.size) + UInt32.ofNat (k % key.size)) 1 count
    (spread 19650218)
  let start := 1 + count % (size - 1)
  let second := mix 1566083941 (fun i _ => 0 - UInt32.ofNat i) start (size - 1) first
  ⟨second.set! 0 0x80000000, size⟩

/-- The word that replaces word `i` at the start of a round. -/
def twisted (ws : Array UInt32) (i : Nat) : UInt32 :=
  let y := (word ws i &&& 0x80000000) ||| (word ws ((i + 1) % size) &&& 0x7FFFFFFF)
  word ws ((i + shift) % size) ^^^ (y >>> 1) ^^^ (if y &&& 1 = 0 then 0 else 0x9908B0DF)

/-- Replace all words, in order, so that later ones see the new values of earlier ones. -/
def renew (ws : Array UInt32) : Array UInt32 :=
  (List.range size).foldl (fun ws i => ws.set! i (twisted ws i)) ws

/-- The tempering of an output word. -/
def temper (y : UInt32) : UInt32 :=
  let y := y ^^^ (y >>> 11)
  let y := y ^^^ ((y <<< 7) &&& 0x9D2C5680)
  let y := y ^^^ ((y <<< 15) &&& 0xEFC60000)
  y ^^^ (y >>> 18)

/-- **Draw a word.** -/
def Twister.next (t : Twister) : UInt32 × Twister :=
  let t := if t.used < size then t else ⟨renew t.words, 0⟩
  (temper (word t.words t.used), ⟨t.words, t.used + 1⟩)

/-- **Draw a number in `[0, 1)`** with 53 random bits. -/
def Twister.draw (t : Twister) : Float × Twister :=
  let (a, t) := t.next
  let (b, t) := t.next
  let bits := (a >>> 5).toNat * Decimal.twoTo 26 + (b >>> 6).toNat
  (Decimal.nearest false bits (Decimal.twoTo 53), t)

/-! ### Seeds -/

/-- The prime `2⁶¹ - 1`. -/
def modulus : Nat := Decimal.twoTo 61 - 1

/-- **The seed value of a number**: its residue modulo `2⁶¹ - 1`, where `2 ^ 61` counts as one, so
that a power of two depends on the exponent modulo 61 only.  The sign is kept, minus one is taken
by minus two, and an infinity has a value of its own.  What is not a number has no residue and is
taken by zero. -/
def seedValue (x : Float) : Int :=
  match Decimal.view x with
  -- zero is the hash of NaN in version 3.9 of the runtime, the least that a program can run on;
  -- from version 3.10 on it depends on the identity of the object, which a number has none of here
  | .nan => 0
  | .infinite negative => if negative then -314159 else 314159
  | .finite negative m e =>
    let residue : Int := (m * Decimal.twoTo (e % 61).toNat % modulus : Nat)
    let signed := if negative then -residue else residue
    if signed = -1 then -2 else signed

/-- The 32-bit words of a natural number, least first; zero is one word. -/
def keyWords (n : Nat) : Array UInt32 :=
  ((List.range (n.log2 / 32 + 1)).map fun i => UInt32.ofNat (n / Decimal.twoTo (32 * i))).toArray

/-- **The generator seeded by a number of a script.** -/
def Twister.ofSeed (x : Float) : Twister :=
  Twister.ofKey (keyWords (seedValue x % Decimal.twoTo 64).toNat)

/-- **The generator seeded by a text**: the key is the number that the bytes of the text and of their
digest write. -/
def Twister.ofText (text : String) : Twister :=
  let bytes := text.toUTF8.toList.map UInt8.toNat
  Twister.ofKey (keyWords (ofBytes (bytes ++ digest bytes)))

/-- The generator at the start of an evaluation. -/
def Twister.initial : Twister := Twister.ofKey #[0]

end SceneLang.Random
