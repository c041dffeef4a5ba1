/-!
# Doubles as exact binary fractions

A finite double is a whole number times a power of two.  `view` takes a `Float` apart into that
fraction, and `nearest` is the way back from any quotient of natural numbers: the double closest to
`num / den`, a tie going to the even significand, with gradual underflow below `2⁻¹⁰²²` and infinity
once the quotient rounds past the largest finite double.

Everything is exact arithmetic on `Nat` and `Int`; the only steps that leave it are `Float.toBits`
and `Float.ofBits`.
-/

namespace SceneLang.Decimal

/-- **A double, taken apart**: not a number, an infinity, or `± mantissa · 2 ^ exponent`. -/
inductive View where
  | nan
  | infinite (negative : Bool)
  | finite (negative : Bool) (mantissa : Nat) (exponent : Int)
  deriving Repr, DecidableEq

/-- The weight of the lowest bit of a subnormal double is `2 ^ leastExponent`. -/
def leastExponent : Int := -1074

/-- A power of two. -/
def twoTo (n : Nat) : Nat := Nat.pow 2 n

/-- A power of ten. -/
def tenTo (n : Nat) : Nat := Nat.pow 10 n

/-- A normal double has a significand of `fractionBits + 1` bits, the top one implicit. -/
def fractionBits : Nat := 52

/-- **The parts of a double.**  A subnormal keeps the least exponent and has no implicit bit. -/
def view (x : Float) : View :=
  let bits := x.toBits.toNat
  let negative := bits / twoTo 63 == 1
  let biased := bits / twoTo fractionBits % twoTo 11
  let fraction := bits % twoTo fractionBits
  if biased = 0x7FF then
    if fraction = 0 then .infinite negative else .nan
  else if biased = 0 then
    .finite negative fraction leastExponent
  else
    .finite negative (fraction + twoTo fractionBits) (leastExponent + (biased - 1 : Nat))

/-- `n · 2 ^ e` as a quotient of natural numbers. -/
def scaleTwo (n : Nat) (e : Int) : Nat × Nat :=
  if 0 ≤ e then (n * twoTo e.toNat, 1) else (n, twoTo (-e).toNat)

/-- **Division to the nearest whole number**, a tie going to the even one. -/
def roundDiv (num den : Nat) : Nat :=
  let q := num / den
  let r := num % den
  if den < 2 * r ∨ (2 * r = den ∧ q % 2 = 1) then q + 1 else q

/-- The double with the given sign whose remaining 63 bits are `bits`, or the infinity of that
sign when `bits` lies beyond the last finite double. -/
def ofMagnitude (negative : Bool) (bits : Nat) : Float :=
  let capped := min bits (0x7FF * twoTo fractionBits)
  Float.ofBits (UInt64.ofNat (capped + if negative then twoTo 63 else 0))

/-- The exponent of the last place of a double near `num / den`, for positive `num` and `den`:
the one that leaves a quotient of 53 bits, but never below the subnormal one. -/
def lastPlace (num den : Nat) : Int :=
  let guess : Int := (num.log2 : Int) - den.log2 - (fractionBits + 1)
  let (n, d) := scaleTwo num (-guess)
  let exact := if twoTo (fractionBits + 1) ≤ n / (d * den) then guess + 1 else guess
  max exact leastExponent

/-- **The double nearest to `num / den`**, a tie going to the even significand. -/
def nearest (negative : Bool) (num den : Nat) : Float :=
  if num = 0 ∨ den = 0 then ofMagnitude negative 0
  else
    let place := lastPlace num den
    let (n, d) := scaleTwo num (-place)
    -- a significand that rounds up to the next power of two carries into the exponent field
    ofMagnitude negative ((place - leastExponent).toNat * twoTo fractionBits + roundDiv n (d * den))

/-- **The double nearest to a whole number.** -/
def ofInt (n : Int) : Float :=
  nearest (n < 0) n.natAbs 1

/-- **The double nearest to `± digits · 10 ^ exponent`.**  Exponents far outside the range of a
double are settled without computing the power. -/
def ofDecimal (negative : Bool) (digits : Nat) (exponent : Int) : Float :=
  if digits = 0 then ofMagnitude negative 0
  else if 400 < exponent then ofMagnitude negative (0x7FF * twoTo fractionBits)
  else if exponent + digits.log2 < -400 then ofMagnitude negative 0
  else if 0 ≤ exponent then nearest negative (digits * tenTo exponent.toNat) 1
  else nearest negative digits (tenTo (-exponent).toNat)

/-- The whole part of a finite double, cut toward zero; `none` for an infinity and for NaN. -/
def truncate? (x : Float) : Option Int :=
  match view x with
  | .finite negative m e =>
    let (n, d) := scaleTwo m e
    let whole : Int := (n / d : Nat)
    some (if negative then -whole else whole)
  | _ => none

/-- Whether a double is a whole number. -/
def isWhole (x : Float) : Bool :=
  match view x with
  | .finite _ m e =>
    let (n, d) := scaleTwo m e
    n % d == 0
  | _ => false

/-- Whether a double is neither an infinity nor NaN. -/
def isFinite (x : Float) : Bool :=
  match view x with
  | .finite .. => true
  | _ => false

end SceneLang.Decimal
