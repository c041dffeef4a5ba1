import SceneLang.Decimal.Binary

/-!
# Decimal digits of a double

Two ways to choose the decimal digits of a positive binary fraction.

* `shortest` takes the fewest digits that still read back as the same double and, of those, the
  nearest to it.  The reals that round to a double form an interval around it, its ends included
  exactly when the significand is even; on each decimal grid it is enough to try the two neighbours
  of the value, because a grid point of the interval never lies beyond both.
* `significant` rounds to a given number of digits, a tie going to the even last digit.

Both give a `Digits`, the value `coefficient · 10 ^ exponent`.
-/

namespace SceneLang.Decimal

/-- The decimal number `coefficient · 10 ^ exponent`. -/
structure Digits where
  coefficient : Nat
  exponent : Int
  deriving Repr, DecidableEq

/-- Drop the trailing zeros of a coefficient; `fuel` bounds how many. -/
def Digits.trimmed (fuel : Nat) (d : Digits) : Digits :=
  match fuel with
  | 0 => d
  | fuel + 1 =>
    if d.coefficient ≠ 0 ∧ d.coefficient % 10 = 0 then
      Digits.trimmed fuel ⟨d.coefficient / 10, d.exponent + 1⟩
    else d

/-- `n · 10 ^ e` as a quotient of natural numbers. -/
def scaleTen (n : Nat) (e : Int) : Nat × Nat :=
  if 0 ≤ e then (n * tenTo e.toNat, 1) else (n, tenTo (-e).toNat)

/-- Raise `p` until `num / den < 10 ^ p`; `fuel` bounds the steps. -/
def raisePlace (num den : Nat) : Nat → Int → Int
  | 0, p => p
  | fuel + 1, p =>
    let (n, d) := scaleTen num (-p)
    if n < d * den then p else raisePlace num den fuel (p + 1)

/-- **The number of digits before the point**: the `p` with `10 ^ (p - 1) ≤ num / den < 10 ^ p`,
for positive `num` and `den`.  The search starts from a lower bound taken from the binary
logarithm (`30102 / 100000` is just below the decimal logarithm of two). -/
def placeOf (num den : Nat) : Int :=
  let binary : Int := (num.log2 : Int) - den.log2 - 1
  let start := Int.fdiv (binary * (if 0 ≤ binary then 30102 else 30104)) 100000
  raisePlace num den 8 start

/-- The interval of reals that read back as `mantissa · 2 ^ exponent`, with the value itself, all
three over one denominator. -/
structure Interval where
  low : Nat
  value : Nat
  high : Nat
  denominator : Nat
  /-- The ends belong to the interval exactly when the significand is even. -/
  closed : Bool

/-- The interval of a positive finite double.  Below a power of two the doubles are twice as
dense, so there the lower half of the interval is half as long. -/
def Interval.of (mantissa : Nat) (exponent : Int) : Interval :=
  let below := if mantissa = twoTo fractionBits ∧ leastExponent < exponent then 1 else 2
  let (unit, denominator) := scaleTwo 1 (exponent - 2)
  { low := (4 * mantissa - below) * unit
    value := 4 * mantissa * unit
    high := (4 * mantissa + 2) * unit
    denominator
    closed := mantissa % 2 = 0 }

/-- Whether `d` lies in the interval. -/
def Interval.contains (i : Interval) (d : Digits) : Bool :=
  let (n, m) := scaleTen d.coefficient d.exponent
  let point := n * i.denominator
  if i.closed then i.low * m ≤ point ∧ point ≤ i.high * m
  else i.low * m < point ∧ point < i.high * m

/-- The neighbour of the value on the grid of the given exponent that reads back, the nearer one if
both do (a tie going to the even digit). -/
def Interval.onGrid? (i : Interval) (exponent : Int) : Option Digits :=
  let (n, d) := scaleTen i.value (-exponent)
  let den := d * i.denominator
  let under := n / den
  let down : Digits := ⟨under, exponent⟩
  let up : Digits := ⟨under + 1, exponent⟩
  match i.contains down, i.contains up with
  | true, true => some (if roundDiv n den = under then down else up)
  | true, false => some down
  | false, true => some up
  | false, false => none

/-- Try the grids of `size`, `size + 1`, … digits, `fuel` of them; the last resort is the grid
after those. -/
def Interval.shortestFrom (i : Interval) (place : Int) : Nat → Nat → Digits
  | 0, size =>
    let (n, d) := scaleTen i.value (size - place)
    ⟨roundDiv n (d * i.denominator), place - size⟩
  | fuel + 1, size =>
    match i.onGrid? (place - size) with
    | some d => d
    | none => Interval.shortestFrom i place fuel (size + 1)

/-- **The shortest digits that read back** as the positive double `mantissa · 2 ^ exponent`.
Seventeen digits always do. -/
def shortest (mantissa : Nat) (exponent : Int) : Digits :=
  let i := Interval.of mantissa exponent
  (i.shortestFrom (placeOf i.value i.denominator) 16 1).trimmed 20

/-- **Rounding to `size` significant digits** of the positive value `mantissa · 2 ^ exponent`, a
tie going to the even last digit. -/
def significant (size : Nat) (mantissa : Nat) (exponent : Int) : Digits :=
  let (num, den) := scaleTwo mantissa exponent
  let last := placeOf num den - size
  let (n, d) := scaleTen num (-last)
  (Digits.mk (roundDiv n (d * den)) last).trimmed 20

/-- **A double rounded to `size` significant decimal digits** and read back; infinities and NaN
stay. -/
def roundSignificant (size : Nat) (x : Float) : Float :=
  match view x with
  | .finite negative m e =>
    if m = 0 then x
    else
      let d := significant size m e
      ofDecimal negative d.coefficient d.exponent
  | _ => x

end SceneLang.Decimal
