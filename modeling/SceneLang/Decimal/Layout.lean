import SceneLang.Decimal.Digits

/-!
# Writing a double

`Layout` collects what a text format decides about numbers once the digits are chosen: where
positional notation ends, how an exponent looks, and the names of the values that are not finite.
`Layout.write` applies it to the shortest digits of a double.
-/

namespace SceneLang.Decimal

/-- **The decisions of a number format.** -/
structure Layout where
  /-- The least decimal exponent of a leading digit that is still written positionally. -/
  positionalFrom : Int
  /-- The first decimal exponent of a leading digit that no longer is. -/
  positionalUntil : Int
  /-- What follows the digits of a whole number in positional notation. -/
  wholeMark : String
  /-- An exponent has at least this many digits. -/
  exponentWidth : Nat
  nan : String
  infinity : String

/-- The digits of a natural number in base ten. -/
def digitsOf (n : Nat) : List Char := Nat.toDigits 10 n

/-- `n` zeros. -/
def zeros (n : Nat) : List Char := List.replicate n '0'

/-- Positional notation: the digits `ds` with the point after the first `point` of them. -/
def Layout.positional (l : Layout) (ds : List Char) (point : Int) : List Char :=
  if point ≤ 0 then '0' :: '.' :: (zeros (-point).toNat ++ ds)
  else if ds.length ≤ point.toNat then
    ds ++ zeros (point.toNat - ds.length) ++ l.wholeMark.toList
  else ds.take point.toNat ++ '.' :: ds.drop point.toNat

/-- Scientific notation, with a sign on every exponent. -/
def Layout.scientific (l : Layout) (ds : List Char) (exponent : Int) : List Char :=
  let fraction := match ds.drop 1 with
    | [] => []
    | rest => '.' :: rest
  let power := digitsOf exponent.natAbs
  ds.take 1 ++ fraction ++ 'e' :: (if exponent < 0 then '-' else '+') ::
    (zeros (l.exponentWidth - power.length) ++ power)

/-- The text of chosen digits. -/
def Layout.ofDigits (l : Layout) (d : Digits) : List Char :=
  let ds := digitsOf d.coefficient
  let leading := d.exponent + ds.length - 1
  if l.positionalFrom ≤ leading ∧ leading < l.positionalUntil then
    l.positional ds (leading + 1)
  else l.scientific ds leading

/-- **The text of a double**: its shortest digits, laid out; a zero keeps its sign. -/
def Layout.write (l : Layout) (x : Float) : String :=
  match view x with
  | .nan => l.nan
  | .infinite negative => if negative then "-" ++ l.infinity else l.infinity
  | .finite negative m e =>
    let digits := if m = 0 then ⟨0, 0⟩ else shortest m e
    String.ofList ((if negative then ['-'] else []) ++ l.ofDigits digits)

end SceneLang.Decimal
