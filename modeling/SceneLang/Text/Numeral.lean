import SceneLang.Text.Blank
import SceneLang.Text.Digit
import SceneLang.Text.Lowercase
import SceneLang.Decimal.Binary

/-!
# Numbers written as text

`readDouble?` reads a decimal fraction with an optional exponent, or the name of an infinity or of
NaN; `readWhole?` reads a whole number in base ten or sixteen.  Both allow blanks around the number,
a sign, digits of any script, and a single underscore between two digits.
-/

namespace SceneLang.Text

/-- The rest of a run of digits: further digits, each after at most one underscore, and what
follows the run.  An underscore that no digit follows ends the run in front of it. -/
def moreDigits (value? : Char → Option Nat) : List Char → List Nat × List Char
  | '_' :: c :: rest =>
    match value? c with
    | some d =>
      let (ds, tail) := moreDigits value? rest
      (d :: ds, tail)
    | none => ([], '_' :: c :: rest)
  | c :: rest =>
    match value? c with
    | some d =>
      let (ds, tail) := moreDigits value? rest
      (d :: ds, tail)
    | none => ([], c :: rest)
  | [] => ([], [])

/-- A run of digits with single underscores between them: the values of the digits and what
follows. -/
def takeDigits (value? : Char → Option Nat) : List Char → List Nat × List Char
  | [] => ([], [])
  | c :: rest =>
    match value? c with
    | some d =>
      let (ds, tail) := moreDigits value? rest
      (d :: ds, tail)
    | none => ([], c :: rest)

/-- The number with the given digits, most significant first. -/
def ofDigits (base : Nat) (ds : List Nat) : Nat :=
  ds.foldl (fun n d => n * base + d) 0

/-- An optional sign; `true` is a minus. -/
def takeSign : List Char → Bool × List Char
  | '-' :: rest => (true, rest)
  | '+' :: rest => (false, rest)
  | s => (false, s)

/-- The exponent part of a decimal number; no part at all is the exponent zero. -/
def readExponent? : List Char → Option Int
  | [] => some 0
  | e :: rest =>
    if e = 'e' ∨ e = 'E' then
      let (negative, rest) := takeSign rest
      match takeDigits digitValue? rest with
      | ([], _) => none
      | (ds, []) =>
        let n : Int := ofDigits 10 ds
        some (if negative then -n else n)
      | _ => none
    else none

/-- A decimal number without sign. -/
def readMagnitude? (negative : Bool) (s : List Char) : Option Float :=
  let (whole, rest) := takeDigits digitValue? s
  let (fraction, rest) := match rest with
    | '.' :: rest => takeDigits digitValue? rest
    | rest => ([], rest)
  if whole.isEmpty && fraction.isEmpty then none
  else
    (readExponent? rest).map fun exponent =>
      Decimal.ofDecimal negative (ofDigits 10 (whole ++ fraction)) (exponent - fraction.length)

/-- **A double written as text.** -/
def readDouble? (text : String) : Option Float :=
  let (negative, s) := takeSign (trim isMargin text.toList)
  let word := s.map lowerChar
  if word = "nan".toList then some (0.0 / 0.0)
  else if word = "inf".toList ∨ word = "infinity".toList then
    some (if negative then -(1.0 / 0.0) else 1.0 / 0.0)
  else readMagnitude? negative s

/-- A whole number in the given digits, nothing after it. -/
def readDigits? (base : Nat) (value? : Char → Option Nat) (s : List Char) : Option Nat :=
  match takeDigits value? s with
  | ([], _) => none
  | (ds, []) => some (ofDigits base ds)
  | _ => none

/-- **A whole number written in base ten.** -/
def readWhole? (text : String) : Option Int :=
  let (negative, s) := takeSign (trim isMargin text.toList)
  (readDigits? 10 digitValue? s).map fun n => if negative then -(n : Int) else n

/-- **A whole number written in base sixteen**, with or without the mark `0x`, which an underscore
may follow. -/
def readHex? (text : String) : Option Int :=
  let (negative, s) := takeSign (trim isMargin text.toList)
  let digits := match s with
    | '0' :: x :: '_' :: rest => if x = 'x' ∨ x = 'X' then rest else s
    | '0' :: x :: rest => if x = 'x' ∨ x = 'X' then rest else s
    | s => s
  (readDigits? 16 hexValue? digits).map fun n => if negative then -(n : Int) else n

end SceneLang.Text
