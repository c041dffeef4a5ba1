import SceneLang.Fault
import SceneLang.Text.Numeral

/-!
# Numbers in documents

Where a document has to give a number it may also give a truth value, which counts as one or zero,
or a text that spells the number.
-/

namespace SceneLang.Json

/-- **A document read as a double.**  A whole number past the largest double is refused; a text too
large reads as an infinity. -/
def toDouble : Json → Except Fault Float
  | .bool b => .ok (if b then 1 else 0)
  | .int n =>
    let x := Decimal.ofInt n
    if Decimal.isFinite x then .ok x else .error .tooLarge
  | .float x => .ok x
  | .str s =>
    match Text.readDouble? s with
    | some x => .ok x
    | none => .error (.invalid (.notNumber s))
  | _ => .error .wrongKind

/-- Why a document is no whole number. -/
inductive WholeFault where
  | unusable
  | endless
  deriving Repr, DecidableEq

/-- **A document read as a whole number**; a fraction is cut toward zero. -/
def toWhole : Json → Except WholeFault Int
  | .bool b => .ok (if b then 1 else 0)
  | .int n => .ok n
  | .float x =>
    match Decimal.view x with
    | .infinite _ => .error .endless
    | _ =>
      match Decimal.truncate? x with
      | some n => .ok n
      | none => .error .unusable
  | .str s =>
    match Text.readWhole? s with
    | some n => .ok n
    | none => .error .unusable
  | _ => .error .unusable

/-- The doubles of a list of documents. -/
def toDoubles : List Json → Except Fault (List Float)
  | [] => .ok []
  | j :: rest => do
    let x ← j.toDouble
    let xs ← toDoubles rest
    return x :: xs

end SceneLang.Json
