import SceneLang.Evaluation.State

/-!
# What commands do

Most commands compute a value from their argument.  `seed` and `rnd` act on the random numbers,
`print` tells the host, and `translate`, `rotate` and `scale` change where the children of the active
scope are put from now on.

A script can only pass arguments of the kind that a command asks for.  A tool can pass any value: a
text stands for the number it spells or for the row of its characters, a range for the row of its
items, and what cannot be used at all is a fault.
-/

namespace SceneLang

/-! ### Rounding -/

/-- The whole number nearest to a double, halves away from zero; an infinity and NaN have none. -/
def nearestWhole? (x : Float) : Option Int :=
  (Decimal.truncate? x.abs).map fun whole =>
    let nearest := if x.abs - Decimal.ofInt whole >= 0.5 then whole + 1 else whole
    if x >= 0 then nearest else -nearest

/-- **Round to a whole number**, halves away from zero. -/
def roundHalfAway (x : Float) : Float :=
  match nearestWhole? x with
  | some n => Decimal.ofInt n
  | none => x

/-- **Round to a count**; an infinity and NaN count as zero. -/
def countOf (x : Float) : Int := (nearestWhole? x).getD 0

/-! ### Commands of numbers -/

/-- **The value of a function of one number.** -/
def NumberFunction.apply : NumberFunction → Float → Float
  | .round => roundHalfAway
  | .floor => Float.floor
  | .ceil => Float.ceil
  | .abs => Float.abs
  | .sqrt => Float.sqrt
  | .sin => Float.sin
  | .cos => Float.cos
  | .tan => Float.tan
  | .asin => Float.asin
  | .acos => Float.acos
  | .atan => Float.atan

/-! ### Arguments of any kind -/

/-- **A value read as a number.**  A text has to spell one; a missing text or image is NaN. -/
def Value.toDouble : Value → Except Fault Float
  | .number x => .ok x
  | .string (some text) =>
    match Text.readDouble? text with
    | some x => .ok x
    | none => .error (.invalid (.notNumber text))
  | .string none | .texture none => .ok (0.0 / 0.0)
  | _ => .error .wrongKind

/-- Whether a value counts as missing: zero, and everything that is empty. -/
def Value.isMissing : Value → Bool
  | .number x => x == 0
  | .string text => text.getD "" = ""
  | .texture t => t.isNone
  | .tuple vs => vs.isEmpty
  | _ => false

/-- **The parts of a value in a row**: the elements of a tuple, or something less than a value, a
character of a text or a number of a range.  Of a range three parts are enough. -/
def Value.parts : Value → Except Fault (List (Option Value))
  | .tuple vs => .ok (vs.map some)
  | .string (some text) => .ok (text.toList.map fun _ => none)
  | .range r => .ok ((r.items 3).map fun _ => none)
  | _ => .error .wrongKind

/-- The parts of a value, which have to be values themselves. -/
def Value.wholeParts (v : Value) : Except Fault (List Value) := do
  match (← v.parts).mapM id with
  | some vs => return vs
  | none => throw .noSuchField

/-- The two values of a pair. -/
def pairOf (v : Value) : Except Fault (Value × Value) := do
  match ← v.parts with
  | [some x, some y] => return (x, y)
  | [_, _] => throw .noSuchField
  | parts => throw (.invalid (.notPair parts.length))

/-- The three components of a vector or a size. -/
def Value.triple : Value → Except Fault (Vec3 Float)
  | .vector v | .size v => .ok v
  | _ => .error .noSuchField

/-! ### Commands of rows -/

/-- The angle of a point, from its height and its distance to the side. -/
def angleOf : Value × Value → Except Fault Float
  | (.number y, .number x) => .ok (Float.atan2 y x)
  | _ => .error .wrongKind

/-- A power. -/
def powerOf (v : Value × Value) : Except Fault Float := do
  let base ← v.1.toDouble
  let exponent ← v.2.toDouble
  return Float.pow base exponent

/-- The numbers of a row, from position `i` on. -/
def rowNumbers (command : String) : Nat → List (Option Value) → Except Exit (List Float)
  | _, [] => .ok []
  | _, none :: _ => .error (.fault .noSuchField)
  | i, some (.number x) :: rest => do
    let xs ← rowNumbers command (i + 1) rest
    return x :: xs
  | i, some v :: _ => .error (.unplaced (.typeMismatch command i "number" v.kind.description))

/-- **The best of the numbers of a row**, where `pick` chooses between two. -/
def bestOf (command : String) (pick : Float → Float → Float) (v : Value) : Except Exit Float := do
  match ← rowNumbers command 0 (← v.parts.mapError .fault) with
  | [] => throw (.fault (.invalid (.noNumbers command)))
  | x :: rest => return rest.foldl pick x

/-- The text of an assertion. -/
def assertionText : List (Option Value) → Except Exit String
  | [] => .ok ""
  | some (.string s) :: _ => .ok (s.getD "")
  | some v :: _ => .error (.unplaced (.typeMismatch "assert" 1 "string" v.kind.description))
  | none :: _ => .error (.fault .noSuchField)

/-- **An assertion**: a number that is not zero, and a text for when it is. -/
def checkAssertion (v : Value) : Except Exit Unit := do
  match ← v.parts.mapError .fault with
  | [] => throw (.unplaced (.typeMismatch "assert" 0 "number" "void"))
  | some (.number x) :: rest =>
    let message ← assertionText rest
    if x == 0 then throw (.unplaced (.assertionFailure message))
  | some v :: _ => throw (.unplaced (.typeMismatch "assert" 0 "number" v.kind.description))
  | none :: _ => throw (.fault .noSuchField)

/-! ### All commands -/

/-- Stop because a value is not of the kind that is needed. -/
def Step.wrongKind {σ α : Type} : Step σ α := throw (.fault .wrongKind)

/-- The three components of a vector or a size. -/
def Step.triple {σ : Type} (v : Value) : Step σ (Vec3 Float) := Step.ofExcept v.triple

/-- Go on with other random numbers. -/
def Eval.reseed (random : Random.Twister) : Eval Value := do
  Eval.modifyWorld fun w => { w with random }
  return .void

/-- Draw a random number. -/
def Eval.draw : Eval Float := do
  let (x, random) := (← get).world.random.draw
  Eval.modifyWorld fun w => { w with random }
  return x

/-- Change where children are put from now on. -/
def Eval.moveChildren (f : Transform Float → Except Fault (Transform Float)) : Eval Value := do
  let t ← Step.ofExcept (f (← Eval.scope).childTransform)
  Eval.modifyScope fun s => { s with childTransform := t }
  return .void

/-- **Run a command** on its argument. -/
def Command.run (setting : Setting) (command : Command) (argument : Value) : Eval Value :=
  match command with
  | .function .round =>
    match argument with
    | .number x => return .number (roundHalfAway x)
    | _ => Step.wrongKind
  | .function f => return .number (f.apply (← Step.ofExcept argument.toDouble))
  | .atan2 => return .number (← Step.ofExcept (pairOf argument >>= angleOf))
  | .pow => return .number (← Step.ofExcept (pairOf argument >>= powerOf))
  | .min => return .number (← Step.ofExit (bestOf "min" Rotation.lesser argument))
  | .max => return .number (← Step.ofExit (bestOf "max" Rotation.greater argument))
  | .rnd => return .number (← Eval.draw)
  | .seed =>
    match argument with
    | .number x => Eval.reseed (Random.Twister.ofSeed x)
    | .string (some text) => Eval.reseed (Random.Twister.ofText text)
    -- without a seed the numbers go on as they are
    | .string none | .texture none => return .void
    | _ => Step.wrongKind
  | .print => do
    let values ← Step.ofExcept argument.wholeParts
    if setting.host.isSome then Eval.notify (.printed values)
    return .void
  | .assert => do
    Step.ofExit (checkAssertion argument)
    return .void
  | .translate => do
    let v ← Step.triple argument
    Eval.moveChildren (·.translated v)
  | .rotate => do
    let v ← Step.triple argument
    Eval.moveChildren fun t => do t.rotated (← Rotation.ofHalfTurns v.toList)
  | .scale => do
    let v ← Step.triple argument
    Eval.moveChildren fun t => .ok (t.scaled v)
  | .point => return .point { position := ← Step.triple argument }
  | .curve => return .point { position := ← Step.triple argument, isCurved := true }

end SceneLang
