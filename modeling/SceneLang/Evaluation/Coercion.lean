import SceneLang.Evaluation.State
import SceneLang.Host.Font

/-!
# Arguments

Scripts are free in how they write an argument: a colour can be three numbers, a tuple of numbers or
a name.  `Argument.coerce` turns the values of the parameters into one value of the kind that a
command asks for.  An error points at the parameter that is to blame.
-/

namespace SceneLang

/-- **An argument as it was written**, and what it is for. -/
structure Argument where
  /-- What the argument is for, in messages. -/
  name : String
  /-- The position of the first parameter. -/
  index : Int
  /-- The range of the whole argument. -/
  range : SourceRange
  parameters : List Expr
  deriving Inhabited

namespace Argument

/-- Stop with an error at the parameter at a position. -/
def raiseAt {α : Type} (a : Argument) (i : Nat) (cause : ErrorCause) : Except Exit α :=
  match a.parameters[i]? with
  | some p => .error (.raise cause p.sourceRange)
  | none => .error (.fault .outOfBounds)

/-- An expression without the parentheses around it. -/
def stripped : Expr → Expr
  | .sub _ inner => stripped inner
  | e => e

/-- The range of an element of a parameter that is a tuple, or of the parameter. -/
def elementRange (parameter : Expr) (index : Nat) : SourceRange :=
  match stripped parameter with
  | .tuple _ items =>
    match items[index]? with
    | some item => item.sourceRange
    | none => parameter.sourceRange
  | _ => parameter.sourceRange

/-- Whether a value is a tuple of numbers. -/
def isNumberTuple : Value → Bool
  | .tuple vs => (Value.numbers? vs).isSome
  | _ => false

/-! ### Numbers -/

/-- The numbers among values, counted from `i`; anything else is to blame on its parameter, or on
the last one. -/
def numbersFrom (a : Argument) (kind : Kind) : Nat → List Value → Except Exit (List Float)
  | _, [] => .ok []
  | i, v :: rest =>
    match v with
    | .number x => do
      let xs ← numbersFrom a kind (i + 1) rest
      return x :: xs
    | v =>
      let i := min (a.parameters.length - 1) i
      let expected := if i = 0 then kind else .number
      a.raiseAt i (.typeMismatch a.name (a.index + i) expected.description v.kind.description)

/-- There are at least `least` and at most `most` parameters. -/
def checkCount (a : Argument) (least most : Nat) : Except Exit Unit :=
  if most < a.parameters.length then a.raiseAt most (.unexpectedArgument a.name most)
  else if a.parameters.length < least then
    match a.parameters.getLast? with
    | some p => .error (.raise (.missingArgument a.name (least - 1 : Nat) "number")
        p.sourceRange.upperBound)
    | none => .error (.fault .outOfBounds)
  else .ok ()

/-- A single tuple stands for its elements, of which there are at most `most`. -/
def opened (a : Argument) (most : Nat) (values : List Value) : Except Exit (List Value) :=
  match values with
  | [.tuple elements] =>
    if most < elements.length then
      match a.parameters with
      | p :: _ => .error (.raise (.unexpectedArgument a.name most) (elementRange p most))
      | [] => .error (.fault .outOfBounds)
    else .ok elements
  | values => .ok values

/-- Nothing may follow a value that is an argument by itself. -/
def checkSingle (a : Argument) (kind : Kind) (values : List Value) : Except Exit Unit :=
  match values with
  | v :: next :: rest =>
    if v.kind = kind ∨ isNumberTuple v then
      if 1 < a.parameters.length then a.raiseAt 1 (.unexpectedArgument a.name 1)
      else
        let kinds := kind.description :: (next :: rest).map (·.kind.description)
        .error (.raise (.typeMismatch a.name a.index kind.description (", ".intercalate kinds))
          a.range)
    else .ok ()
  | _ => .ok ()

/-- **The numbers of an argument** of `least` to `most` numbers. -/
def numbers (a : Argument) (kind : Kind) (least most : Nat) (values : List Value) :
    Except Exit (List Float) := do
  a.checkCount least most
  let values ← a.opened most values
  a.checkSingle kind values
  a.numbersFrom kind 0 values

/-! ### Paths -/

/-- The paths among values and tuples of values, counted from `i`. -/
def pathsFrom (a : Argument) : Nat → List Value → Except Exit (List Value)
  | _, [] => .ok []
  | i, v :: rest =>
    if v.elements.all (·.kind = .path) then do
      let ps ← pathsFrom a (i + 1) rest
      return v.elements ++ ps
    else
      a.raiseAt i (.typeMismatch a.name (a.index + i) Kind.path.description v.kind.description)

/-! ### Coercion -/

/-- The error for values that do not fit at all. -/
def mismatch {α : Type} (a : Argument) (kind : Kind) (values : List Value) : Except Exit α :=
  match values with
  | [] => .error (.fault .outOfBounds)
  | v :: rest =>
    if rest ≠ [] ∧ 1 < a.parameters.length then a.raiseAt 1 (.unexpectedArgument a.name 1)
    else a.raiseAt 0 (.typeMismatch a.name a.index kind.description v.kind.description)

/-- The value of an argument that needs no reading: a single value of the right kind. -/
def asIs? (kind : Kind) : List Value → Option Value
  | [v] => if v.kind = kind then some v else none
  | _ => none

/-- **An argument as a colour**: a colour or up to four numbers. -/
def color (a : Argument) (values : List Value) : Except Exit Value :=
  match asIs? .color values with
  | some v => .ok v
  | none => do
    let xs ← a.numbers .color 1 4 values
    return .color (Color.unchecked xs)

/-- The name of a font that can be used. -/
def checkFont (setting : Setting) (name : String) : Except Exit String :=
  let name := normalizeFontName name
  match setting.host.bind Host.fontNames with
  | none => .ok name
  | some names =>
    if names.contains name then .ok name else .error (.unplaced (.unknownFont name names))

/-- **An argument as a font**: a text or a missing text. -/
def font (setting : Setting) (a : Argument) (values : List Value) : Except Exit Value :=
  match values with
  | [.string none] => .ok (.string none)
  | [.string (some name)] => (checkFont setting name).map (.string ∘ some)
  | values => a.mismatch .font values

/-- **An argument as a texture**: a texture or the path of an image. -/
def texture (setting : Setting) (a : Argument) (values : List Value) : Eval Value :=
  match values with
  | [.texture t] => return .texture t
  | [.string none] => return .texture none
  | [.string (some path)] => do
    let url ← setting.resolve path
    return .texture (some ⟨path, url⟩)
  | values => Step.ofExit (a.mismatch .texture values)

/-- **An argument as a colour or a texture**; the first value decides which. -/
def colorOrTexture (setting : Setting) (a : Argument) (values : List Value) : Eval Value :=
  match values with
  | [] => throw (.fault .outOfBounds)
  | v :: _ =>
    if v.kind = .string ∨ v.kind = .texture then a.texture setting values
    else Step.ofExit (a.color values)

/-- An argument with at least one parameter, as a value of a kind. -/
def read (setting : Setting) (a : Argument) (kind : Kind) (values : List Value) : Eval Value :=
  match kind with
  | .color => Step.ofExit (a.color values)
  | .vector => do
    return .vector (Vec3.ofComponents (← Step.ofExit (a.numbers .vector 1 3 values)))
  | .size => do
    return .size (Vec3.size (← Step.ofExit (a.numbers .size 1 3 values)))
  | .pair => do
    return .tuple ((← Step.ofExit (a.numbers .pair 2 2 values)).map .number)
  | .tuple => return .tuple values
  | .texture => a.texture setting values
  | .colorOrTexture => a.colorOrTexture setting values
  | .font => Step.ofExit (a.font setting values)
  | .paths => do
    return .tuple (← Step.ofExit (a.pathsFrom 0 values))
  | .void => Step.ofExit (a.raiseAt 0 (.unexpectedArgument a.name 0))
  | kind => Step.ofExit (a.mismatch kind values)

/-- **The value of an argument**, as a value of the kind that is asked for. -/
def coerce (setting : Setting) (a : Argument) (kind : Kind) (values : List Value) : Eval Value :=
  match a.parameters with
  | [] =>
    if kind = .void then return .void
    else throw (.raise (.missingArgument a.name a.index kind.description) a.range)
  | first :: _ =>
    match asIs? kind values with
    | some v => return v
    | none => Step.locate first.sourceRange (a.read setting kind values)

end Argument

end SceneLang
