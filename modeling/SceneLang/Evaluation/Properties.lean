import SceneLang.Evaluation.Commands

/-!
# Reading and writing properties

A property belongs to the active scope.  What is read back is what was written, except that the
opacity is kept between zero and one, that the detail is a count, and that an orientation is kept as a
rotation.  A value that counts as missing takes a colour, an image or the background away.
-/

namespace SceneLang

namespace Property

/-- Set a part of the transform of the active scope. -/
def place (f : Transform Float → Transform Float) : Eval Unit :=
  Eval.modifyScope fun s => { s with transform := f s.transform }

/-- Change the material of the active scope. -/
def paint (f : Material Float → Material Float) : Eval Unit :=
  Eval.modifyScope fun s => { s with material := f s.material }

/-- Do something if a value counts as missing; any other value has not what is needed. -/
def orMissing (value : Value) (act : Eval Unit) : Eval Unit :=
  if value.isMissing then act else throw (.fault .noSuchField)

/-- **Write a property.** -/
def set (property : Property) (value : Value) : Eval Unit :=
  match property with
  | .detail =>
    match value with
    | .number x => Eval.modifyScope fun s => { s with detail := max 0 (countOf x) }
    | _ => Step.wrongKind
  | .font =>
    match value with
    | .string f => Eval.modifyScope fun s => { s with font := f }
    | .texture none => Eval.modifyScope fun s => { s with font := none }
    | _ => Step.wrongKind
  | .position => do
    let v ← Step.triple value
    place (·.withOffset v)
  | .orientation => do
    let v ← Step.triple value
    let r ← Step.ofExcept (Rotation.ofHalfTurns v.toList)
    place fun t => { t with rotation := r }
  | .size => do
    let v ← Step.triple value
    place fun t => { t with scale := v }
  | .color =>
    match value with
    | .color c => paint fun m => { m with color := c }
    | value => orMissing value (paint fun m => { m with color := none })
  | .texture =>
    match value with
    | .texture t => paint fun m => { m with texture := t }
    | value => orMissing value (paint fun m => { m with texture := none })
  | .opacity =>
    match value with
    | .number x =>
      Eval.modifyScope fun s => { s with opacity := Rotation.lesser 1 (Rotation.greater 0 x) }
    | _ => Step.wrongKind
  | .name =>
    match value with
    | .string n => Eval.modifyScope fun s => { s with name := n }
    | .texture none => Eval.modifyScope fun s => { s with name := none }
    | _ => Step.wrongKind
  | .background =>
    match value with
    | .color c => Eval.modifyScope fun s => { s with background := some (.color c) }
    | .texture t => Eval.modifyScope fun s => { s with background := t.map .texture }
    | value => orMissing value (Eval.modifyScope fun s => { s with background := none })

/-- **Read a property.** -/
def get (property : Property) : Eval Value := do
  let s ← Eval.scope
  match property with
  | .detail => return .number (Decimal.ofInt s.detail)
  | .font => return .string s.font
  | .position => return .vector s.transform.offset
  | .orientation => return .vector (← Step.ofExcept s.transform.rotation.halfTurns)
  | .size => return .size s.transform.scale
  | .color => return .color (s.material.color.getD .white)
  | .texture => return .texture s.material.texture
  | .opacity => return .number s.opacity
  | .name => return .string s.name
  | .background =>
    match s.background with
    | some (.color c) => return .color c
    | some (.texture t) => return .texture (some t)
    | none => return .color .clear

end Property

end SceneLang
