import SceneLang.Json.Number

/-!
# Colours

A colour has red, green, blue and alpha components.  Scripts work with doubles; a geometry document
may put anything there, so the type of the components is a parameter.
-/

namespace SceneLang

/-- **A colour with transparency.** -/
structure Color (α : Type) where
  r : α
  g : α
  b : α
  a : α
  deriving Repr, DecidableEq, Inhabited

namespace Color

variable {α β : Type}

/-- The components in order. -/
def toList (c : Color α) : List α := [c.r, c.g, c.b, c.a]

/-- Change every component. -/
def map (f : α → β) (c : Color α) : Color β := ⟨f c.r, f c.g, f c.b, f c.a⟩

/-- A colour without transparency. -/
def opaqueOf [OfNat α 1] (r g b : α) : Color α := ⟨r, g, b, 1⟩

/-- **The colour of a list of components**: a grey level, a grey level with alpha, red, green and
blue, or these with alpha.  Other counts give none. -/
def ofComponents? [OfNat α 1] : List α → Option (Color α)
  | [v] => some ⟨v, v, v, 1⟩
  | [v, a] => some ⟨v, v, v, a⟩
  | [r, g, b] => some ⟨r, g, b, 1⟩
  | [r, g, b, a] => some ⟨r, g, b, a⟩
  | _ => none

/-- Fully transparent. -/
def clear : Color Float := ⟨0, 0, 0, 0⟩

def black : Color Float := opaqueOf 0 0 0

def white : Color Float := opaqueOf 1 1 1

def gray : Color Float := opaqueOf 0.5 0.5 0.5

def red : Color Float := opaqueOf 1 0 0

def green : Color Float := opaqueOf 0 1 0

def blue : Color Float := opaqueOf 0 0 1

def yellow : Color Float := opaqueOf 1 1 0

def cyan : Color Float := opaqueOf 0 1 1

def magenta : Color Float := opaqueOf 1 0 1

/-- The colour of a list of components, or `clear` for a count that has none. -/
def unchecked (components : List Float) : Color Float :=
  (ofComponents? components).getD clear

/-! ### Hexadecimal notation -/

/-- A byte as a component: 255 is one. -/
def ofByte (n : Int) : Float := Float.ofInt (n % 256) / 255

/-- The eight digits that a short notation stands for: single digits are doubled and a missing
alpha is full. -/
def hexDigits? (s : List Char) : Option (List Char) :=
  let s := if s.length = 3 then s ++ ['f'] else s
  if s.length = 4 then some (s.flatMap fun c => [c, c])
  else if s.length = 6 then some (s ++ ['f', 'f'])
  else if s.length = 8 then some s
  else none

/-- **A colour in hexadecimal**, with or without a leading number sign.  The digits are read as one
whole number, of which the four lowest bytes count. -/
def ofHex? (text : String) : Option (Color Float) := do
  let digits ← hexDigits? (match text.toList with
    | '#' :: rest => rest
    | s => s)
  let n ← Text.readHex? (String.ofList digits)
  return ⟨ofByte (n / 0x1000000), ofByte (n / 0x10000), ofByte (n / 0x100), ofByte n⟩

end Color

end SceneLang
