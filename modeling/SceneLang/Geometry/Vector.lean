import SceneLang.Decimal.Binary

/-!
# Vectors

Positions, offsets and sizes are vectors of three components.  The componentwise operations are
written over any type of numbers, so that they can be reasoned about exactly; scripts run them on
doubles.  Two readings of a list of numbers give a vector: `ofComponents` fills up with zeros, and
`size` repeats the width where components are missing.
-/

namespace SceneLang

/-- **A vector of three components.** -/
structure Vec3 (α : Type) where
  x : α
  y : α
  z : α
  deriving Repr, DecidableEq, Inhabited

namespace Vec3

variable {α : Type}

/-- The components in order. -/
def toList (v : Vec3 α) : List α := [v.x, v.y, v.z]

/-- The vector whose components are all the same. -/
def uniform (a : α) : Vec3 α := ⟨a, a, a⟩

/-- The zero vector. -/
def zero [OfNat α 0] : Vec3 α := uniform 0

/-- The vector of ones, the size of everything that was not resized. -/
def one [OfNat α 1] : Vec3 α := uniform 1

instance [Add α] : Add (Vec3 α) := ⟨fun v w => ⟨v.x + w.x, v.y + w.y, v.z + w.z⟩⟩

instance [Sub α] : Sub (Vec3 α) := ⟨fun v w => ⟨v.x - w.x, v.y - w.y, v.z - w.z⟩⟩

instance [Neg α] : Neg (Vec3 α) := ⟨fun v => ⟨-v.x, -v.y, -v.z⟩⟩

/-- **Componentwise product.** -/
def scaled [Mul α] (v w : Vec3 α) : Vec3 α := ⟨v.x * w.x, v.y * w.y, v.z * w.z⟩

/-- **The vector of up to three components**; missing ones are zero, further ones are ignored. -/
def ofComponents [OfNat α 0] : List α → Vec3 α
  | [] => ⟨0, 0, 0⟩
  | [x] => ⟨x, 0, 0⟩
  | [x, y] => ⟨x, y, 0⟩
  | x :: y :: z :: _ => ⟨x, y, z⟩

/-- **The size of up to three components**: one is the size in every direction, and with two the
depth repeats the width. -/
def size [OfNat α 1] : List α → Vec3 α
  | [] => ⟨1, 1, 1⟩
  | [x] => ⟨x, x, x⟩
  | [x, y] => ⟨x, y, x⟩
  | x :: y :: z :: _ => ⟨x, y, z⟩

end Vec3

/-- How far apart two doubles may be, relative to the second, and still be close. -/
def closeRatio : Float := 1e-5

/-- **Closeness of doubles**: within `tolerance` plus a hundred-thousandth of the second, or equal.
NaN is close to nothing. -/
def isClose (tolerance a b : Float) : Bool :=
  ((a - b).abs ≤ tolerance + closeRatio * b.abs && Decimal.isFinite b) || a == b

namespace Vec3

/-- Closeness in every component. -/
def isClose (v w : Vec3 Float) (tolerance : Float) : Bool :=
  SceneLang.isClose tolerance v.x w.x && SceneLang.isClose tolerance v.y w.y
    && SceneLang.isClose tolerance v.z w.z

/-- The tolerance of a comparison that names none. -/
def tolerance : Float := 1e-9

end Vec3

end SceneLang
