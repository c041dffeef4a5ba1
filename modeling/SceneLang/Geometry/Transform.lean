import SceneLang.Geometry.Rotation

/-!
# Transforms

A transform scales a point, then turns it, then moves it.  Two transforms compose part by part:
offsets, rotations and scales are combined separately.  As with rotations, a product means "first
the left one, then the right one".

A transform also remembers whether its offset was given or is the result of turning another one.
The numbers are the same either way, but a printed offset shows which it is.
-/

namespace SceneLang

/-- **Scale, rotation and offset**, applied in this order. -/
structure Transform (α : Type) where
  offset : Vec3 α
  rotation : Rotation α
  scale : Vec3 α
  /-- Whether the offset is the result of a computation with a rotation. -/
  isComputed : Bool := false
  deriving Repr, DecidableEq, Inhabited

namespace Transform

variable {α : Type} [OfNat α 0] [OfNat α 1] [Add α] [Mul α]

/-- The transform that changes nothing. -/
def identity : Transform α where
  offset := Vec3.zero
  rotation := Rotation.identity
  scale := Vec3.one

/-- **The image of a point.** -/
def apply (t : Transform α) (point : Vec3 α) : Except Fault (Vec3 α) := do
  return (← t.rotation.apply (point.scaled t.scale)) + t.offset

/-- Move what comes before this transform: the offset is scaled and turned with it. -/
def translated (t : Transform α) (offset : Vec3 α) : Except Fault (Transform α) := do
  return { t with
    offset := t.offset + (← t.rotation.apply (offset.scaled t.scale))
    isComputed := true }

/-- Turn what comes before this transform. -/
def rotated (t : Transform α) (r : Rotation α) : Except Fault (Transform α) := do
  return { t with rotation := ← r.followedBy t.rotation }

/-- Resize what comes before this transform. -/
def scaled (t : Transform α) (s : Vec3 α) : Transform α := { t with scale := t.scale.scaled s }

/-- **First this transform, then the other.** -/
def followedBy (a b : Transform α) : Except Fault (Transform α) := do
  return {
    offset := (← b.rotation.apply (a.offset.scaled b.scale)) + b.offset
    rotation := ← a.rotation.followedBy b.rotation
    scale := a.scale.scaled b.scale
    isComputed := true }

/-- The transform with another offset, which is given. -/
def withOffset (t : Transform α) (offset : Vec3 α) : Transform α :=
  { t with offset, isComputed := false }

/-- Whether a transform is close to changing nothing. -/
def isIdentity (t : Transform Float) : Except Fault Bool :=
  if t.offset.isClose Vec3.zero Vec3.tolerance && t.scale.isClose Vec3.one Vec3.tolerance then
    t.rotation.isIdentity
  else .ok false

end Transform

end SceneLang
