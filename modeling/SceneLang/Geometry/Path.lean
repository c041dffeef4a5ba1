import SceneLang.Geometry.Transform
import SceneLang.Geometry.Color

/-!
# Paths

A path is a row of points, straight or curved, together with nested paths.
-/

namespace SceneLang

/-- **A point of a path.** -/
structure PathPoint where
  position : Vec3 Float
  isCurved : Bool := false
  color : Option (Color Float) := none
  /-- Whether the position is the result of a transform; a printed position shows it. -/
  isComputed : Bool := false
  deriving Repr, Inhabited

/-- **A polyline or curve**, with nested paths. -/
structure Path where
  points : List PathPoint := []
  subpaths : List Path := []
  deriving Inhabited

/-- A point moved by a transform. -/
def PathPoint.transformed (t : Transform Float) (p : PathPoint) : Except Fault PathPoint := do
  return { p with position := ← t.apply p.position, isComputed := true }

namespace Path

mutual

/-- **A path moved by a transform**, with everything nested in it. -/
def transformed (t : Transform Float) : Path → Except Fault Path
  | ⟨points, subpaths⟩ => do
    let points ← points.mapM (PathPoint.transformed t)
    let subpaths ← transformedAll t subpaths
    return ⟨points, subpaths⟩

/-- Every path of a list moved by a transform. -/
def transformedAll (t : Transform Float) : List Path → Except Fault (List Path)
  | [] => .ok []
  | p :: rest => do
    let p ← transformed t p
    let rest ← transformedAll t rest
    return p :: rest

end

/-- Whether a path ends where it starts; it takes at least three points. -/
def isClosed (p : Path) : Bool :=
  2 < p.points.length &&
    match p.points.head?, p.points.getLast? with
    | some a, some b => a.position.isClose b.position Vec3.tolerance
    | _, _ => false

/-- The point of a regular polygon at step `i` around it. -/
def corner (sides : Nat) (radius : Float) (i : Nat) : PathPoint :=
  let angle := 2 * Rotation.pi * Float.ofNat (i % sides) / Float.ofNat sides
  { position := ⟨-radius * angle.sin, radius * angle.cos, 0⟩ }

/-- **A closed regular polygon**, of at least three sides. -/
def polygon (sides : Int) (radius : Float) : Path :=
  let sides := max 3 sides.toNat
  { points := (List.range (sides + 1)).map (corner sides radius) }

/-- The radius of a shape of size one. -/
def unitRadius : Float := 0.5

/-- **A circle**, as a polygon of curved points. -/
def circle (segments : Int) (radius : Float) : Path :=
  { points := (polygon segments radius).points.map fun p => { p with isCurved := true } }

/-- **A square** around the origin. -/
def square (size : Float) : Path :=
  let h := size / 2
  { points := [(-h, h), (-h, -h), (h, -h), (h, h), (-h, h)].map fun (x, y) =>
      { position := ⟨x, y, 0⟩ } }

end Path

end SceneLang
