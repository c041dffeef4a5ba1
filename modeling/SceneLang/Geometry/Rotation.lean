import SceneLang.Fault
import SceneLang.Geometry.Vector

/-!
# Rotations

A rotation is a matrix, kept as the list of its rows.  Scripts make only 3×3 matrices, from roll,
yaw and pitch in half turns; a geometry document may bring a matrix of any shape, and then a product
whose inner lengths differ is a fault.

A product of `a` and `b` means "first `a`, then `b`", so the matrices multiply in the other order.
-/

namespace SceneLang

/-- **A rotation matrix**, by rows.  All rows have the same length. -/
structure Rotation (α : Type) where
  rows : List (List α)
  deriving Repr, DecidableEq, Inhabited

namespace Rotation

variable {α : Type}

/-- The matrix with the given entries, row by row. -/
def ofEntries (a b c d e f g h i : α) : Rotation α :=
  ⟨[[a, b, c], [d, e, f], [g, h, i]]⟩

/-- No rotation. -/
def identity [OfNat α 0] [OfNat α 1] : Rotation α := ofEntries 1 0 0 0 1 0 0 0 1

/-- The number of columns. -/
def width (m : Rotation α) : Nat := (m.rows.headD []).length

/-- The lengths of the matrix; one without rows has a single length, zero. -/
def shape (m : Rotation α) : List Nat :=
  if m.rows.isEmpty then [0] else [m.rows.length, m.width]

/-- **Whether the matrix has three rows of three entries.** -/
def IsSquare (m : Rotation α) : Prop := m.rows.length = 3 ∧ ∀ row ∈ m.rows, row.length = 3

/-- The sum of the products of corresponding entries. -/
def dot [OfNat α 0] [Add α] [Mul α] (u v : List α) : α :=
  (List.zipWith (· * ·) u v).foldl (· + ·) 0

/-- Column `j` of a list of rows. -/
def column [OfNat α 0] (rows : List (List α)) (j : Nat) : List α :=
  rows.map fun row => row.getD j 0

/-- **The matrix product**, which needs as many columns on the left as rows on the right. -/
def product [OfNat α 0] [Add α] [Mul α] (left right : Rotation α) : Except Fault (Rotation α) :=
  if left.width ≠ right.rows.length then
    .error (.invalid (.productShape left.width right.rows.length))
  else if left.width = 0 then
    -- without a common length the product has no entries to take rows from
    .error .wrongKind
  else
    .ok ⟨left.rows.map fun row =>
      (List.range right.width).map fun j => dot row (column right.rows j)⟩

/-- **First this rotation, then the other.** -/
def followedBy [OfNat α 0] [Add α] [Mul α] (a b : Rotation α) : Except Fault (Rotation α) :=
  product b a

/-- **A vector turned.**  The matrix needs three columns; with fewer than three rows the missing
components are zero, and with more there is no vector. -/
def apply [OfNat α 0] [Add α] [Mul α] (m : Rotation α) (v : Vec3 α) : Except Fault (Vec3 α) :=
  if m.width ≠ 3 then .error (.invalid (.productShape m.width 3))
  else if 3 < m.rows.length then .error .wrongKind
  else .ok (Vec3.ofComponents (m.rows.map fun row => dot row v.toList))

/-! ### Angles -/

/-- Half the circumference of the unit circle. -/
def pi : Float := 3.141592653589793

/-- Cosine and sine of a number of half turns; an infinite angle has none. -/
def turn (halfTurns : Float) : Except Fault (Float × Float) :=
  let angle := halfTurns * pi
  if angle.abs == 1.0 / 0.0 then .error (.invalid .endlessAngle)
  else .ok (angle.cos, angle.sin)

/-- **The rotation by roll, yaw and pitch** in half turns, about the third, second and first axis,
the pitch first. -/
def ofAngles (roll yaw pitch : Float) : Except Fault (Rotation Float) := do
  let (cr, sr) ← turn roll
  let (cy, sy) ← turn yaw
  let (cp, sp) ← turn pitch
  let rz := ofEntries cr (-sr) 0 sr cr 0 0 0 1
  let ry := ofEntries cy 0 sy 0 1 0 (-sy) 0 cy
  let rx := ofEntries 1 0 0 0 cp (-sp) 0 sp cp
  product (← product rz ry) rx

/-- The rotation by up to three angles; missing ones are zero. -/
def ofHalfTurns (angles : List Float) : Except Fault (Rotation Float) :=
  if 3 < angles.length then .error (.invalid (.tooManyAngles angles.length))
  else
    let v := Vec3.ofComponents angles
    ofAngles v.x v.y v.z

/-- The smaller of two doubles; the first one unless the second is less. -/
def lesser (a b : Float) : Float := if b < a then b else a

/-- The greater of two doubles; the first one unless the second is greater. -/
def greater (a b : Float) : Float := if b > a then b else a

/-- **The angles of a rotation**: roll, yaw and pitch in half turns. -/
def halfTurns (m : Rotation Float) : Except Fault (Vec3 Float) :=
  if m.rows.length < 3 ∨ m.width < 3 then .error .outOfBounds
  else
    let entry (i j : Nat) : Float := (m.rows.getD i []).getD j 0
    let yaw := (greater (-1) (lesser 1 (-entry 2 0))).asin
    let roll := Float.atan2 (entry 1 0) (entry 0 0)
    let pitch := Float.atan2 (entry 2 1) (entry 2 2)
    .ok ⟨roll / pi, yaw / pi, pitch / pi⟩

/-- Whether a length can be stretched to three. -/
def stretches (n : Nat) : Bool := n == 1 || n == 3

/-- **Whether a matrix is close to no rotation.**  A single row or column is compared with every
row or column. -/
def isIdentity (m : Rotation Float) : Except Fault Bool :=
  if !m.shape.all stretches then .error (.invalid (.broadcastShape m.shape))
  else
    let entry (i j : Nat) : Float :=
      let row := m.rows.getD (if m.rows.length = 1 then 0 else i) []
      row.getD (if m.width = 1 then 0 else j) 0
    .ok ((List.range 3).all fun i => (List.range 3).all fun j =>
      SceneLang.isClose 1e-8 (entry i j) (if i = j then 1 else 0))

end Rotation

end SceneLang
