import SceneLang.Geometry.Decode

/-!
# Equal geometry

When two nodes count as equal: everything has to agree but the places in the script they come from.
Two doubles agree when they are equal or both NaN, except where they were computed: in a rotation,
and in an offset or a position that is the result of a transform, NaN differs from everything.
-/

namespace SceneLang

/-- Whether two doubles are equal or both NaN. -/
def sameNumber (x y : Float) : Bool := x == y || (x.isNaN && y.isNaN)

/-- Whether two optional things agree. -/
def sameOption {α : Type} (same : α → α → Bool) : Option α → Option α → Bool
  | none, none => true
  | some a, some b => same a b
  | _, _ => false

/-- Whether two lists agree item by item. -/
def sameList {α : Type} (same : α → α → Bool) : List α → List α → Bool
  | [], [] => true
  | a :: as, b :: bs => same a b && sameList same as bs
  | _, _ => false

/-- Whether two vectors agree. -/
def Vec3.same (v w : Vec3 Float) : Bool := sameList sameNumber v.toList w.toList

/-- Whether two vectors agree of which one may have been computed. -/
def Vec3.sameAs (v : Vec3 Float) (isComputed : Bool) (w : Vec3 Float) : Bool :=
  if isComputed then sameList (· == ·) v.toList w.toList else v.same w

/-- Whether two transforms agree. -/
def Transform.same (a b : Transform Float) : Bool :=
  a.offset.sameAs (a.isComputed || b.isComputed) b.offset
    && sameList (sameList (· == ·)) a.rotation.rows b.rotation.rows && a.scale.same b.scale

mutual

/-- **Whether two documents agree.** -/
def Json.same : Json → Json → Bool
  | .null, .null => true
  | .bool a, .bool b => a == b
  | .int a, .int b => a == b
  | .float a, .float b => sameNumber a b
  | .str a, .str b => a == b
  | .arr as, .arr bs => Json.sameItems as bs
  | .obj as, .obj bs => Json.sameFields as bs
  | _, _ => false

/-- Whether two lists of documents agree. -/
def Json.sameItems : List Json → List Json → Bool
  | [], [] => true
  | a :: as, b :: bs => a.same b && Json.sameItems as bs
  | _, _ => false

/-- Whether two lists of fields agree. -/
def Json.sameFields : List (String × Json) → List (String × Json) → Bool
  | [], [] => true
  | (m, a) :: as, (n, b) :: bs => m == n && a.same b && Json.sameFields as bs
  | _, _ => false

end

/-- Whether two materials agree. -/
def Material.same (a b : Material Json) : Bool :=
  sameOption (fun c d => Json.sameItems c.toList d.toList) a.color b.color
    && a.texture == b.texture && sameNumber a.opacity b.opacity

/-- Whether two points of paths agree. -/
def PathPoint.same (p q : PathPoint) : Bool :=
  p.position.sameAs (p.isComputed || q.isComputed) q.position && p.isCurved == q.isCurved
    && sameOption (fun c d => sameList sameNumber c.toList d.toList) p.color q.color

mutual

/-- **Whether two paths agree.** -/
def Path.same : Path → Path → Bool
  | ⟨ps, ss⟩, ⟨qs, ts⟩ => sameList PathPoint.same ps qs && Path.sameAll ss ts

/-- Whether two lists of paths agree. -/
def Path.sameAll : List Path → List Path → Bool
  | [], [] => true
  | p :: ps, q :: qs => p.same q && Path.sameAll ps qs
  | _, _ => false

end

mutual

/-- **Whether two nodes agree.** -/
def Node.same : Node → Node → Bool
  | ⟨k, n, t, m, cs, ps, _⟩, ⟨k', n', t', m', cs', ps', _⟩ =>
    k == k' && n.same n' && t.same t' && m.same m' && Node.sameAll cs cs' && Path.sameAll ps ps'

/-- Whether two lists of nodes agree. -/
def Node.sameAll : List Node → List Node → Bool
  | [], [] => true
  | a :: as, b :: bs => a.same b && Node.sameAll as bs
  | _, _ => false

end

/-- **Whether a node reads back as it was written.** -/
def Node.readsBack (n : Node) : Except Fault Bool := do
  return (← Node.ofJson n.toJson).same n

end SceneLang
