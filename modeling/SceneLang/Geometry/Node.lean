import SceneLang.Geometry.Material
import SceneLang.Geometry.Path
import SceneLang.Source.Location

/-!
# Nodes of the scene graph

A node is a shape: a primitive, a path, something built from paths, or a combination of other
nodes.  It keeps its transform, its material and the place in the script that made it.
-/

namespace SceneLang

/-- **The kinds of node.** -/
inductive NodeKind where
  | group
  | cube
  | sphere
  | cylinder
  | cone
  | path
  | extrude
  | lathe
  | loft
  | fill
  | union
  | difference
  | intersection
  | xor
  | stencil
  | mesh
  deriving Repr, DecidableEq, Inhabited

namespace NodeKind

/-- All kinds, in order. -/
def all : List NodeKind :=
  [.group, .cube, .sphere, .cylinder, .cone, .path, .extrude, .lathe, .loft, .fill, .union,
    .difference, .intersection, .xor, .stencil, .mesh]

/-- The word for a kind in documents. -/
def word : NodeKind → String
  | .group => "group"
  | .cube => "cube"
  | .sphere => "sphere"
  | .cylinder => "cylinder"
  | .cone => "cone"
  | .path => "path"
  | .extrude => "extrude"
  | .lathe => "lathe"
  | .loft => "loft"
  | .fill => "fill"
  | .union => "union"
  | .difference => "difference"
  | .intersection => "intersection"
  | .xor => "xor"
  | .stencil => "stencil"
  | .mesh => "mesh"

/-- The kind that a word names. -/
def ofWord? (w : String) : Option NodeKind := all.find? fun k => k.word = w

end NodeKind

/-- **A node of the scene graph.** -/
structure Node where
  kind : NodeKind
  /-- The name as its source gives it; null when there is none. -/
  name : Json := .null
  transform : Transform Float := Transform.identity
  material : Material Json := {}
  children : List Node := []
  paths : List Path := []
  /-- Where the node was written.  It does not count when nodes are compared. -/
  location : Option SourceLocation := none
  deriving Inhabited

/-- **A node moved by a transform**: its own transform first, then this one. -/
def Node.transformed (t : Transform Float) (n : Node) : Except Fault Node := do
  return { n with transform := ← n.transform.followedBy t }

/-- **A scene**: the result of running a program. -/
structure Scene where
  background : Option Backdrop := none
  children : List Node := []
  deriving Inhabited

end SceneLang
