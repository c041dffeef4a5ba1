import SceneLang.Geometry.Node

/-!
# Geometry as documents

How nodes, paths, transforms and scenes are written.  A node's fields come in a fixed order; the
name, the children and the paths appear only when there are some.  Places in the script, textures'
names and the colours of path points are not written.
-/

namespace SceneLang

/-- The schema that a scene document names. -/
def schemaId : String := "shapescript-geometry-json-v0.1"

/-- A list of doubles. -/
def Json.ofDoubles (xs : List Float) : Json := .arr (xs.map .float)

/-- The components of a vector. -/
def Vec3.toJson (v : Vec3 Float) : Json := .ofDoubles v.toList

/-- **A transform as a document.** -/
def Transform.toJson (t : Transform Float) : Json := .obj [
  ("offset", t.offset.toJson),
  ("rotation", .arr (t.rotation.rows.map .ofDoubles)),
  ("scale", t.scale.toJson)]

/-- The components of a colour. -/
def Color.toJson (c : Color Json) : Json := .arr c.toList

/-- **A material as a document.** -/
def Material.toJson (m : Material Json) : Json := .obj [
  ("color", match m.color with
    | some c => c.toJson
    | none => .null),
  ("texture", match m.texture with
    | some t => .str t.url.text
    | none => .null),
  ("opacity", .float m.opacity)]

/-- A point of a path. -/
def PathPoint.toJson (p : PathPoint) : Json :=
  .obj [("position", p.position.toJson), ("curved", .bool p.isCurved)]

mutual

/-- **A path as a document.** -/
def Path.toJson : Path → Json
  | ⟨points, subpaths⟩ => .obj [
      ("points", .arr (points.map PathPoint.toJson)),
      ("subpaths", .arr (Path.toJsons subpaths))]

/-- The documents of a list of paths. -/
def Path.toJsons : List Path → List Json
  | [] => []
  | p :: rest => p.toJson :: Path.toJsons rest

end

/-- A field that appears only when the list is not empty. -/
def optionalList (name : String) (items : List Json) : List (String × Json) :=
  if items.isEmpty then [] else [(name, .arr items)]

/-- A field that appears only when the value is not null. -/
def optionalField (name : String) (value : Json) : List (String × Json) :=
  match value with
  | .null => []
  | value => [(name, value)]

mutual

/-- **A node as a document.** -/
def Node.toJson : Node → Json
  | ⟨kind, name, transform, material, children, paths, _⟩ => .obj (
      [("type", .str kind.word), ("transform", transform.toJson), ("material", material.toJson)]
        ++ optionalField "name" name
        ++ optionalList "children" (Node.toJsons children)
        ++ optionalList "paths" (Path.toJsons paths))

/-- The documents of a list of nodes. -/
def Node.toJsons : List Node → List Json
  | [] => []
  | n :: rest => n.toJson :: Node.toJsons rest

end

/-- The background of a scene: the components of a colour or the location of an image. -/
def Backdrop.toJson : Backdrop → Json
  | .color c => .ofDoubles c.toList
  | .texture t => .str t.url.text

/-- **A scene as a document.** -/
def Scene.toJson (s : Scene) : Json := .obj [
  ("schema", .str schemaId),
  ("background", match s.background with
    | some b => b.toJson
    | none => .null),
  ("children", .arr (Node.toJsons s.children))]

end SceneLang
