import SceneLang.Value.Basic

/-!
# Printed values

What the `print` command shows.  Numbers are written as whole numbers where they are whole, texts as
they are, a missing text or texture as `nil`, and the elements of a tuple one after the other with
blanks between them.  All other values are spelled out, every part under its name.  Coordinates that
a transform computed are spelled with the name of their number type.
-/

namespace SceneLang

/-- A value spelled out: a title and its named parts. -/
def spelled (title : String) (parts : List (String × String)) : String :=
  title ++ "(" ++ ", ".intercalate (parts.map fun p => p.1 ++ "=" ++ p.2) ++ ")"

/-- Parts in parentheses; a single one is followed by a comma. -/
def enclosed : List String → String
  | [p] => "(" ++ p ++ ",)"
  | ps => "(" ++ ", ".intercalate ps ++ ")"

/-- A part that may be missing. -/
def spelledOption {α : Type} (spell : α → String) : Option α → String
  | some a => spell a
  | none => "None"

/-- A coordinate; one that was computed is spelled with the name of its number type. -/
def spelledCoordinate (isComputed : Bool) (x : Float) : String :=
  if isComputed then "np.float64(" ++ numberLayout.write x ++ ")" else numberLayout.write x

/-- A vector whose components were computed or not. -/
def Vec3.spelledAs (isComputed : Bool) (v : Vec3 Float) : String :=
  SceneLang.spelled "Vector"
    [("x", spelledCoordinate isComputed v.x), ("y", spelledCoordinate isComputed v.y),
      ("z", spelledCoordinate isComputed v.z)]

def Vec3.spelled (v : Vec3 Float) : String := v.spelledAs false

def Color.spelled (c : Color Json) : String :=
  SceneLang.spelled "Color"
    [("r", c.r.literal), ("g", c.g.literal), ("b", c.b.literal), ("a", c.a.literal)]

def NumberRange.spelled (r : NumberRange Float) : String :=
  SceneLang.spelled "RangeValue"
    [("start", numberLayout.write r.start), ("end", numberLayout.write r.stop),
      ("step", numberLayout.write r.step)]

def FilePath.spelled (p : FilePath) : String := "PosixPath(" ++ Text.quoted p.text ++ ")"

def Texture.spelled (t : Texture) : String :=
  SceneLang.spelled "Texture" [("name", Text.quoted t.name), ("url", t.url.spelled)]

def Rotation.spelled (r : Rotation Float) : String :=
  SceneLang.spelled "Rotation"
    [("rows", enclosed (r.rows.map fun row => enclosed (row.map numberLayout.write)))]

def Transform.spelled (t : Transform Float) : String :=
  SceneLang.spelled "Transform"
    [("offset", t.offset.spelledAs t.isComputed), ("rotation", t.rotation.spelled),
      ("scale", t.scale.spelled)]

def Material.spelled (m : Material Json) : String :=
  SceneLang.spelled "Material"
    [("color", spelledOption Color.spelled m.color),
      ("texture", spelledOption Texture.spelled m.texture),
      ("opacity", numberLayout.write m.opacity)]

def PathPoint.spelled (p : PathPoint) : String :=
  SceneLang.spelled "PathPoint"
    [("position", p.position.spelledAs p.isComputed), ("is_curved", truthWord p.isCurved),
      ("color", spelledOption (fun c => (c.map Json.float).spelled) p.color)]

mutual

def Path.spelled : Path → String
  | ⟨points, subpaths⟩ =>
    SceneLang.spelled "Path"
      [("points", enclosed (points.map PathPoint.spelled)),
        ("subpaths", enclosed (Path.spelledAll subpaths))]

def Path.spelledAll : List Path → List String
  | [] => []
  | p :: rest => p.spelled :: Path.spelledAll rest

end

def SourceLocation.spelled (l : SourceLocation) : String :=
  SceneLang.spelled "SourceLocation"
    [("line", toString l.line), ("column", toString l.column), ("offset", toString l.offset),
      ("filename", spelledOption Text.quoted l.filename)]

/-- A kind of node with its word. -/
def NodeKind.spelled (k : NodeKind) : String :=
  "<GeometryType." ++ String.ofList (k.word.toList.map Char.toUpper) ++ ": "
    ++ Text.quoted k.word ++ ">"

mutual

def Node.spelled : Node → String
  | ⟨kind, name, transform, material, children, paths, location⟩ =>
    SceneLang.spelled "Geometry"
      [("type", kind.spelled), ("name", name.literal), ("transform", transform.spelled),
        ("material", material.spelled), ("children", enclosed (Node.spelledAll children)),
        ("paths", enclosed (Path.spelledAll paths)),
        ("source_location", spelledOption SourceLocation.spelled location)]

def Node.spelledAll : List Node → List String
  | [] => []
  | n :: rest => n.spelled :: Node.spelledAll rest

end

/-- A number as `print` shows it. -/
def displayNumber (x : Float) : String :=
  if Decimal.isWhole x then
    match Decimal.truncate? x with
    | some n => toString n
    | none => numberLayout.write x
  else numberLayout.write x

mutual

/-- **A value as `print` shows it.** -/
def Value.display : Value → String
  | .number x => displayNumber x
  | .string s => s.getD "nil"
  | .color c => (c.map Json.float).spelled
  | .texture t => match t with
    | some t => t.spelled
    | none => "nil"
  | .vector v => v.spelled
  | .size v => v.spelled
  | .path p => p.spelled
  | .mesh n => n.spelled
  | .point p => p.spelled
  | .range r => r.spelled
  | .tuple vs => " ".intercalate (Value.displayAll vs)

/-- The texts of a list of values. -/
def Value.displayAll : List Value → List String
  | [] => []
  | v :: rest => v.display :: Value.displayAll rest

end

/-- **The line that `print` writes** for its arguments. -/
def printedLine (vs : List Value) : String := (Value.tuple vs).display

end SceneLang
