import SceneLang.Geometry.Encode
import SceneLang.Json.Field

/-!
# Reading geometry documents

The way back from documents to geometry.  A document is taken as it comes: numbers may be texts or
truth values, a list of components may be a text of digits, a matrix may have any shape, and a name
or the components of a colour may be anything at all.  What cannot be used is a fault; inside a node
a fault of kind, of a missing field or of a value without fields is reported as a broken node.
-/

namespace SceneLang

/-! ### Vectors and matrices -/

/-- The first three components of a list or of a text. -/
def Json.components (j : Json) : Except Fault (List Float) :=
  match j with
  | .arr items => Json.toDoubles (items.take 3)
  | .str s => Json.toDoubles ((Json.ofChars s).take 3)
  | _ => .error .wrongKind

/-- The vector of a document. -/
def Vec3.ofJson (j : Json) : Except Fault (Vec3 Float) := do
  return Vec3.ofComponents (← j.components)

/-- The items of the lists among documents. -/
def Json.allItems : List Json → List Json
  | [] => []
  | .arr items :: rest => items ++ allItems rest
  | _ :: rest => allItems rest

/-- The length of a list. -/
def Json.length? : Json → Option Nat
  | .arr items => some items.length
  | _ => none

/-- The lengths of nested lists, level by level, and whether all levels are regular: at a regular
level either all documents are lists of one length or none is a list.  At most `depth` levels are
looked at. -/
def nestedShape : Nat → List Json → List Nat × Bool
  | 0, _ => ([], true)
  | depth + 1, level =>
    match level.map Json.length? with
    | some n :: rest =>
      if rest.all (· == some n) then
        if n = 0 then ([0], true)
        else
          let (ns, regular) := nestedShape depth (Json.allItems level)
          (n :: ns, regular)
      else ([], false)
    | _ :: rest => ([], rest.all (· == none))
    | [] => ([], true)

/-- The documents below `depth` levels of lists. -/
def nestedLeaves : Nat → List Json → List Json
  | 0, level => level
  | depth + 1, level => nestedLeaves depth (Json.allItems level)

/-- An entry of a matrix; null is NaN. -/
def Json.toEntry : Json → Except Fault Float
  | .null => .ok (0.0 / 0.0)
  | j => j.toDouble

/-- Consecutive pieces of the given length, `count` of them. -/
def chunks {α : Type} (length : Nat) : Nat → List α → List (List α)
  | 0, _ => []
  | count + 1, xs => xs.take length :: chunks length count (xs.drop length)

/-- How many levels of nesting a matrix may have. -/
def deepestMatrix : Nat := 64

/-- **The matrix of a document**: rows of numbers.  Deeper nesting is accepted where each entry
holds a single number. -/
def Rotation.ofJson (j : Json) : Except Fault (Rotation Float) := do
  let (shape, regular) := nestedShape deepestMatrix [j]
  if !regular then throw (.invalid (.raggedMatrix shape))
  let entries ← (nestedLeaves shape.length [j]).mapM Json.toEntry
  match shape with
  | [0] => return ⟨[]⟩
  | rows :: columns :: inner =>
    if columns ≠ 0 ∧ inner.foldl (· * ·) 1 ≠ 1 then throw .wrongKind
    return ⟨chunks columns rows entries⟩
  | _ => throw .wrongKind

/-- **The transform of a document**; what is not given changes nothing. -/
def Transform.ofJson (j : Json) : Except Fault (Transform Float) := do
  if !j.isObject then throw .noSuchField
  let offset ← Vec3.ofJson (j.getD "offset" (.arr []))
  let rotation ← match j.get? "rotation" with
    | some r => Rotation.ofJson r
    | none => pure Rotation.identity
  let scale ← match j.get? "scale" with
    | some s => Vec3.ofJson s
    | none => pure Vec3.one
  return { offset, rotation, scale }

/-! ### Paths -/

/-- **A point of a path.** -/
def PathPoint.ofJson (j : Json) : Except Fault PathPoint :=
  match j with
  | .obj _ =>
    match j.get? "position" with
    | none => .error .missingKey
    | some position => do
      let position ← Vec3.ofJson position
      return { position, isCurved := (j.getD "curved" (.bool false)).isPresent }
  | _ => .error .wrongKind

/-- The points of a path. -/
def PathPoint.ofJsons (j : Json) : Except Fault (List PathPoint) :=
  match j.parts? with
  | none => .error .wrongKind
  | some items => items.mapM PathPoint.ofJson

mutual

/-- **The path of a document.** -/
def Path.ofJson (j : Json) : Except Fault Path := do
  if !j.isObject then throw .noSuchField
  let points ← PathPoint.ofJsons (j.getD "points" (.arr []))
  let subpaths ← match j.field? "subpaths" with
    | none => pure []
    | some ⟨items, _⟩ => Path.ofParts items
  return ⟨points, subpaths⟩
termination_by sizeOf j

/-- The paths of the parts of a document.  Only a list has objects for parts. -/
def Path.ofParts (j : Json) : Except Fault (List Path) :=
  match j with
  | .arr items => Path.ofJsons items
  | j =>
    match j.parts? with
    | none => .error .wrongKind
    | some [] => .ok []
    | some (_ :: _) => .error .noSuchField
termination_by sizeOf j

/-- The paths of a list of documents. -/
def Path.ofJsons (items : List Json) : Except Fault (List Path) :=
  match items with
  | [] => .ok []
  | j :: rest => do
    let p ← Path.ofJson j
    let ps ← Path.ofJsons rest
    return p :: ps
termination_by sizeOf items

end

/-! ### Nodes -/

/-- The colour of four or, with full alpha, three parts. -/
def Color.ofParts (items : List Json) : Except Fault (Color Json) :=
  match items with
  | [r, g, b] => .ok ⟨r, g, b, .float 1⟩
  | [r, g, b, a] => .ok ⟨r, g, b, a⟩
  | _ => .error .wrongKind

/-- The colour of a document; one that does not count as present is none. -/
def Color.ofJson? (j : Json) : Except Fault (Option (Color Json)) :=
  if !j.isPresent then .ok none
  else
    match j.parts? with
    | none => .error .wrongKind
    | some items => (Color.ofParts items).map some

/-- **The kind of a node.** -/
def NodeKind.ofJson (j : Json) : Except Fault NodeKind :=
  match j.get? "type" with
  | none => .error (.invalid .nodeWithoutKind)
  | some (.str w) =>
    match NodeKind.ofWord? w with
    | some kind => .ok kind
    | none => .error (.invalid (.unknownNodeKind (.str w)))
  | some kind => .error (.invalid (.unknownNodeKind kind))

/-- The material field of a node: an object, empty when the field does not count as present. -/
def materialField (j : Json) : Except Fault Json :=
  let m := j.getD "material" .null
  if !m.isPresent then .ok (.obj [])
  else if m.isObject then .ok m
  else .error .noSuchField

/-- A fault inside a node, as a fault of the node. -/
def Fault.inNode : Fault → Fault
  | .wrongKind => .invalid (.brokenNode .wrongKind)
  | .missingKey => .invalid (.brokenNode .missingKey)
  | .noSuchField => .invalid (.brokenNode .notObject)
  | f => f

/-- Everything of a node but its kind and its children: the name, the transform and the material. -/
def nodeHead (kind : NodeKind) (j : Json) : Except Fault Node := do
  let material ← materialField j
  let color := material.getD "color" .null
  let transform ← match j.get? "transform" with
    | some t => Transform.ofJson t
    | none => pure Transform.identity
  let color ← Color.ofJson? color
  let opacity ← (material.getD "opacity" (.float 1)).toDouble
  return { kind, name := j.getD "name" .null, transform, material := { color, opacity } }

mutual

/-- **The node of a document.** -/
def Node.ofJson (j : Json) : Except Fault Node := do
  if !j.isObject then throw (.invalid (.notNode j))
  let kind ← NodeKind.ofJson j
  let head ← (nodeHead kind j).mapError Fault.inNode
  let children ← match j.field? "children" with
    | none => pure []
    | some ⟨items, _⟩ => Node.ofParts items
  let paths ← match j.get? "paths" with
    | none => pure []
    | some items => (Path.ofParts items).mapError Fault.inNode
  return { head with children, paths }
termination_by sizeOf j

/-- The nodes of the parts of a document.  Only a list has objects for parts. -/
def Node.ofParts (j : Json) : Except Fault (List Node) :=
  match j with
  | .arr items => Node.ofJsons items
  | j =>
    match j.parts? with
    | none => .error (.invalid (.brokenNode .wrongKind))
    | some [] => .ok []
    | some (p :: _) => .error (.invalid (.notNode p))
termination_by sizeOf j

/-- The nodes of a list of documents. -/
def Node.ofJsons (items : List Json) : Except Fault (List Node) :=
  match items with
  | [] => .ok []
  | j :: rest => do
    let n ← Node.ofJson j
    let ns ← Node.ofJsons rest
    return n :: ns
termination_by sizeOf items

end

/-! ### Geometry files -/

/-- A document that names a schema has to name the right one. -/
def checkSchema : Option Json → Except Fault Unit
  | none => .ok ()
  | some (.str s) =>
    if s = schemaId then .ok () else .error (.invalid (.unsupportedSchema (.str s)))
  | some other => .error (.invalid (.unsupportedSchema other))

/-- **The node of a geometry document.**  A document is a node or a scene; a scene of one node
stands for that node, one of several for their group, and an empty one for nothing. -/
def Node.ofDocument (document : Json) : Except Fault (Option Node) := do
  if !document.isObject then throw (.invalid .documentNotObject)
  checkSchema (document.get? "schema")
  match document.getD "children" .null with
  | .null => return some (← Node.ofJson document)
  | .arr [] => return none
  | .arr items =>
    match ← Node.ofJsons items with
    | [n] => return some n
    | children => return some { kind := .group, children }
  | _ => throw (.invalid .childrenNotList)

end SceneLang
