import SceneLang.Evaluation.Shapes
import SceneLang.Geometry.Encode

/-!
# Previews of blocks

A tool can ask what a block would make of the children of a scope that belongs to a block of another
kind.  The preview is a document: children are put where the block puts the children it takes, even
if they are of another kind.  Where all children fit, it is the document of what the block builds.
-/

namespace SceneLang

/-- The document of a child; only meshes and paths have one. -/
def Value.document : Value → Except Fault Json
  | .mesh n => .ok n.toJson
  | .path p => .ok p.toJson
  | _ => .error .noSuchField

/-- Whether a value is a point of a path. -/
def Value.isPoint : Value → Bool
  | .point _ => true
  | _ => false

namespace Shape

/-- The fields of a document together with a list of children. -/
def withList (document : Json) (name : String) (children : List Json) : Json :=
  match document with
  | .obj fields => .obj (fields ++ optionalList name children)
  | document => document

/-- The document of the path that a scope's points and other children make. -/
def pathDocument (s : Scope) : Except Fault Json := do
  let head ← Path.transformed s.transform ⟨s.childPoints, []⟩
  let others := s.children.toList.filter (!·.isPoint)
  let parts ← others.mapM fun v => do (← Scope.placed s.transform v).document
  return .obj [
    ("points", .arr (head.points.map PathPoint.toJson)),
    ("subpaths", .arr parts)]

/-- **The document of what a block would build** from the active scope. -/
def preview (shape : Shape) : Eval (Kind × Json) := do
  let s ← Eval.scope
  match shape with
  | .built kind =>
    let parts ← Step.ofExcept (s.children.toList.mapM Value.document)
    return (.mesh, withList (s.node kind [] []).toJson "paths" parts)
  | .combined kind =>
    let parts ← Step.ofExcept (s.children.toList.mapM Value.document)
    return (.mesh, withList (s.node kind [] []).toJson "children" parts)
  | .path => return (.path, ← Step.ofExcept (pathDocument s))
  | _ => Step.wrongKind

/-- Whether a block takes all children of a scope. -/
def fits (shape : Shape) (s : Scope) : Bool :=
  match shape with
  | .built _ | .combined _ | .path | .text =>
    s.children.all fun v => shape.blockType.childKinds.contains v.kind
  | _ => true

end Shape

end SceneLang
