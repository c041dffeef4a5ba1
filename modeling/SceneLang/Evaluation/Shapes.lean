import SceneLang.Evaluation.Commands

/-!
# What blocks build

A block builds its value from the scope of its body: a solid from the state of the node alone, a
combination from the children as well, and a path, which has no state but its transform, moved by it.
-/

namespace SceneLang

/-- The material of the node being built: its opacity is multiplied by the opacity of the scope. -/
def Scope.nodeMaterial (s : Scope) : Material Json :=
  { s.material with opacity := s.material.opacity * s.opacity }.map Json.float

/-- **The node that a scope describes.** -/
def Scope.node (s : Scope) (kind : NodeKind) (children : List Node) (paths : List Path) : Node where
  kind := kind
  name := .ofText? s.name
  transform := s.transform
  material := s.nodeMaterial
  children := children
  paths := paths
  location := s.location

/-- The nodes among the children. -/
def Scope.childNodes (s : Scope) : List Node := s.children.toList.filterMap Value.mesh?

/-- The paths among the children. -/
def Scope.childPaths (s : Scope) : List Path := s.children.toList.filterMap Value.path?

/-- The points among the children. -/
def Scope.childPoints (s : Scope) : List PathPoint :=
  s.children.toList.filterMap fun
    | .point p => some p
    | _ => none

/-- The lines of text among the children; a missing one is empty. -/
def Scope.childLines (s : Scope) : List String :=
  s.children.toList.filterMap fun
    | .string line => some (line.getD "")
    | _ => none

/-- The number of sides of a polygon: an option, with a default of five. -/
def Scope.sides (s : Scope) : Except Fault Int :=
  match s.option? "sides" with
  | none => .ok 5
  | some (.number x) => .ok (countOf x)
  | some _ => .error .wrongKind

/-- A path at the place of the node. -/
def Scope.placedPath (s : Scope) (p : Path) : Except Fault Value :=
  (p.transformed s.transform).map .path

/-- The paths of a text, at the place of the node. -/
def Scope.placedPaths (s : Scope) : List Path → Except Fault (List Value)
  | [] => .ok []
  | p :: rest => do
    let v ← s.placedPath p
    let vs ← s.placedPaths rest
    return v :: vs

/-- The outlines of a text, which the host is asked for. -/
def Setting.outlines (setting : Setting) (text : String) (font : Option String) (detail : Int) :
    Eval (List Path) :=
  match setting.host with
  | none => return []
  | some host => do
    Eval.notify (.outlined text font detail)
    return host.outlines text font detail

/-- **What a standard block builds** from the active scope. -/
def Shape.build (setting : Setting) (shape : Shape) : Eval Value := do
  let s ← Eval.scope
  match shape with
  | .solid kind => return .mesh (s.node kind [] [])
  | .circle => Step.ofExcept (s.placedPath (Path.circle (max 3 s.detail) Path.unitRadius))
  | .square => Step.ofExcept (s.placedPath (Path.square 1))
  | .polygon =>
    let sides ← Step.ofExcept s.sides
    Step.ofExcept (s.placedPath (Path.polygon sides Path.unitRadius))
  | .path => Step.ofExcept (s.placedPath ⟨s.childPoints, s.childPaths⟩)
  | .built kind => return .mesh (s.node kind [] s.childPaths)
  | .combined kind => return .mesh (s.node kind s.childNodes [])
  | .text =>
    let paths ← setting.outlines ("\n".intercalate s.childLines) s.font s.detail
    return .tuple (← Step.ofExcept (s.placedPaths paths))

end SceneLang
