import SceneLang.Error.Exit
import SceneLang.Scope.Basic

/-!
# Adding children

A value that a statement produces becomes a child of the scope, if the scope takes children of its
kind.  A path in a scope of meshes becomes a mesh first, and a tuple is opened.  Any other value is
an error; children that were added before it stay.
-/

namespace SceneLang.Scope

/-- A value moved by a transform; values without a place stay as they are. -/
def placed (t : Transform Float) : Value → Except Fault Value
  | .mesh n => (n.transformed t).map .mesh
  | .path p => (p.transformed t).map .path
  | .point p => (p.transformed t).map .point
  | .vector v => (t.apply v).map .vector
  | v => .ok v

/-- The mesh that a path becomes in a scope of meshes. -/
def promoted (s : Scope) (p : Path) : Node where
  kind := .path
  name := .ofText? s.name
  transform := s.childTransform
  paths := [p]
  location := s.location

/-- Add a child. -/
def addChild (v : Value) : Step Scope Unit :=
  modify fun s => { s with children := s.children.push v }

/-- **Add a single value.** -/
def addLeaf (v : Value) : Step Scope Unit := do
  let s ← get
  if s.childKinds.contains v.kind then
    addChild (← Step.ofExcept (placed s.childTransform v))
  else
    match v with
    | .path p =>
      if s.childKinds.contains .mesh then addChild (.mesh (s.promoted p))
      else throw (.unplaced (.unusedValue v.kind.description))
    | v => throw (.unplaced (.unusedValue v.kind.description))

mutual

/-- **Add a value** to the children. -/
def add : Value → Step Scope Unit
  | .tuple vs => addAll vs
  | v => addLeaf v

/-- Add the values of a list, one after the other. -/
def addAll : List Value → Step Scope Unit
  | [] => pure ()
  | v :: rest => do
    add v
    addAll rest

end

end SceneLang.Scope
