import SceneLang.Geometry.Node
import SceneLang.Symbol.Standard

/-!
# Scopes

A scope is what the statements of a block act on: it collects children and holds the state of the
node that is being built, together with the names defined in the block.  Scopes form a stack, the
innermost first.  A scope knows its parent, where names are looked up that it does not define, by the
parent's height in the stack.

A block gets a fresh scope (`push`), a definition one that takes meshes and paths
(`pushDefinition`), and a turn of a loop a copy of the scope around it (`pushLoop`), from which
everything but the definitions is handed back in the end (`absorb`).
-/

namespace SceneLang

/-- **What the statements of a block act on.** -/
structure Scope where
  /-- The text that the statements stand in. -/
  source : String := ""
  /-- The file that the statements stand in; none for the main program. -/
  file : Option FilePath := none
  /-- Where in the source the node being built was written. -/
  sourceIndex : Option Int := none
  /-- The height of the parent in the stack. -/
  parent : Option Nat := none
  /-- The standard names that are visible. -/
  table : SymbolTable := .root
  /-- The names defined here. -/
  definitions : Bindings Symbol := .empty
  /-- The names that the caller of a block could see. -/
  callerDefinitions : Bindings Symbol := .empty
  /-- The kinds of children that are taken. -/
  childKinds : List Kind := [.mesh]
  children : Array Value := #[]
  name : Option String := none
  transform : Transform Float := Transform.identity
  /-- Where children are put from now on. -/
  childTransform : Transform Float := Transform.identity
  material : Material Float := {}
  opacity : Float := 1
  detail : Int := 16
  font : Option String := none
  background : Option Backdrop := none
  /-- The number of defined blocks that are running. -/
  depth : Nat := 0
  deriving Inhabited

namespace Scope

/-- **The scope of a block** that is called here; `level` is the height of this scope. -/
def push (s : Scope) (level : Nat) (block : BlockType) : Scope where
  source := s.source
  file := s.file
  sourceIndex := s.sourceIndex
  parent := some level
  table := block.table
  childKinds := block.childKinds
  material := s.material
  opacity := s.opacity
  detail := s.detail
  font := s.font
  background := s.background
  depth := s.depth

/-- **The scope of a definition** that is made here. -/
def pushDefinition (s : Scope) (level : Nat) : Scope :=
  { s.push level .group with table := .definition, childKinds := definitionChildKinds }

/-- **The scope of a turn of a loop.** -/
def pushLoop (s : Scope) (level : Nat) : Scope :=
  { s with parent := some level, definitions := .empty }

/-- **What a scope looks like after a turn of a loop**: it takes over the state of the turn, but not
its definitions. -/
def absorb (s inner : Scope) : Scope :=
  { s with
    children := inner.children
    name := inner.name
    transform := inner.transform
    childTransform := inner.childTransform
    material := inner.material
    opacity := inner.opacity
    detail := inner.detail
    font := inner.font
    background := inner.background
    sourceIndex := inner.sourceIndex }

/-- **Define a name** in a scope. -/
def define (s : Scope) (name : String) (symbol : Symbol) : Scope :=
  { s with definitions := s.definitions.set name symbol }

/-- The value of an option: the constant that a name stands for in this very scope. -/
def option? (s : Scope) (name : String) : Option Value :=
  match s.definitions.get? name with
  | some (.constant v) => some v
  | _ => none

/-- **Where the node being built was written.** -/
def location (s : Scope) : Option SourceLocation :=
  s.sourceIndex.map fun i => SourceLocation.of s.source i (s.file.map FilePath.name)

end Scope

end SceneLang
