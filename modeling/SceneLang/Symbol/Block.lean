import SceneLang.Symbol.Bindings
import SceneLang.Value.Kind

/-!
# Kinds of block

The kind of a block says which children the block takes, which standard names its body sees and
which options it has.  A custom kind adds options to another one; without a base it takes no
children and its body sees the names of a primitive shape.
-/

namespace SceneLang

/-- **The standard tables of names.** -/
inductive SymbolTable where
  | primitive
  | group
  | builder
  | path
  | text
  | definition
  | root
  deriving Repr, DecidableEq, Inhabited

namespace SymbolTable

/-- All tables, in order. -/
def all : List SymbolTable := [.primitive, .group, .builder, .path, .text, .definition, .root]

/-- The name of a table. -/
def word : SymbolTable → String
  | .primitive => "primitive"
  | .group => "group"
  | .builder => "builder"
  | .path => "path"
  | .text => "text"
  | .definition => "definition"
  | .root => "root"

/-- The table of a name. -/
def ofWord? (w : String) : Option SymbolTable := all.find? fun t => t.word = w

end SymbolTable

/-- **The kind of a block.** -/
inductive BlockType where
  | builder
  | group
  | path
  | text
  /-- A block without a base, with options of its own. -/
  | plain (options : Bindings Kind)
  /-- A block like another one, with further options. -/
  | extending (base : BlockType) (options : Bindings Kind)
  deriving Inhabited

namespace BlockType

/-- A shape without options or children. -/
def primitive : BlockType := .plain .empty

/-- **The options of a block**; its own replace those of its base. -/
def options : BlockType → Bindings Kind
  | .plain own => own
  | .extending base own => base.options.update own
  | _ => .empty

/-- **The kinds of children that a block takes.** -/
def childKinds : BlockType → List Kind
  | .builder => [.path]
  | .group => [.mesh]
  | .path => [.path, .point]
  | .text => [.string]
  | .plain _ => []
  | .extending base _ => base.childKinds

/-- **The standard names that the body of a block sees.** -/
def table : BlockType → SymbolTable
  | .builder => .builder
  | .group => .group
  | .path => .path
  | .text => .text
  | .plain _ => .primitive
  | .extending base _ => base.table

end BlockType

/-- The kinds of children that the body of a definition takes. -/
def definitionChildKinds : List Kind := [.mesh, .path]

end SceneLang
