import SceneLang.Program.Basic
import SceneLang.Symbol.Block
import SceneLang.Value.Basic

/-!
# Symbols

A symbol is what a name stands for: a command, a property of the node that is being built, a block
or a constant.  Symbols are plain data.  What a command does, how a property is read and written and
what a block builds is said where scripts are run.
-/

namespace SceneLang

/-- The functions of one number. -/
inductive NumberFunction where
  | round
  | floor
  | ceil
  | abs
  | sqrt
  | sin
  | cos
  | tan
  | asin
  | acos
  | atan
  deriving Repr, DecidableEq, Inhabited

/-- **The commands**: each takes one argument and gives a value. -/
inductive Command where
  | function (f : NumberFunction)
  | atan2
  | pow
  | min
  | max
  /-- A random number. -/
  | rnd
  | seed
  | print
  | assert
  /-- Move, turn or resize everything that is added from now on. -/
  | translate
  | rotate
  | scale
  /-- A corner or a curved point of a path. -/
  | point
  | curve
  deriving Repr, DecidableEq, Inhabited

/-- **The kind of argument that a command takes.** -/
def Command.parameter : Command → Kind
  | .function _ | .seed => .number
  | .atan2 | .pow => .pair
  | .min | .max | .print | .assert => .tuple
  | .rnd => .void
  | .translate | .rotate | .point | .curve => .vector
  | .scale => .size

/-- **The properties** of the node that is being built. -/
inductive Property where
  | detail
  | font
  | position
  | orientation
  | size
  | color
  | texture
  | opacity
  | name
  | background
  deriving Repr, DecidableEq, Inhabited

/-- **The kind of value that a property has.** -/
def Property.kind : Property → Kind
  | .detail | .opacity => .number
  | .font => .font
  | .position | .orientation => .vector
  | .size => .size
  | .color => .color
  | .texture => .texture
  | .name => .string
  | .background => .colorOrTexture

/-- **The standard blocks.** -/
inductive Shape where
  /-- A solid that is made of nothing else. -/
  | solid (kind : NodeKind)
  | circle
  | square
  | polygon
  | path
  /-- A solid made from paths. -/
  | built (kind : NodeKind)
  /-- A combination of nodes. -/
  | combined (kind : NodeKind)
  /-- The outlines of a text. -/
  | text
  deriving Repr, DecidableEq, Inhabited

/-- **The kind of a standard block.** -/
def Shape.blockType : Shape → BlockType
  | .solid _ | .circle | .square => .primitive
  | .polygon => .plain ⟨[("sides", .number)]⟩
  | .path => .path
  | .built _ => .builder
  | .combined _ => .group
  | .text => .text

/-- **A block that a script defines.**  Its body runs below the scope that defined it, which is
remembered by its height in the stack of scopes. -/
structure Closure where
  body : Block
  options : Bindings Kind
  level : Nat
  /-- The source that the definition stands in. -/
  source : String
  /-- The file that the definition stands in; none for the main program. -/
  file : Option FilePath
  deriving Inhabited

/-- The kind of a defined block. -/
def Closure.blockType (c : Closure) : BlockType := .plain c.options

/-- **What a name stands for.** -/
inductive Symbol where
  | command (c : Command)
  | property (p : Property)
  | shape (s : Shape)
  | closure (c : Closure)
  | constant (v : Value)
  deriving Inhabited

/-- The kind of the block that a symbol is. -/
def Symbol.blockType? : Symbol → Option BlockType
  | .shape s => some s.blockType
  | .closure c => some c.blockType
  | _ => none

end SceneLang
