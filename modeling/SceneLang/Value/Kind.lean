/-!
# Kinds of value

A `Kind` names what a value is or what a command takes.  Four of them never belong to a value and
only say how an argument is read: a colour or a texture, any mixture of paths, a pair of numbers,
and a font.  `void` is what a command takes that takes nothing.
-/

namespace SceneLang

/-- **The kinds of values and arguments.** -/
inductive Kind where
  | color
  | texture
  | colorOrTexture
  | font
  | number
  | vector
  | size
  | string
  | path
  | paths
  | mesh
  | tuple
  | point
  | pair
  | range
  | void
  deriving Repr, DecidableEq, Inhabited

namespace Kind

/-- All kinds, in order. -/
def all : List Kind :=
  [.color, .texture, .colorOrTexture, .font, .number, .vector, .size, .string, .path, .paths, .mesh,
    .tuple, .point, .pair, .range, .void]

/-- The name of a kind. -/
def word : Kind → String
  | .color => "color"
  | .texture => "texture"
  | .colorOrTexture => "colorOrTexture"
  | .font => "font"
  | .number => "number"
  | .vector => "vector"
  | .size => "size"
  | .string => "string"
  | .path => "path"
  | .paths => "paths"
  | .mesh => "mesh"
  | .tuple => "tuple"
  | .point => "point"
  | .pair => "pair"
  | .range => "range"
  | .void => "void"

/-- The kind of a name. -/
def ofWord? (w : String) : Option Kind := all.find? fun k => k.word = w

/-- **The name of a kind in messages.** -/
def description : Kind → String
  | .colorOrTexture => "color or texture"
  | .paths => "path"
  | k => k.word

end Kind

/-- The names of the positions in a tuple, which messages use too. -/
def ordinals : List String :=
  ["first", "second", "third", "fourth", "fifth", "sixth", "seventh", "eighth", "ninth", "tenth"]

/-- The position that a name stands for. -/
def ordinalIndex? (name : String) : Option Nat := ordinals.idxOf? name

end SceneLang
