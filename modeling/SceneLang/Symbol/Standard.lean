import SceneLang.Symbol.Basic

/-!
# Standard names

Every kind of block sees one of a few tables of standard names.  The body of a solid can set what
belongs to the solid itself; a group can also make further shapes; a path has commands for points;
and only the program itself has a background.
-/

namespace SceneLang

/-- Numbers, colours, functions and settings, which are visible everywhere. -/
def commonNames : List (String × Symbol) := [
  ("pi", .constant (.number Rotation.pi)),
  ("red", .constant (.color .red)),
  ("green", .constant (.color .green)),
  ("blue", .constant (.color .blue)),
  ("yellow", .constant (.color .yellow)),
  ("cyan", .constant (.color .cyan)),
  ("magenta", .constant (.color .magenta)),
  ("white", .constant (.color .white)),
  ("black", .constant (.color .black)),
  ("gray", .constant (.color .gray)),
  ("grey", .constant (.color .gray)),
  ("clear", .constant (.color .clear)),
  ("round", .command (.function .round)),
  ("floor", .command (.function .floor)),
  ("ceil", .command (.function .ceil)),
  ("abs", .command (.function .abs)),
  ("sqrt", .command (.function .sqrt)),
  ("sin", .command (.function .sin)),
  ("cos", .command (.function .cos)),
  ("tan", .command (.function .tan)),
  ("asin", .command (.function .asin)),
  ("acos", .command (.function .acos)),
  ("atan", .command (.function .atan)),
  ("atan2", .command .atan2),
  ("pow", .command .pow),
  ("min", .command .min),
  ("max", .command .max),
  ("rnd", .command .rnd),
  ("seed", .command .seed),
  ("print", .command .print),
  ("assert", .command .assert),
  ("detail", .property .detail),
  ("font", .property .font)]

/-- Where a node stands and how large it is. -/
def placementNames : List (String × Symbol) := [
  ("position", .property .position),
  ("orientation", .property .orientation),
  ("size", .property .size)]

/-- Commands that place everything after them. -/
def movementNames : List (String × Symbol) := [
  ("translate", .command .translate),
  ("rotate", .command .rotate),
  ("scale", .command .scale)]

/-- What a node is made of. -/
def materialNames : List (String × Symbol) := [
  ("color", .property .color),
  ("texture", .property .texture),
  ("opacity", .property .opacity)]

/-- What a node is called. -/
def labelNames : List (String × Symbol) := [("name", .property .name)]

/-- The standard blocks. -/
def shapeNames : List (String × Symbol) := [
  ("cube", .shape (.solid .cube)),
  ("sphere", .shape (.solid .sphere)),
  ("cylinder", .shape (.solid .cylinder)),
  ("cone", .shape (.solid .cone)),
  ("circle", .shape .circle),
  ("square", .shape .square),
  ("polygon", .shape .polygon),
  ("path", .shape .path),
  ("extrude", .shape (.built .extrude)),
  ("lathe", .shape (.built .lathe)),
  ("loft", .shape (.built .loft)),
  ("fill", .shape (.built .fill)),
  ("group", .shape (.combined .group)),
  ("union", .shape (.combined .union)),
  ("difference", .shape (.combined .difference)),
  ("intersection", .shape (.combined .intersection)),
  ("xor", .shape (.combined .xor)),
  ("stencil", .shape (.combined .stencil)),
  ("text", .shape .text)]

/-- The points of a path. -/
def pointNames : List (String × Symbol) := [("point", .command .point), ("curve", .command .curve)]

/-- What only a whole program has. -/
def sceneNames : List (String × Symbol) := [("background", .property .background)]

def primitiveTable : Bindings Symbol :=
  ⟨commonNames ++ placementNames ++ materialNames ++ labelNames⟩

def groupTable : Bindings Symbol := ⟨primitiveTable.entries ++ movementNames ++ shapeNames⟩

def pathTable : Bindings Symbol :=
  ⟨commonNames ++ placementNames ++ labelNames ++ movementNames ++ shapeNames ++ pointNames⟩

def textTable : Bindings Symbol :=
  ⟨commonNames ++ placementNames ++ labelNames ++ materialNames⟩

def rootTable : Bindings Symbol := ⟨groupTable.entries ++ sceneNames⟩

/-- **The names of a standard table.** -/
def SymbolTable.symbols : SymbolTable → Bindings Symbol
  | .primitive => primitiveTable
  | .group | .builder | .definition => groupTable
  | .path => pathTable
  | .text => textTable
  | .root => rootTable

/-- Every name that some standard table has. -/
def standardNames : List String :=
  (SymbolTable.all.flatMap fun t => t.symbols.names).eraseDups

/-- **Whether the language itself gives a name a meaning**, here or elsewhere. -/
def isStandardName (name : String) : Bool :=
  keywords.contains name || standardNames.contains name

/-- Names in ascending order. -/
def sortNames (names : List String) : List String := names.mergeSort fun a b => decide (a ≤ b)

end SceneLang
