import SceneLang.Program.Basic

/-!
# Programs as documents

Every expression and statement is an object with its range and its type; the parts follow under
their names.  An optional part that is missing has no field.
-/

namespace SceneLang

/-- A range: its two offsets. -/
def SourceRange.toJson (r : SourceRange) : Json := .arr [.int r.start, .int r.stop]

/-- A name with its range. -/
def Identifier.toJson (i : Identifier) : Json :=
  .obj [("name", .str i.name), ("range", i.range.toJson)]

/-- The document of a part of the given type. -/
def partJson (range : SourceRange) (kind : String) (fields : List (String × Json)) : Json :=
  .obj (("range", range.toJson) :: ("type", .str kind) :: fields)

mutual

/-- **An expression as a document.** -/
def Expr.toJson : Expr → Json
  | .number r x => partJson r "number" [("value", .float x)]
  | .string r s => partJson r "string" [("value", .str s)]
  | .color r c => partJson r "color" [("value", .arr (c.toList.map .float))]
  | .identifier r n => partJson r "identifier" [("name", .str n)]
  | .block r callee body =>
    partJson r "block" [("identifier", callee.toJson), ("block", Block.toJson body)]
  | .tuple r items => partJson r "tuple" [("expressions", .arr (Expr.toJsons items))]
  | .prefixed r op e =>
    partJson r "prefix" [("operator", .str op.text), ("operand", Expr.toJson e)]
  | .infixed r a op b =>
    partJson r "infix"
      [("left", Expr.toJson a), ("operator", .str op.text), ("right", Expr.toJson b)]
  | .range r a b none => partJson r "range" [("start", Expr.toJson a), ("end", Expr.toJson b)]
  | .range r a b (some c) =>
    partJson r "range"
      [("start", Expr.toJson a), ("end", Expr.toJson b), ("step", Expr.toJson c)]
  | .member r e m => partJson r "member" [("object", Expr.toJson e), ("member", m.toJson)]
  | .sub r e => partJson r "subexpression" [("expression", Expr.toJson e)]

/-- The documents of a list of expressions. -/
def Expr.toJsons : List Expr → List Json
  | [] => []
  | e :: rest => Expr.toJson e :: Expr.toJsons rest

/-- **A block as a document.** -/
def Block.toJson : Block → Json
  | .mk r ss => .obj [("range", r.toJson), ("statements", .arr (Statement.toJsons ss))]

/-- **A statement as a document.** -/
def Statement.toJson : Statement → Json
  | .command r callee none => partJson r "command" [("identifier", callee.toJson)]
  | .command r callee (some e) =>
    partJson r "command" [("identifier", callee.toJson), ("parameter", Expr.toJson e)]
  | .block r callee body =>
    partJson r "block" [("identifier", callee.toJson), ("block", Block.toJson body)]
  | .expression r e => partJson r "expression" [("expression", Expr.toJson e)]
  | .define r name d =>
    partJson r "define" [("identifier", name.toJson), ("definition", Definition.toJson d)]
  | .option r name e =>
    partJson r "option" [("identifier", name.toJson), ("expression", Expr.toJson e)]
  | .loop r none e body =>
    partJson r "for" [("expression", Expr.toJson e), ("block", Block.toJson body)]
  | .loop r (some v) e body =>
    partJson r "for"
      [("expression", Expr.toJson e), ("block", Block.toJson body), ("identifier", v.toJson)]
  | .importFile r e => partJson r "import" [("expression", Expr.toJson e)]

/-- The documents of a list of statements. -/
def Statement.toJsons : List Statement → List Json
  | [] => []
  | s :: rest => Statement.toJson s :: Statement.toJsons rest

/-- **A definition as a document.** -/
def Definition.toJson : Definition → Json
  | .expression e => .obj [("expression", Expr.toJson e)]
  | .block b => .obj [("block", Block.toJson b)]

end

/-- **A program as a document.** -/
def Program.toJson (p : Program) : Json :=
  .obj [("source", .str p.source), ("statements", .arr (Statement.toJsons p.statements))]

end SceneLang
