import SceneLang.Program.Encode
import SceneLang.Json.Field

/-!
# Reading programs

The way back from documents to programs.  The type of a part is looked at first, then its range,
then its fields in order, so of several faults the first in that order is reported.  Numbers may be
given as texts or truth values, and a name or a text by any document, which then stands for itself
as text.
-/

namespace SceneLang

/-- The range given by two bounds.  Anything but two whole numbers is refused; an infinite bound is
too large. -/
def SourceRange.ofBounds (bounds : Json) : Except Fault SourceRange :=
  let refusal : Fault := .invalid (.badRange bounds)
  let whole (j : Json) : Except Fault Int :=
    match j.toWhole with
    | .ok n => .ok n
    | .error .unusable => .error refusal
    | .error .endless => .error .tooLarge
  match bounds.parts? with
  | some [a, b] => do
    let a ← whole a
    let b ← whole b
    return ⟨a, b⟩
  | _ => .error refusal

/-- The range of an object; it is empty at the start of the source when it is not given. -/
def SourceRange.ofJson (j : Json) : Except Fault SourceRange :=
  if j.isObject then SourceRange.ofBounds (j.getD "range" (.arr [.int 0, .int 0]))
  else .error (.invalid (.notObject j))

/-- A field that has to be there. -/
def Json.required (j : Json) (name : String) :
    Except Fault { v : Json // sizeOf v < sizeOf j } :=
  match j.field? name with
  | some v => .ok v
  | none => .error (.invalid (.missingField name))

/-- A name with its range. -/
def Identifier.ofJson (j : Json) : Except Fault Identifier := do
  let range ← SourceRange.ofJson j
  let ⟨name, _⟩ ← j.required "name"
  return ⟨range, name.text⟩

/-- A colour literal: hexadecimal notation, or components. -/
def Color.ofLiteral (j : Json) : Except Fault (Color Float) := do
  let color ← match j with
    | .str s => pure (Color.ofHex? s)
    | j =>
      match j.parts? with
      | none => throw .wrongKind
      | some parts => pure (Color.ofComponents? (← Json.toDoubles parts))
  match color with
  | some c => return c
  | none => throw (.invalid (.badColor j))

/-- The sign that a document names. -/
def PrefixOperator.ofJson (j : Json) : Except Fault PrefixOperator :=
  match j with
  | .str "-" => .ok .minus
  | .str "+" => .ok .plus
  | j => .error (.invalid (.notPrefixOperator j))

/-- The operation that a document names. -/
def InfixOperator.ofJson (j : Json) : Except Fault InfixOperator :=
  match j with
  | .str "+" => .ok .plus
  | .str "-" => .ok .minus
  | .str "*" => .ok .times
  | .str "/" => .ok .divide
  | j => .error (.invalid (.notInfixOperator j))

/-- The types of expression. -/
def expressionKinds : List String :=
  ["number", "string", "color", "identifier", "block", "tuple", "prefix", "infix", "range",
    "member", "subexpression"]

/-- The types of statement. -/
def statementKinds : List String :=
  ["command", "block", "expression", "define", "option", "for", "import"]

/-- The type of a part, one of the given ones.  A list or an object is not even looked up. -/
def kindOf (kinds : List String) (unknown : Json → Invalid) (j : Json) : Except Fault String :=
  match j.getD "type" .null with
  | .arr _ | .obj _ => .error .wrongKind
  | .str kind =>
    if kinds.contains kind then .ok kind else .error (.invalid (unknown (.str kind)))
  | other => .error (.invalid (unknown other))

/-- A definition that is not an object: whether the word `block` occurs in it decides which fault it
has. -/
def definitionFault (j : Json) : Fault :=
  let mentionsBlock : Option Bool := match j with
    | .arr items => some (items.any fun i => i matches .str "block")
    | .str s => some ((s.splitOn "block").length != 1)
    | _ => none
  match mentionsBlock with
  | some false => .invalid (.missingField "expression")
  | _ => .wrongKind

mutual

/-- **The expression of a document.** -/
def Expr.ofJson (j : Json) : Except Fault Expr := do
  if !j.isObject then throw (.invalid (.notExpression j))
  let kind ← kindOf expressionKinds .unknownExpression j
  let r ← SourceRange.ofJson j
  match kind with
  | "number" =>
    let ⟨value, _⟩ ← j.required "value"
    return .number r (← value.toDouble)
  | "string" =>
    let ⟨value, _⟩ ← j.required "value"
    return .string r value.text
  | "color" =>
    let ⟨value, _⟩ ← j.required "value"
    return .color r (← Color.ofLiteral value)
  | "identifier" =>
    let ⟨name, _⟩ ← j.required "name"
    return .identifier r name.text
  | "block" =>
    let ⟨callee, _⟩ ← j.required "identifier"
    let callee ← Identifier.ofJson callee
    let ⟨body, _⟩ ← j.required "block"
    return .block r callee (← Block.ofJson body)
  | "tuple" =>
    let ⟨items, _⟩ ← j.required "expressions"
    return .tuple r (← Expr.ofParts items)
  | "prefix" =>
    let ⟨op, _⟩ ← j.required "operator"
    let op ← PrefixOperator.ofJson op
    let ⟨operand, _⟩ ← j.required "operand"
    return .prefixed r op (← Expr.ofJson operand)
  | "infix" =>
    let ⟨left, _⟩ ← j.required "left"
    let left ← Expr.ofJson left
    let ⟨op, _⟩ ← j.required "operator"
    let op ← InfixOperator.ofJson op
    let ⟨right, _⟩ ← j.required "right"
    return .infixed r left op (← Expr.ofJson right)
  | "range" =>
    let ⟨first, _⟩ ← j.required "start"
    let first ← Expr.ofJson first
    let ⟨last, _⟩ ← j.required "end"
    let last ← Expr.ofJson last
    match j.field? "step" with
    | none | some ⟨.null, _⟩ => return .range r first last none
    | some ⟨step, _⟩ => return .range r first last (some (← Expr.ofJson step))
  | "member" =>
    let ⟨object, _⟩ ← j.required "object"
    let object ← Expr.ofJson object
    let ⟨member, _⟩ ← j.required "member"
    return .member r object (← Identifier.ofJson member)
  | _ =>
    let ⟨inner, _⟩ ← j.required "expression"
    return .sub r (← Expr.ofJson inner)
termination_by sizeOf j

/-- The expressions of the parts of a document.  Only a list has objects for parts. -/
def Expr.ofParts (j : Json) : Except Fault (List Expr) :=
  match j with
  | .arr items => Expr.ofJsons items
  | j =>
    match j.parts? with
    | none => .error .wrongKind
    | some [] => .ok []
    | some (p :: _) => .error (.invalid (.notExpression p))
termination_by sizeOf j

/-- The expressions of a list of documents. -/
def Expr.ofJsons (items : List Json) : Except Fault (List Expr) :=
  match items with
  | [] => .ok []
  | j :: rest => do
    let e ← Expr.ofJson j
    let es ← Expr.ofJsons rest
    return e :: es
termination_by sizeOf items

/-- **The block of a document.** -/
def Block.ofJson (j : Json) : Except Fault Block := do
  let r ← SourceRange.ofJson j
  match j.field? "statements" with
  | none => return .mk r []
  | some ⟨items, _⟩ => return .mk r (← Statement.ofParts items)
termination_by sizeOf j

/-- **The statement of a document.** -/
def Statement.ofJson (j : Json) : Except Fault Statement := do
  if !j.isObject then throw (.invalid (.notStatement j))
  let kind ← kindOf statementKinds .unknownStatement j
  let r ← SourceRange.ofJson j
  match kind with
  | "command" =>
    let ⟨callee, _⟩ ← j.required "identifier"
    let callee ← Identifier.ofJson callee
    match j.field? "parameter" with
    | none | some ⟨.null, _⟩ => return .command r callee none
    | some ⟨e, _⟩ => return .command r callee (some (← Expr.ofJson e))
  | "block" =>
    let ⟨callee, _⟩ ← j.required "identifier"
    let callee ← Identifier.ofJson callee
    let ⟨body, _⟩ ← j.required "block"
    return .block r callee (← Block.ofJson body)
  | "expression" =>
    let ⟨e, _⟩ ← j.required "expression"
    return .expression r (← Expr.ofJson e)
  | "define" =>
    let ⟨name, _⟩ ← j.required "identifier"
    let name ← Identifier.ofJson name
    let ⟨d, _⟩ ← j.required "definition"
    return .define r name (← Definition.ofJson d)
  | "option" =>
    let ⟨name, _⟩ ← j.required "identifier"
    let name ← Identifier.ofJson name
    let ⟨e, _⟩ ← j.required "expression"
    return .option r name (← Expr.ofJson e)
  | "for" =>
    let binder? ← match j.get? "identifier" with
      | none | some .null => pure none
      | some v => pure (some (← Identifier.ofJson v))
    let ⟨e, _⟩ ← j.required "expression"
    let e ← Expr.ofJson e
    let ⟨body, _⟩ ← j.required "block"
    return .loop r binder? e (← Block.ofJson body)
  | _ =>
    let ⟨e, _⟩ ← j.required "expression"
    return .importFile r (← Expr.ofJson e)
termination_by sizeOf j

/-- The statements of the parts of a document.  Only a list has objects for parts. -/
def Statement.ofParts (j : Json) : Except Fault (List Statement) :=
  match j with
  | .arr items => Statement.ofJsons items
  | j =>
    match j.parts? with
    | none => .error .wrongKind
    | some [] => .ok []
    | some (p :: _) => .error (.invalid (.notStatement p))
termination_by sizeOf j

/-- The statements of a list of documents. -/
def Statement.ofJsons (items : List Json) : Except Fault (List Statement) :=
  match items with
  | [] => .ok []
  | j :: rest => do
    let s ← Statement.ofJson j
    let ss ← Statement.ofJsons rest
    return s :: ss
termination_by sizeOf items

/-- **The definition of a document**: a block if it has one, an expression otherwise. -/
def Definition.ofJson (j : Json) : Except Fault Definition := do
  if !j.isObject then throw (definitionFault j)
  match j.field? "block" with
  | some ⟨b, _⟩ => return .block (← Block.ofJson b)
  | none =>
    let ⟨e, _⟩ ← j.required "expression"
    return .expression (← Expr.ofJson e)
termination_by sizeOf j

end

/-- **The program of a document.** -/
def Program.ofJson (j : Json) : Except Fault Program := do
  if !j.isObject then throw (.invalid .programNotObject)
  match j.getD "source" (.str "") with
  | .str source =>
    match j.getD "statements" (.arr []) with
    | .arr items => return ⟨source, ← Statement.ofJsons items⟩
    | _ => throw (.invalid .statementsNotList)
  | _ => throw (.invalid .sourceNotText)

end SceneLang
