import SceneLang.Evaluation.Properties
import SceneLang.Evaluation.Shapes
import SceneLang.Evaluation.Coercion

/-!
# Running a script, one layer at a time

Statements contain expressions, expressions contain blocks, and blocks contain statements; a defined
block leads to a body somewhere else.  A `Runner` says how the next layer is run; the functions of the
modules below say what one layer does in terms of it, and `Evaluation.Run` ties the knot.  A runner
also limits how many turns a loop may take, because a loop can go on for ever.

Here: the parts that all layers share, the calls of defined blocks and the values of arguments.
-/

namespace SceneLang

/-- **How the next layer of a script is run.** -/
structure Runner where
  /-- How many turns a loop may take. -/
  turns : Nat
  expression : Env → Expr → Eval Value
  statement : Env → Statement → Eval Unit
  /-- What a block builds from the active scope. -/
  build : Env → Symbol → Eval Value
  /-- The body of a defined block. -/
  body : Env → Block → Eval Unit

namespace Runner

/-- Run statements, one after the other. -/
def statements (r : Runner) (env : Env) : List Statement → Eval Unit
  | [] => pure ()
  | s :: rest => do
    r.statement env s
    r.statements env rest

/-! ### Defined blocks -/

/-- How many defined blocks can run inside each other. -/
def deepestCall : Nat := 25

/-- The node of a path that stands among nodes. -/
def pathNode (s : Scope) (p : Path) : Node :=
  { kind := .path, paths := [p], location := s.location }

/-- The nodes of the children of a definition. -/
def resultNodes (s : Scope) : List Node :=
  s.children.toList.filterMap fun
    | .mesh n => some n
    | .path p => some (pathNode s p)
    | _ => none

/-- **The value of a defined block**, from the scope that its body leaves.  A single node takes the
name and the place of the call; a path stays a path unless it is given a name; several paths without
a name are a tuple of paths; and everything else is a group. -/
def resultOf (s : Scope) : Except Fault Value :=
  match s.children.toList with
  | [.mesh n] => do
    return .mesh { n with
      name := .ofText? s.name
      transform := ← n.transform.followedBy s.transform
      location := s.location }
  | [.path p] =>
    match s.name with
    | some name =>
      .ok (.mesh { pathNode s p with name := .str name, transform := s.transform })
    | none => s.placedPath p
  | children =>
    if s.name.isNone ∧ children ≠ [] ∧ children.all (·.kind = .path) then
      (s.placedPaths s.childPaths).map .tuple
    else
      .ok (.mesh {
        kind := .group
        name := .ofText? s.name
        transform := s.transform
        children := resultNodes s
        location := s.location })

/-- **The scope in which the body of a defined block runs.**  It lies below the scope of the
definition and takes from the caller the names it passes, its children and the state of its node. -/
def bodyScope (c : Closure) (defining caller : Scope) : Scope :=
  { defining.pushDefinition c.level with
    depth := caller.depth + 1
    definitions := caller.callerDefinitions.update caller.definitions
    children := caller.children
    name := caller.name
    transform := caller.transform
    opacity := caller.opacity
    detail := caller.detail }

/-- **The statements of the body of a defined block.**  An option keeps the value that the caller
gave it. -/
def bodyStatements (r : Runner) (env : Env) : List Statement → Eval Unit
  | [] => pure ()
  | .option _ name default :: rest => do
    if (← env.symbol? name.name).isNone then
      let v ← r.expression env default
      Eval.modifyScope fun s => s.define name.name (.constant v)
    r.bodyStatements env rest
  | s :: rest => do
    r.statement env s
    r.bodyStatements env rest

/-- Call a defined block from the active scope. -/
def call (r : Runner) (env : Env) (c : Closure) : Eval Value := do
  let caller ← Eval.scope
  match Scope.atLevel? env.enclosing c.level with
  | none => throw (.fault .outOfBounds)
  | some defining =>
    let scope := bodyScope c defining caller
    if deepestCall < scope.depth then
      throw (.unplaced (.assertionFailure "Too much recursion"))
    env.inside scope Env.leaveBlock fun inner => do
      r.body inner c.body
      Step.ofExcept (resultOf (← Eval.scope))

/-- An error in another file. -/
def inFile (file source : String) : Exit → Exit
  | .error e => .unplaced (.importedFileError e file source)
  | x => x

/-- **Call a defined block**; an error in a block of another file says so. -/
def callFromFile (r : Runner) (env : Env) (c : Closure) : Eval Value := do
  let caller ← Eval.scope
  if caller.file = c.file then r.call env c
  else Step.mapExit (inFile ((c.file.map FilePath.name).getD "") c.source) (r.call env c)

/-- **What a block builds** from the active scope. -/
def construct (r : Runner) (env : Env) : Symbol → Eval Value
  | .shape s => s.build env.setting
  | .closure c => r.callFromFile env c
  | _ => throw (.fault .wrongKind)

/-- What a block builds in a scope of its own. -/
def buildIn (r : Runner) (env : Env) (scope : Scope) (symbol : Symbol) : Eval Value :=
  env.inside scope Env.leaveBlock fun inner => r.build inner symbol

/-! ### Arguments -/

/-- Add values to the children of a block that is called with them.  One that does not fit is
reported as such. -/
def gather (name : String) (place : SourceRange) : List Value → Scope → Except Exit Scope
  | [], s => .ok s
  | v :: rest, s =>
    match Scope.add v s with
    | .ok _ s => gather name place rest s
    | .error (.error _) _ =>
      .error (.raise (.typeMismatch name 0 "block" v.kind.description) place)
    | .error x _ => .error x

/-- Add the values of expressions to the children of a block. -/
def gatherAll (r : Runner) (env : Env) (name : String) : List Expr → Scope → Eval Scope
  | [], s => return s
  | e :: rest, s => do
    let v ← r.expression env e
    let s ← Step.ofExit (gather name e.sourceRange v.elements s)
    r.gatherAll env name rest s

/-- The range of expressions in a row. -/
def rowRange (first : Expr) (rest : List Expr) : SourceRange :=
  first.sourceRange.through (rest.getLastD first).sourceRange

/-- What a bare name takes when further expressions follow it. -/
inductive Appetite where
  /-- A command takes them as its argument. -/
  | argument (command : Command)
  /-- A block takes them as its children. -/
  | children (symbol : Symbol) (block : BlockType)
  /-- Anything else leaves them alone. -/
  | nothing

/-- What a symbol takes when further expressions follow it. -/
def appetite : Option Symbol → Appetite
  | some (.command c) => if c.parameter = .void then .nothing else .argument c
  | some (.shape s) =>
    if s.blockType.childKinds.isEmpty then .nothing else .children (.shape s) s.blockType
  | some (.closure c) =>
    if c.blockType.childKinds.isEmpty then .nothing else .children (.closure c) c.blockType
  | _ => .nothing

/-- What an expression takes when further expressions follow it. -/
def appetiteOf (env : Env) : Expr → Eval Appetite
  | .identifier _ name => return appetite (← env.symbol? name)
  | _ => return .nothing

/-- The name that an expression is. -/
def nameOf : Expr → String
  | .identifier _ name => name
  | _ => ""

/-- **The values of expressions in a row.**  The name of a command takes everything after it as its
argument, and the name of a block as its children. -/
def row (r : Runner) (env : Env) : List Expr → Eval (List Value)
  | [] => return []
  | [e] => return [← r.expression env e]
  | e :: next :: rest => do
    match ← appetiteOf env e with
    | .argument c =>
      let range := rowRange next rest
      let values ← r.row env (next :: rest)
      let argument : Argument := ⟨nameOf e, 0, range, next :: rest⟩
      let v ← argument.coerce env.setting c.parameter (values.map Value.unwrap)
      return [← Step.locate range (c.run env.setting v)]
    | .children symbol block =>
      let scope := (← Eval.scope).push env.level block
      let scope ← r.gatherAll env (nameOf e) (next :: rest) scope
      return [← Step.locate e.sourceRange (r.buildIn env scope symbol)]
    | .nothing =>
      let v ← r.expression env e
      return v :: (← r.row env (next :: rest))

/-- The parameters that an expression stands for. -/
def parametersOf : Expr → List Expr
  | .tuple _ items => items
  | e => [e]

/-- **The value of an expression as an argument** of a given kind. -/
def valueAs (r : Runner) (env : Env) (e : Expr) (kind : Kind) (name : String) (index : Int) :
    Eval Value := do
  let parameters := parametersOf e
  let values ← r.row env parameters
  let argument : Argument := ⟨name, index, e.sourceRange, parameters⟩
  argument.coerce env.setting kind (values.map Value.unwrap)

/-- The number that an expression stands for. -/
def numberAs (r : Runner) (env : Env) (e : Expr) (name : String) (index : Int) : Eval Float := do
  match ← r.valueAs env e .number name index with
  | .number x => return x
  | _ => Step.wrongKind

/-- **The value of the argument of a name**, which may be missing. -/
def parameter (r : Runner) (env : Env) (e : Option Expr) (kind : Kind) (callee : Identifier) :
    Eval Value :=
  match e with
  | some e => r.valueAs env e kind callee.name 0
  | none =>
    if kind = .void then return .void
    else throw (.raise (.missingArgument callee.name 0 kind.description) callee.range.upperBound)

end Runner

end SceneLang
