import SceneLang.Evaluation.Runner

/-!
# The value of an expression

One layer of an expression: its parts are run by the given runner.
-/

namespace SceneLang.Runner

/-- Stop because a name stands for nothing. -/
def unknown {α : Type} (env : Env) (name : String) (range : SourceRange) : Eval α := do
  throw (.raise (.unknownSymbol name (Scope.expressionNames (← env.stack))) range)

/-! ### Names -/

/-- **The value of a bare name.**  A command or a block that needs something cannot stand alone. -/
def identifier (r : Runner) (env : Env) (range : SourceRange) (name : String) : Eval Value := do
  match ← env.symbol? name with
  | none => unknown env name range
  | some (.command c) =>
    if c.parameter = .void then Step.locate range (c.run env.setting .void)
    else
      throw (.raise (.missingArgument name 0 c.parameter.description) range.upperBound)
  | some (.property p) => Step.locate range p.get
  | some (.constant v) => return v
  | some symbol =>
    let block := symbol.blockType?.getD .primitive
    if block.childKinds.isEmpty then
      let scope := (← Eval.scope).push env.level block
      Step.locate range (r.buildIn env scope symbol)
    else throw (.raise (.missingArgument name 0 "block") range.upperBound)

/-! ### Blocks -/

/-- Run the body of a block call.  A command that is named like an option sets the option. -/
def callBody (r : Runner) (env : Env) (options : Bindings Kind) : List Statement → Eval Unit
  | [] => pure ()
  | .option range _ _ :: _ => throw (.raise (.unknownSymbol "option" []) range)
  | .command range callee e :: rest => do
    match options.get? callee.name with
    | some kind =>
      let v ← r.parameter env e kind callee
      Eval.modifyScope fun s => s.define callee.name (.constant v)
    | none => r.statement env (.command range callee e)
    r.callBody env options rest
  | s :: rest => do
    r.statement env s
    r.callBody env options rest

/-- **The value of a block call.**  The body runs in a scope of its own, from which the block then
builds its value. -/
def block (r : Runner) (env : Env) (callee : Identifier) (body : Block) : Eval Value := do
  match ← env.symbol? callee.name with
  | none => unknown env callee.name callee.range
  | some (.command c) =>
    throw (.raise (.typeMismatch callee.name 0 c.parameter.description "block") body.sourceRange)
  | some symbol =>
    match symbol.blockType? with
    | none => throw (.raise (.unexpectedArgument callee.name 0) body.sourceRange)
    | some block =>
      let outer ← Eval.scope
      let scope := { outer.push env.level block with
        callerDefinitions := Scope.visibleDefinitions (← env.stack) }
      env.inside scope Env.leaveBlock fun inner => do
        r.callBody inner block.options body.statements
        Eval.modifyScope fun s => { s with sourceIndex := outer.sourceIndex }
        Step.locate callee.range (r.build inner symbol)

/-! ### Operators, ranges and members -/

/-- The value of an operation.  Division follows the rules of binary fractions: by zero it gives an
infinity or NaN. -/
def operate : InfixOperator → Float → Float → Float
  | .plus, x, y => x + y
  | .minus, x, y => x - y
  | .times, x, y => x * y
  | .divide, x, y => x / y

/-- The range with the given ends and step. -/
def range (r : Runner) (env : Env) (first last : Expr) (step : Option Expr) : Eval Value := do
  let start ← r.numberAs env first "start value" 0
  let stop ← r.numberAs env last "end value" 0
  match step with
  | none => return .range ⟨start, stop, 1⟩
  | some e =>
    let step ← r.numberAs env e "step value" 0
    match NumberRange.ofBounds start stop step with
    | .ok range => return .range range
    | .error _ =>
      throw (.raise (.assertionFailure "Step value must be nonzero") e.sourceRange)

/-- The value whose members are offered when one is not found: a tuple of one value stands for
that value. -/
def memberOwner : Value → Value
  | .tuple [v] => v
  | v => v

/-- The member of a value. -/
def member (v : Value) (name : Identifier) : Except Exit Value :=
  match v.member? name.name with
  | some m => .ok m
  | none =>
    let owner := memberOwner v
    .error (.raise (.unknownMember name.name owner.kind.description owner.members) name.range)

/-- **The value of an expression.** -/
def evaluate (r : Runner) (env : Env) : Expr → Eval Value
  | .number _ x => return .number x
  | .string _ s => return .string (some s)
  | .color _ c => return .color c
  | .identifier range name => r.identifier env range name
  | .block _ callee body => r.block env callee body
  | .tuple _ items => return .tuple (← r.row env items)
  | .prefixed _ operator operand => do
    let x ← r.numberAs env operand operator.text 0
    match operator with
    | .minus => return .number (-x)
    | .plus => return .number x
  | .infixed _ left operator right => do
    let x ← r.numberAs env left operator.text 0
    let y ← r.numberAs env right operator.text 1
    return .number (operate operator x y)
  | .range _ first last step => r.range env first last step
  | .member _ object name => do
    Step.ofExit (member (← r.expression env object) name)
  | .sub _ inner => r.expression env inner

end SceneLang.Runner
