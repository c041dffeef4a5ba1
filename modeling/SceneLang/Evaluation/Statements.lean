import SceneLang.Evaluation.Expressions
import SceneLang.Evaluation.Imports

/-!
# What statements do

One layer of a statement: its parts are run by the given runner.
-/

namespace SceneLang.Runner

/-- Remember where the node being built was written. -/
def mark (index : Int) : Eval Unit :=
  Eval.modifyScope fun s => { s with sourceIndex := some index }

/-! ### Commands -/

/-- A block that is called by name, with or without children. -/
def blockCommand (r : Runner) (env : Env) (callee : Identifier) (symbol : Symbol)
    (block : BlockType) (parameter : Option Expr) : Eval Unit := do
  mark callee.range.start
  match parameter with
  | some e =>
    let child := (← r.expression env e).unwrap
    if child.elements.all fun c => block.childKinds.contains c.kind then
      Step.locate callee.range do
        let scope := (← Eval.scope).push env.level block
        let v ← env.inside scope Env.leaveBlock fun inner => do
          Eval.onScope (Scope.addAll child.elements)
          r.build inner symbol
        Eval.addValue v
    else
      throw (.raise (.typeMismatch callee.name 0 "block" child.kind.description) e.sourceRange)
  | none =>
    if block.childKinds.isEmpty then
      Step.locate callee.range do
        let scope := (← Eval.scope).push env.level block
        Eval.addValue (← r.buildIn env scope symbol)
    else throw (.raise (.missingArgument callee.name 0 "block") callee.range)

/-- **A name as a statement.** -/
def command (r : Runner) (env : Env) (callee : Identifier) (parameter : Option Expr) :
    Eval Unit := do
  match ← env.symbol? callee.name with
  | none =>
    throw (.raise (.unknownSymbol callee.name (Scope.commandNames (← env.stack))) callee.range)
  | some (.command c) =>
    let argument ← r.parameter env parameter c.parameter callee
    Step.locate callee.range do Eval.addValue (← c.run env.setting argument)
  | some (.property p) =>
    let argument ← r.parameter env parameter p.kind callee
    Step.locate callee.range (p.set argument)
  | some (.constant v) => Step.locate callee.range (Eval.addValue v)
  | some symbol =>
    r.blockCommand env callee symbol (symbol.blockType?.getD .primitive) parameter

/-! ### Loops -/

/-- Ask the host whether to go on. -/
def poll (setting : Setting) : Eval Unit := do
  let asked := (← get).world.polls
  Eval.modifyWorld fun w => { w with polls := asked + 1 }
  if setting.isCancelled asked then throw .cancelled

/-- **One turn of a loop**, in a scope of its own where the variable stands for the element.  The
host is asked first; a turn counts as started when its scope is made. -/
def turn (r : Runner) (env : Env) (binder? : Option Identifier) (body : Block)
    (element : Value) : Eval Unit := do
  poll env.setting
  Eval.modifyWorld fun w => { w with turns := w.turns + 1 }
  let scope := (← Eval.scope).pushLoop env.level
  env.inside scope Env.leaveLoop fun inner => do
    if let some name := binder? then
      Eval.modifyScope fun s => s.define name.name (.constant element)
    r.statements inner body.statements

/-- Do something for each element of a list. -/
def overList (act : Value → Eval Unit) : List Value → Eval Unit
  | [] => pure ()
  | v :: rest => do
    act v
    overList act rest

/-- Do something for each item of a range from item `i` on, at most as often as the first number
says. -/
def overRange (act : Value → Eval Unit) (range : NumberRange Float) : Nat → Nat → Eval Unit
  | 0, _ => throw .exhausted
  | turns + 1, i =>
    match range.item? i with
    | none => pure ()
    | some x => do
      act (.number x)
      overRange act range turns (i + 1)

/-- **A loop** over a range or over the elements of a tuple. -/
def loop (r : Runner) (env : Env) (binder? : Option Identifier) (sequence : Expr)
    (body : Block) : Eval Unit := do
  let act := r.turn env binder? body
  match ← r.expression env sequence with
  | .range range | .tuple [.range range] => overRange act range r.turns 0
  | .tuple elements => overList act elements
  | v =>
    throw (.raise (.typeMismatch "range" 0 "range or tuple" v.kind.description)
      sequence.sourceRange)

/-! ### Definitions -/

/-- A constant is kept as a tuple, so that its elements can be named and looped over. -/
def constantOf : Value → Symbol
  | .tuple vs => .constant (.tuple vs)
  | v => .constant (.tuple [v])

/-- The options of a definition, with the kinds of their defaults. -/
def optionKinds (r : Runner) (env : Env) (options : Bindings Kind) :
    List Statement → Eval (Bindings Kind)
  | [] => return options
  | .option _ name default :: rest => do
    let v ← r.expression env default
    r.optionKinds env (options.set name.name v.kind) rest
  | _ :: rest => r.optionKinds env options rest

/-- **What a definition makes of a name.** -/
def definition (r : Runner) (env : Env) : Definition → Eval Symbol
  | .expression e => do
    let scope := (← Eval.scope).pushDefinition env.level
    return constantOf (← env.inside scope Env.leaveBlock fun inner => r.expression inner e)
  | .block body => do
    let options ← r.optionKinds env .empty body.statements
    let s ← Eval.scope
    return .closure ⟨body, options, env.level, s.source, s.file⟩

/-! ### All statements -/

/-- An import: the file is given by a text. -/
def importStatement (r : Runner) (env : Env) (e : Expr) : Eval Unit := do
  match ← r.expression env e with
  | .string (some path) =>
    mark e.sourceRange.start
    Step.locate e.sourceRange (r.importFile env path)
  | v =>
    let got := match v with
      | .string _ => "nil"
      | v => v.kind.description
    throw (.raise (.typeMismatch "import" 0 Kind.string.description got) e.sourceRange)

/-- **What a statement does.** -/
def execute (r : Runner) (env : Env) : Statement → Eval Unit
  | .command _ callee parameter => r.command env callee parameter
  | .block range callee body => do
    mark range.start
    let v ← r.expression env (.block range callee body)
    Step.locate range (Eval.addValue v)
  | .expression range e => do
    let v ← r.expression env e
    Step.locate range (Eval.addValue v)
  | .define _ name definition => do
    let symbol ← r.definition env definition
    Eval.modifyScope fun s => s.define name.name symbol
  | .option range _ _ => throw (.raise (.unknownSymbol "option" []) range)
  | .loop _ binder? sequence body => r.loop env binder? sequence body
  | .importFile _ e => r.importStatement env e

end SceneLang.Runner
