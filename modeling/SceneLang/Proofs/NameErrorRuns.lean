import SceneLang.Proofs.Moments
import SceneLang.Proofs.NameErrors

/-!
# Errors about names in runs

Where can a run make an error about an unknown name?  If the parts of a layer make none, then
neither does the layer, with three exceptions: a name is used there that stands for nothing
(`Moment.Lacks`), an option stands outside of a definition, or the host or the reader of scripts
hands such an error over (`Setting.Hands`).  `Runner.Spares.evaluate` and `Runner.Spares.execute`
say so for expressions and statements, after one lemma for each function of the evaluator.
-/

namespace SceneLang

/-- **An error that the host or the reader of scripts hands over.** -/
inductive Setting.Hands (setting : Setting) (cause : ErrorCause) : Prop
  | node {host : Host} {place : FilePath} {e : ScriptError} : setting.host = some host →
    host.importNode place = .error (.error e) → e.core = some cause → setting.Hands cause
  | program {parse : String → Except Exit Program} {text : String} {e : ScriptError} :
    setting.parse = some parse → parse text = .error (.error e) → e.core = some cause →
    setting.Hands cause

/-- **A name that stands for nothing is used at a moment**, where `options` are the names that
could be used instead. -/
inductive Moment.Lacks (name : String) (options : List String) : Moment → Prop
  | name {range : SourceRange} {env : Env} {st : State} :
    Scope.symbol? (st.scope :: env.enclosing) name = none →
    options = Scope.expressionNames (st.scope :: env.enclosing) →
    Lacks name options ⟨.expression (.identifier range name), env, st, false⟩
  | block {range : SourceRange} {callee : Identifier} {body : Block} {env : Env} {st : State} :
    callee.name = name → Scope.symbol? (st.scope :: env.enclosing) name = none →
    options = Scope.expressionNames (st.scope :: env.enclosing) →
    Lacks name options ⟨.expression (.block range callee body), env, st, false⟩
  | command {range : SourceRange} {callee : Identifier} {parameter : Option Expr} {env : Env}
    {st : State} : callee.name = name → Scope.symbol? (st.scope :: env.enclosing) name = none →
    options = Scope.commandNames (st.scope :: env.enclosing) →
    Lacks name options ⟨.statement (.command range callee parameter), env, st, false⟩

section Sparing

variable {name : String} {options : List String}

/-! ### Layers -/

/-- **Runners that make no error about a given name**, under a setting. -/
structure Runner.Spares (name : String) (options : List String) (setting : Setting) (r : Runner) :
    Prop where
  expression (outer : List Scope) (e : Expr) :
    Step.Spares name options (r.expression ⟨setting, outer⟩ e)
  statement (outer : List Scope) (s : Statement) :
    Step.Spares name options (r.statement ⟨setting, outer⟩ s)
  build (outer : List Scope) (symbol : Symbol) :
    Step.Spares name options (r.build ⟨setting, outer⟩ symbol)
  body (outer : List Scope) (block : Block) :
    Step.Spares name options (r.body ⟨setting, outer⟩ block)

/-- **An error about a name that an option makes**: it stands outside of a definition. -/
def IsStrayOption (name : String) (options : List String) : Prop := name = "option" ∧ options = []

/-- The error of an option is about another name, unless it is the one in question. -/
theorem spares_option (hoption : ¬ IsStrayOption name options) {α : Type} (range : SourceRange) :
    Step.Spares name options
      (MonadExcept.throw (.raise (.unknownSymbol "option" []) range) : Eval α) := by
  refine .throw fun heq => hoption ?_
  cases heq
  exact ⟨rfl, rfl⟩

namespace Runner.Spares

variable {setting : Setting} {r : Runner} (outer : List Scope)

theorem statements (h : r.Spares name options setting) (ss : List Statement) :
    Step.Spares name options (r.statements ⟨setting, outer⟩ ss) := by
  induction ss with
  | nil => exact .pure ()
  | cons s rest ih => exact (h.statement outer s).bind fun _ => ih

theorem bodyStatements (h : r.Spares name options setting) (ss : List Statement) :
    Step.Spares name options (r.bodyStatements ⟨setting, outer⟩ ss) := by
  induction ss with
  | nil => exact .pure ()
  | cons s rest ih =>
    cases s with
    | option range n default =>
      intro st
      simp only [Runner.bodyStatements, Env.symbol?_bind]
      split
      · exact ((h.expression outer default).bind fun v =>
          (Step.Spares.modifyScope _).bind fun _ => ih) st
      · exact ih st
    | _ => exact (h.statement outer _).bind fun _ => ih

/-! #### Calls -/

theorem buildIn (h : r.Spares name options setting) (scope : Scope) (symbol : Symbol) :
    Step.Spares name options (r.buildIn ⟨setting, outer⟩ scope symbol) :=
  .inside _ scope _ fun s => h.build (s :: outer) symbol

theorem call (h : r.Spares name options setting) (c : Closure) :
    Step.Spares name options (r.call ⟨setting, outer⟩ c) := by
  refine .scope_bind fun caller => ?_
  dsimp only
  cases Scope.atLevel? outer c.level with
  | none => exact .throw trivial
  | some defining =>
    dsimp only
    split
    · refine .throw_bind ?_
      exact nofun
    · exact .inside _ _ _ fun s => (h.body (s :: outer) c.body).bind fun _ =>
        .scope_bind fun _ => .ofExcept _

/-- **What a block builds.** -/
theorem construct (h : r.Spares name options setting) (symbol : Symbol) :
    Step.Spares name options (r.construct ⟨setting, outer⟩ symbol) := by
  cases symbol with
  | shape s => exact .build setting s
  | closure c =>
    refine .scope_bind fun caller => ?_
    split
    · exact h.call outer c
    · exact (h.call outer c).mapExit fun _ hx => hx.inFile _ _
  | _ => exact .throw trivial

/-! #### Arguments -/

/-- A child that does not fit is an error of another kind. -/
theorem sparing_gather (n : String) (place : SourceRange) (vs : List Value) (s : Scope) :
    Sparing name options (gather n place vs s) := by
  induction vs generalizing s with
  | nil => exact .ok s
  | cons v rest ih =>
    unfold gather
    cases Scope.add v s with
    | ok a s₁ => exact ih s₁
    | error x s₁ =>
      cases x with
      | error e => exact .error fun h => by cases h
      | _ => exact .error trivial

theorem gatherAll (h : r.Spares name options setting) (n : String) (es : List Expr) (s : Scope) :
    Step.Spares name options (r.gatherAll ⟨setting, outer⟩ n es s) := by
  induction es generalizing s with
  | nil => exact .pure s
  | cons e rest ih =>
    refine (h.expression outer e).bind fun v => ?_
    exact (Step.Spares.ofExit (sparing_gather _ _ _ s)).bind fun s' => ih s'

theorem row (h : r.Spares name options setting) (es : List Expr) :
    Step.Spares name options (r.row ⟨setting, outer⟩ es) := by
  induction es with
  | nil => exact .pure []
  | cons e rest ih =>
    cases rest with
    | nil => exact (h.expression outer e).bind fun v => .pure _
    | cons next rest =>
      intro st
      obtain ⟨a, hread, -⟩ := Runner.appetiteOf_read outer e st
      simp only [Runner.row, hread]
      cases a with
      | argument c =>
        exact (ih.bind fun values => (Step.Spares.coerce setting _ _ _).bind fun v =>
          ((Step.Spares.run setting c v).locate _).bind fun w => .pure _) st
      | children symbol block =>
        exact (Step.Spares.scope_bind fun s => (h.gatherAll outer _ _ _).bind fun s' =>
          ((h.buildIn outer s' symbol).locate _).bind fun w => .pure _) st
      | nothing =>
        exact ((h.expression outer e).bind fun v => ih.bind fun vs => .pure _) st

theorem valueAs (h : r.Spares name options setting) (e : Expr) (kind : Kind) (n : String)
    (index : Int) :
    Step.Spares name options (r.valueAs ⟨setting, outer⟩ e kind n index) :=
  (h.row outer _).bind fun _ => .coerce setting _ _ _

theorem numberAs (h : r.Spares name options setting) (e : Expr) (n : String) (index : Int) :
    Step.Spares name options (r.numberAs ⟨setting, outer⟩ e n index) := by
  refine (h.valueAs outer e .number n index).bind fun v => ?_
  split
  · exact .pure _
  · exact .throw trivial

theorem parameter (h : r.Spares name options setting) (e : Option Expr) (kind : Kind)
    (callee : Identifier) :
    Step.Spares name options (r.parameter ⟨setting, outer⟩ e kind callee) := by
  cases e with
  | some e => exact h.valueAs outer e kind callee.name 0
  | none =>
    dsimp only [Runner.parameter]
    split
    · exact .pure _
    · exact .throw nofun

/-! #### Expressions -/

/-- The error about a name is about another one, unless it is the one in question. -/
theorem spared_unknown {α : Type} (n : String) (range : SourceRange) (st : State)
    (hother : ¬ (n = name ∧ options = Scope.expressionNames (st.scope :: outer))) :
    Spared name options ((unknown ⟨setting, outer⟩ n range : Eval α) st) := by
  rintro x st' ⟨⟩ heq
  cases heq
  exact hother ⟨rfl, rfl⟩

theorem identifier (h : r.Spares name options setting) (range : SourceRange) (n : String)
    (st : State)
    (hlacks : ¬ Moment.Lacks name options
      ⟨.expression (.identifier range n), ⟨setting, outer⟩, st, false⟩) :
    Spared name options (r.identifier ⟨setting, outer⟩ range n st) := by
  simp only [Runner.identifier, Env.symbol?_bind]
  cases hname : Scope.symbol? (st.scope :: outer) n with
  | none =>
    refine spared_unknown outer n range st ?_
    rintro ⟨rfl, hoptions⟩
    exact hlacks (.name hname hoptions)
  | some symbol =>
    have hbare (symbol : Symbol) : Step.Spares name options
        (if (symbol.blockType?.getD .primitive).childKinds.isEmpty then do
          let scope := (← Eval.scope).push outer.length (symbol.blockType?.getD .primitive)
          Step.locate range (r.buildIn ⟨setting, outer⟩ scope symbol)
        else throw (.raise (.missingArgument n 0 "block") range.upperBound) : Eval Value) := by
      split
      · exact .scope_bind fun s => (h.buildIn outer _ symbol).locate range
      · exact .throw fun h => by cases h
    cases symbol with
    | command c =>
      dsimp only
      split
      · exact (Step.Spares.run setting c .void).locate range st
      · refine Step.Spares.throw ?_ st
        exact fun h => by cases h
    | property p => exact (Step.Spares.get p).locate range st
    | constant v => exact Step.Spares.pure v st
    | shape _ | closure _ => exact hbare _ st

/-- The body of a block call. -/
theorem callBody (h : r.Spares name options setting) (hoption : ¬ IsStrayOption name options)
    (kinds : Bindings Kind) (ss : List Statement) :
    Step.Spares name options (r.callBody ⟨setting, outer⟩ kinds ss) := by
  induction ss with
  | nil => exact .pure ()
  | cons s rest ih =>
    cases s with
    | option range n default => exact spares_option hoption range
    | command range callee e =>
      simp only [Runner.callBody]
      cases kinds.get? callee.name with
      | none => exact (h.statement outer _).bind fun _ => ih
      | some kind =>
        exact (h.parameter outer e kind callee).bind fun v =>
          (Step.Spares.modifyScope _).bind fun _ => ih
    | _ => exact (h.statement outer _).bind fun _ => ih

theorem block (h : r.Spares name options setting) (hoption : ¬ IsStrayOption name options)
    (range : SourceRange) (callee : Identifier) (body : Block) (st : State)
    (hlacks : ¬ Moment.Lacks name options
      ⟨.expression (.block range callee body), ⟨setting, outer⟩, st, false⟩) :
    Spared name options (r.block ⟨setting, outer⟩ callee body st) := by
  simp only [Runner.block, Env.symbol?_bind]
  cases hname : Scope.symbol? (st.scope :: outer) callee.name with
  | none =>
    refine spared_unknown outer callee.name callee.range st ?_
    rintro ⟨rfl, hoptions⟩
    exact hlacks (.block rfl hname hoptions)
  | some symbol =>
    cases symbol with
    | command _ | property _ | constant _ =>
      refine Step.Spares.throw ?_ st
      exact fun h => by cases h
    | shape x | closure x =>
      simp only [Symbol.blockType?, Eval.scope_bind, Env.stack_bind]
      refine Step.Spares.inside _ _ _ (fun s => ?_) st
      exact (h.callBody (s :: outer) hoption _ _).bind fun _ =>
        (Step.Spares.modifyScope _).bind fun _ => (h.build (s :: outer) _).locate _

theorem range (h : r.Spares name options setting) (first last : Expr) (step : Option Expr) :
    Step.Spares name options (r.range ⟨setting, outer⟩ first last step) := by
  refine (h.numberAs outer first _ _).bind fun start => ?_
  refine (h.numberAs outer last _ _).bind fun stop => ?_
  cases step with
  | none => exact .pure _
  | some e =>
    refine (h.numberAs outer e _ _).bind fun step => ?_
    split
    · exact .pure _
    · exact .throw nofun

/-- **An expression makes no error about a name** if its parts make none and the name does not
stand there for nothing. -/
theorem evaluate (h : r.Spares name options setting) (hoption : ¬ IsStrayOption name options)
    (e : Expr) (st : State)
    (hlacks : ¬ Moment.Lacks name options ⟨.expression e, ⟨setting, outer⟩, st, false⟩) :
    Spared name options (r.evaluate ⟨setting, outer⟩ e st) := by
  cases e with
  | number range x => exact Step.Spares.pure _ st
  | string range s => exact Step.Spares.pure _ st
  | color range c => exact Step.Spares.pure _ st
  | identifier range n => exact h.identifier outer range n st hlacks
  | block range callee body => exact h.block outer hoption range callee body st hlacks
  | tuple range items => exact (h.row outer items).bind (fun vs => .pure _) st
  | prefixed range operator operand =>
    refine (h.numberAs outer operand _ _).bind (fun x => ?_) st
    cases operator <;> exact .pure _
  | infixed range left operator right =>
    exact (h.numberAs outer left _ _).bind (fun x =>
      (h.numberAs outer right _ _).bind fun y => .pure _) st
  | range range first last step => exact h.range outer first last step st
  | member range object n =>
    refine (h.expression outer object).bind (fun v => .ofExit ?_) st
    unfold Runner.member
    split
    · exact .ok _
    · exact .error nofun
  | sub range inner => exact h.expression outer inner st

/-! #### Statements -/

theorem blockCommand (h : r.Spares name options setting) (callee : Identifier) (symbol : Symbol)
    (block : BlockType) (parameter : Option Expr) :
    Step.Spares name options
      (r.blockCommand ⟨setting, outer⟩ callee symbol block parameter) := by
  refine (Step.Spares.modifyScope _).bind fun _ => ?_
  cases parameter with
  | some e =>
    refine (h.expression outer e).bind fun v => ?_
    dsimp only
    split
    · refine .locate (.scope_bind fun s => .bind (.inside _ _ _ fun s' => ?_) fun v => ?_) _
      · exact (Step.Spares.onScope (.addAll _)).bind fun _ => h.build (s' :: outer) symbol
      · exact .addValue v
    · exact .throw nofun
  | none =>
    dsimp only
    split
    · exact .locate (.scope_bind fun s => (h.buildIn outer _ symbol).bind fun v =>
        .addValue v) _
    · exact .throw nofun

theorem command (h : r.Spares name options setting) (range : SourceRange) (callee : Identifier)
    (parameter : Option Expr) (st : State)
    (hlacks : ¬ Moment.Lacks name options
      ⟨.statement (.command range callee parameter), ⟨setting, outer⟩, st, false⟩) :
    Spared name options (r.command ⟨setting, outer⟩ callee parameter st) := by
  simp only [Runner.command, Env.symbol?_bind]
  cases hname : Scope.symbol? (st.scope :: outer) callee.name with
  | none =>
    rintro x st' ⟨⟩ heq
    cases heq
    exact hlacks (.command rfl hname rfl)
  | some symbol =>
    cases symbol with
    | command c =>
      exact ((h.parameter outer parameter c.parameter callee).bind fun v =>
        .locate ((Step.Spares.run setting c v).bind fun w => .addValue w) _) st
    | property p =>
      exact ((h.parameter outer parameter p.kind callee).bind fun v =>
        (Step.Spares.set p v).locate _) st
    | constant v => exact (Step.Spares.addValue v).locate _ st
    | shape _ | closure _ => exact h.blockCommand outer callee _ _ parameter st

theorem turn (h : r.Spares name options setting) (binder? : Option Identifier) (body : Block)
    (v : Value) : Step.Spares name options (r.turn ⟨setting, outer⟩ binder? body v) := by
  have hstart : Step.Spares name options (startTurn setting) := by
    intro st x st' hx
    rw [startTurn_apply] at hx
    split at hx <;> cases hx
    trivial
  intro st
  rw [turn_eq]
  refine hstart.bind (fun _ => .scope_bind fun s => .inside _ _ _ fun s' => ?_) st
  dsimp only
  split
  · exact (Step.Spares.modifyScope _).bind fun _ => h.statements (s' :: outer) _
  · exact h.statements (s' :: outer) _

theorem loop (h : r.Spares name options setting) (binder? : Option Identifier) (sequence : Expr)
    (body : Block) :
    Step.Spares name options (r.loop ⟨setting, outer⟩ binder? sequence body) := by
  have hturn := h.turn outer binder? body
  have hlist (vs : List Value) : Step.Spares name options
      (overList (r.turn ⟨setting, outer⟩ binder? body) vs) := by
    induction vs with
    | nil => exact .pure ()
    | cons v rest ih => exact (hturn v).bind fun _ => ih
  have hrange (range : NumberRange Float) (turns i : Nat) : Step.Spares name options
      (overRange (r.turn ⟨setting, outer⟩ binder? body) range turns i) := by
    induction turns generalizing i with
    | zero => exact .throw trivial
    | succ turns ih =>
      rw [overRange]
      cases range.item? i with
      | none => exact .pure ()
      | some x => exact (hturn _).bind fun _ => ih (i + 1)
  refine (h.expression outer sequence).bind fun v => ?_
  split
  · exact hrange _ _ 0
  · exact hrange _ _ 0
  · exact hlist _
  · exact .throw fun h => by cases h

theorem definition (h : r.Spares name options setting) (d : Definition) :
    Step.Spares name options (r.definition ⟨setting, outer⟩ d) := by
  cases d with
  | expression e =>
    exact .scope_bind fun s => (Step.Spares.inside _ _ _ fun s' =>
      h.expression (s' :: outer) e).bind fun v => .pure _
  | block body =>
    have hkinds (kinds : Bindings Kind) (ss : List Statement) :
        Step.Spares name options (r.optionKinds ⟨setting, outer⟩ kinds ss) := by
      induction ss generalizing kinds with
      | nil => exact .pure _
      | cons s rest ih =>
        cases s with
        | option range n default => exact (h.expression outer default).bind fun v => ih _
        | _ => exact ih kinds
    exact (hkinds _ _).bind fun _ => .scope_bind fun _ => .pure _

theorem program (h : r.Spares name options setting) (p : Program) :
    Step.Spares name options (r.program ⟨setting, outer⟩ p) :=
  .scope_bind fun _ => (Step.Spares.modifyScope _).bind fun _ =>
    (h.statements outer p.statements).settle _

/-! #### Imports -/

theorem spares_fileExit (path : String) (place : FilePath) (f : Fault) :
    (fileExit path place f).Spares name options := by
  unfold fileExit
  split
  · exact nofun
  · exact nofun
  · exact nofun
  · split
    · exact nofun
    · trivial

theorem importScript (h : r.Spares name options setting)
    (hhands : ¬ setting.Hands (.unknownSymbol name options)) (host : Host) (path : String)
    (place : FilePath) :
    Step.Spares name options (r.importScript ⟨setting, outer⟩ host path place) := by
  have hparsed {parse : String → Except Exit Program} (hparse : setting.parse = some parse)
      (source : String) : Sparing name options (parse source) := by
    intro x hx
    cases x with
    | error e => exact fun hcore => hhands (.program hparse hx hcore)
    | _ => trivial
  intro st
  by_cases hplace : place ∈ st.world.importing
  · rintro x st' hx
    rw [importScript_circular hplace] at hx
    cases hx
    exact nofun
  · rw [importScript_fresh hplace]
    cases hparse : setting.parse with
    | none =>
      refine Step.Spares.throw ?_ st
      exact nofun
    | some parse =>
      have hread : Step.Spares name options
          (Step.ofExit ((host.readText place).mapError (fileExit path place)) : Eval String) :=
        .ofExit (.mapError (spares_fileExit path place))
      refine hread.bind (fun source => ?_) st
      refine .scope_bind fun s => (Step.Spares.modifyWorld _).bind fun _ =>
        .settle (.mapExit ?_ fun _ hx => hx.inFile _ _) _
      exact (Step.Spares.ofExit (hparsed hparse source)).bind fun p =>
        (Step.Spares.modifyScope _).bind fun _ => h.program outer p

theorem sparing_importNode (hhands : ¬ setting.Hands (.unknownSymbol name options)) {host : Host}
    (hhost : setting.host = some host) (path : String) (place : FilePath) :
    Sparing name options ((host.importNode place).mapError (geometryExit path place)) := by
  cases hnode : host.importNode place with
  | ok node => exact .ok node
  | error x =>
    refine .error ?_
    unfold geometryExit
    split
    · exact nofun
    · exact spares_fileExit path place _
    · cases x with
      | error e => exact fun hcore => hhands (.node hhost hnode hcore)
      | _ => trivial

/-- **A file that is imported** makes no error about a name, unless it is handed one. -/
theorem importFile (h : r.Spares name options setting)
    (hhands : ¬ setting.Hands (.unknownSymbol name options)) (path : String) :
    Step.Spares name options (r.importFile ⟨setting, outer⟩ path) := by
  refine (Step.Spares.resolve setting path).bind fun place => ?_
  cases hhost : setting.host with
  | none => exact .throw nofun
  | some host =>
    dsimp only
    split
    · exact h.importScript outer hhands host path place
    · refine (Step.Spares.ofExit (sparing_importNode hhands hhost path place)).bind fun node => ?_
      split
      · exact .addValue _
      · exact .pure ()

/-- **A statement makes no error about a name** if its parts make none, the name does not stand
there for nothing, and no such error is handed over. -/
theorem execute (h : r.Spares name options setting) (hoption : ¬ IsStrayOption name options)
    (hhands : ¬ setting.Hands (.unknownSymbol name options)) (s : Statement) (st : State)
    (hlacks : ¬ Moment.Lacks name options ⟨.statement s, ⟨setting, outer⟩, st, false⟩) :
    Spared name options (r.execute ⟨setting, outer⟩ s st) := by
  cases s with
  | command range callee parameter =>
    exact h.command outer range callee parameter st hlacks
  | block range callee body =>
    exact ((Step.Spares.modifyScope _).bind fun _ => (h.expression outer _).bind fun v =>
      (Step.Spares.addValue v).locate range) st
  | expression range e =>
    exact ((h.expression outer e).bind fun v => (Step.Spares.addValue v).locate range) st
  | define range n d =>
    exact ((h.definition outer d).bind fun symbol => .modifyScope _) st
  | option range n default => exact spares_option hoption range st
  | loop range binder? sequence body => exact h.loop outer binder? sequence body st
  | importFile range e =>
    refine (h.expression outer e).bind (fun v => ?_) st
    split
    · exact (Step.Spares.modifyScope _).bind fun _ =>
        (h.importFile outer hhands _).locate _
    · exact .throw nofun

end Runner.Spares

end Sparing

end SceneLang
