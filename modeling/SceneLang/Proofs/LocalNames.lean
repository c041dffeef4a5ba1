import SceneLang.Proofs.Moments

/-!
# Definitions do not leak

Names are bound in many places: by definitions, for the variable of a loop, for the options of a
block, for the names that a caller hands to a body, and by the statements of an imported file.  All
of these but two act on a scope that is left again.  So a statement that is neither a definition nor
an import leaves the names of the scope that it stands in as they are, a definition binds its own
name at most, and the scopes further out are not touched at all (`definitions_stay_local`).

Expressions are no problem, since they leave the scope alone (`Frame.definitions`).  What is left is
to see that the layer of a statement itself adds no definition: `KeepsNames` is closed under what
layers are made of, and there is one lemma for each kind of statement.
-/

namespace SceneLang

/-- **What a statement can make of the names of the scope that it stands in.** -/
def Statement.MayBind : Statement → Bindings Symbol → Bindings Symbol → Prop
  | .define _ name _, before, after =>
    after = before ∨ ∃ symbol, after = before.set name.name symbol
  | .importFile _ _, _, _ => True
  | _, before, after => after = before

/-- The names that a statement can give a new meaning. -/
def Statement.Binds : Statement → String → Prop
  | .define _ name _, n => n = name.name
  | .importFile _ _, _ => True
  | _, _ => False

/-! ### Steps that define nothing -/

/-- **A step that leaves the names of the active scope as they are**, whatever its end. -/
def KeepsNames {α : Type} (act : Eval α) : Prop :=
  ∀ st, (Result.state (act st)).scope.definitions = st.scope.definitions

namespace KeepsNames

variable {α β : Type}

theorem throw (x : Exit) : KeepsNames (MonadExcept.throw x : Eval α) := fun _ => rfl

theorem primitive {effect : Effect} {blame : Blame} {act : Eval α}
    (h : Primitive (fun _ => True) effect blame act) : KeepsNames act := h.definitions

theorem mark (index : Int) : KeepsNames (Runner.mark index) := fun _ => rfl

/-- Expressions define nothing where they stand. -/
theorem of_frame {act : Eval α} (h : ∀ st, Frame .expression st (Result.state (act st))) :
    KeepsNames act := fun st => (h st).definitions

theorem bind {x : Eval α} {f : α → Eval β} (hx : KeepsNames x) (hf : ∀ a, KeepsNames (f a)) :
    KeepsNames (x >>= f) := by
  intro st
  have hfirst := hx st
  cases hres : x st with
  | ok a st₁ =>
    rw [hres] at hfirst
    rw [Step.bind_ok f hres, hf a st₁]
    exact hfirst
  | error e st₁ =>
    rw [hres] at hfirst
    rw [Step.bind_error f hres]
    exact hfirst

theorem scope_bind {f : Scope → Eval β} (hf : ∀ s, KeepsNames (f s)) :
    KeepsNames (Eval.scope >>= f) := fun st => hf st.scope st

theorem locate {act : Eval α} (h : KeepsNames act) (r : SourceRange) :
    KeepsNames (Step.locate r act) := by
  intro st
  rw [Step.locate, Step.mapExit_apply, Result.state_mapExit]
  exact h st

/-- What a block defines is gone with its scope. -/
theorem block (env : Env) (s : Scope) (act : Env → Eval α) :
    KeepsNames (env.inside s Env.leaveBlock act) := by
  intro st
  rw [Env.inside_apply, Result.state_settle]
  rfl

/-- A scope takes over everything from a turn of a loop but its definitions. -/
theorem turn (env : Env) (s : Scope) (act : Env → Eval α) :
    KeepsNames (env.inside s Env.leaveLoop act) := by
  intro st
  rw [Env.inside_apply, Result.state_settle]
  rfl

theorem startTurn (setting : Setting) : KeepsNames (Runner.startTurn setting) := fun st =>
  (Runner.startTurn_frame .expression setting st).definitions

theorem overList {act : Value → Eval Unit} (h : ∀ v, KeepsNames (act v)) (vs : List Value) :
    KeepsNames (Runner.overList act vs) := by
  induction vs with
  | nil => exact fun _ => rfl
  | cons v rest ih => exact (h v).bind fun _ => ih

theorem overRange {act : Value → Eval Unit} (h : ∀ v, KeepsNames (act v))
    (range : NumberRange Float) (turns i : Nat) :
    KeepsNames (Runner.overRange act range turns i) := by
  induction turns generalizing i with
  | zero => exact throw .exhausted
  | succ turns ih =>
    rw [Runner.overRange]
    cases range.item? i with
    | none => exact fun _ => rfl
    | some x => exact (h _).bind fun _ => ih (i + 1)

end KeepsNames

/-! ### Statements -/

/-- The runner of a given depth runs expressions in their frame. -/
theorem Runner.agree_self (setting : Setting) (fuel : Nat) :
    (Accord.same setting).Agree .always (ofFuel fuel) (ofFuel fuel) :=
  (Accord.same setting).agree_ofFuel .always fuel

section Statements

variable {fuel : Nat} {env : Env}

theorem keepsNames_expression (e : Expr) :
    KeepsNames ((Runner.ofFuel fuel).expression env e) := by
  obtain ⟨setting, outer⟩ := env
  refine .of_frame fun st => ?_
  exact ((Runner.agree_self setting fuel).expression outer e st trivial).frame

theorem keepsNames_parameter (e : Option Expr) (kind : Kind) (callee : Identifier) :
    KeepsNames ((Runner.ofFuel fuel).parameter env e kind callee) := by
  obtain ⟨setting, outer⟩ := env
  refine .of_frame fun st => ?_
  have hwrites : ∀ e' ∈ e, ((Accord.same setting).law .always).Writes st.world.importing
      (.expression e') := fun _ _ => trivial
  have hstart : ((Accord.same setting).law .always).Holds .expression outer st.world.importing st :=
    ⟨trivial, rfl⟩
  exact ((Runner.agree_self setting fuel).law.parameter hwrites trivial kind hstart).frame false

theorem keepsNames_blockCommand (callee : Identifier) (symbol : Symbol) (block : BlockType)
    (parameter : Option Expr) :
    KeepsNames ((Runner.ofFuel fuel).blockCommand env callee symbol block parameter) := by
  refine (KeepsNames.mark _).bind fun _ => ?_
  cases parameter with
  | some e =>
    refine (keepsNames_expression e).bind fun v => ?_
    dsimp only
    split
    · refine .locate (.scope_bind fun s => ?_) callee.range
      exact (KeepsNames.block env _ _).bind fun v => .primitive (primitive_addValue v)
    · exact .throw _
  | none =>
    dsimp only
    split
    · refine .locate (.scope_bind fun s => ?_) callee.range
      exact (KeepsNames.block env _ _).bind fun v => .primitive (primitive_addValue v)
    · exact .throw _

theorem keepsNames_command (callee : Identifier) (parameter : Option Expr) :
    KeepsNames ((Runner.ofFuel fuel).command env callee parameter) := by
  have hlookup : KeepsNames (env.symbol? callee.name) := fun _ => rfl
  refine hlookup.bind fun found => ?_
  cases found with
  | none => exact fun _ => rfl
  | some symbol =>
    cases symbol with
    | command c =>
      refine (keepsNames_parameter parameter c.parameter callee).bind fun v => .locate ?_ _
      refine KeepsNames.bind (.primitive (primitive_run env.setting c v)) fun v => ?_
      exact .primitive (primitive_addValue v)
    | property p =>
      refine (keepsNames_parameter parameter p.kind callee).bind fun v => .locate ?_ _
      exact .primitive (primitive_set p v)
    | constant v => exact .locate (.primitive (primitive_addValue v)) _
    | shape _ | closure _ => exact keepsNames_blockCommand callee _ _ parameter

theorem keepsNames_loop (binder? : Option Identifier) (sequence : Expr) (body : Block) :
    KeepsNames ((Runner.ofFuel fuel).loop env binder? sequence body) := by
  have hturn (v : Value) : KeepsNames ((Runner.ofFuel fuel).turn env binder? body v) := by
    rw [Runner.turn_eq]
    exact (KeepsNames.startTurn env.setting).bind fun _ => .scope_bind fun s => .turn env _ _
  refine (keepsNames_expression sequence).bind fun v => ?_
  split
  · exact .overRange hturn _ _ 0
  · exact .overRange hturn _ _ 0
  · exact .overList hturn _
  · exact .throw _

theorem keepsNames_definition (d : Definition) :
    KeepsNames ((Runner.ofFuel fuel).definition env d) := by
  cases d with
  | expression e =>
    refine .scope_bind fun s => ?_
    exact (KeepsNames.block env _ _).bind fun v => fun _ => rfl
  | block body =>
    have hoptions (options : Bindings Kind) (ss : List Statement) :
        KeepsNames ((Runner.ofFuel fuel).optionKinds env options ss) := by
      induction ss generalizing options with
      | nil => exact fun _ => rfl
      | cons s rest ih =>
        cases s with
        | option range name default =>
          exact (keepsNames_expression default).bind fun v => ih _
        | _ => exact ih options
    exact (hoptions _ _).bind fun options => fun _ => rfl

/-- **The layer of a statement** binds what the statement may bind. -/
theorem Statement.mayBind_execute (s : Statement) (st : State) :
    s.MayBind st.scope.definitions
      (Result.state ((Runner.ofFuel fuel).execute env s st)).scope.definitions := by
  cases s with
  | command range callee parameter => exact keepsNames_command callee parameter st
  | block range callee body =>
    refine (KeepsNames.mark _).bind (fun _ => ?_) st
    refine (keepsNames_expression _).bind fun v => ?_
    exact .locate (.primitive (primitive_addValue v)) range
  | expression range e =>
    refine (keepsNames_expression e).bind (fun v => ?_) st
    exact .locate (.primitive (primitive_addValue v)) range
  | option range name default => rfl
  | loop range binder? sequence body => exact keepsNames_loop binder? sequence body st
  | importFile range e => trivial
  | define range name d =>
    have hkeeps : (Result.state ((Runner.ofFuel fuel).definition env d st)).scope.definitions
        = st.scope.definitions := keepsNames_definition d st
    cases hres : (Runner.ofFuel fuel).definition env d st with
    | ok symbol st₁ =>
      rw [hres] at hkeeps
      refine .inr ⟨symbol, ?_⟩
      rw [Runner.execute, Step.bind_ok _ hres, ← hkeeps]
      rfl
    | error x st₁ =>
      rw [hres] at hkeeps
      refine .inl ?_
      rw [Runner.execute, Step.bind_error _ hres]
      exact hkeeps

theorem Statement.mayBind_refl (s : Statement) (names : Bindings Symbol) :
    s.MayBind names names := by
  cases s with
  | define range name d => exact .inl rfl
  | importFile range e => trivial
  | _ => rfl

theorem Statement.mayBind_run (s : Statement) (st : State) :
    s.MayBind st.scope.definitions
      (Result.state (runStatement fuel env s st)).scope.definitions := by
  cases fuel with
  | zero => exact s.mayBind_refl st.scope.definitions
  | succ fuel =>
    rw [runStatement]
    exact s.mayBind_execute st

end Statements

/-! ### What names stand for -/

/-- A name that a statement cannot bind stands for the same in the scope afterwards. -/
theorem Statement.MayBind.get? {s : Statement} {before after : Bindings Symbol} {name : String}
    (h : s.MayBind before after) (hname : ¬ s.Binds name) : after.get? name = before.get? name := by
  cases s with
  | define range n d =>
    rcases h with rfl | ⟨symbol, rfl⟩
    · rfl
    · rw [Bindings.get?_set]
      exact if_neg hname
  | importFile range e => exact absurd trivial hname
  | _ => exact congrArg (Bindings.get? · name) h

/-! ### Whole statements -/

/-- Parts of a run that start above given scopes. -/
def above (outer : List Scope) : Invariant where
  Holds _ env _ := outer <:+ env.enclosing
  expression h := h
  frame h _ := h
  enter h _ := h.trans (List.suffix_cons _ _)
  turn h := h.trans (List.suffix_cons _ _)
  source _ h := h
  file h _ := h

theorem suffix_of_at_above {outer : List Scope} {m : Moment} (h : (above outer).At m) :
    outer <:+ m.env.enclosing := by
  obtain ⟨task, env, st, isOver⟩ := m
  cases task with
  | expression e => exact h
  | statement s => exact h
  | build symbol => exact h.1
  | body block => exact h.1

/-- **Definitions do not leak.**  Whatever the end of a statement, the scope that it stands in has
the names that it had, except that a definition may have bound its own name and that an import may
have bound any.  So every other name stands for what it stood for before.  The scopes further out
are there at every moment of the run, as they were, below those of the moment. -/
theorem definitions_stay_local (fuel : Nat) (env : Env) (s : Statement) (st : State) :
    let after := (Result.state (runStatement fuel env s st)).scope
    s.MayBind st.scope.definitions after.definitions ∧
    after.callerDefinitions = st.scope.callerDefinitions ∧
    (∀ name, ¬ s.Binds name → Scope.symbol? (after :: env.enclosing) name
      = Scope.symbol? (st.scope :: env.enclosing) name) ∧
    ∀ m, Reaches (fun r => r.statement env s) st m → env.enclosing <:+ m.env.enclosing := by
  obtain ⟨setting, outer⟩ := env
  intro after
  have hbinds : s.MayBind st.scope.definitions after.definitions := s.mayBind_run st
  have hscope : st.scope.Extends after :=
    ((Runner.agree_self setting fuel).statement outer s st trivial).frame.scope
  refine ⟨hbinds, hscope.callerDefinitions, fun name hname => ?_, fun m hm => ?_⟩
  · exact Scope.symbol?_of_get? outer name hscope (hbinds.get? hname)
  · have hact (r r' : Runner) (hagree : (Accord.same setting).Agree (above outer) r r') :
        r'.statement ⟨setting, outer⟩ s st = r.statement ⟨setting, outer⟩ s st :=
      (hagree.statement outer s st List.suffix_rfl).rel
    exact suffix_of_at_above (Invariant.at_of_reaches hact hm)

/-! ### A loop that uses its name for everything -/

namespace Reuse

/-- The tuple that the name stands for outside. -/
def constant : Symbol := .constant (.tuple [.number 1])

/-- The scope where the name is defined. -/
def outer : Scope := { definitions := Bindings.empty.set "a" constant }

/-- The surroundings of the loop. -/
def env : Env := ⟨{}, [outer]⟩

/-- The state in which the loop starts. -/
def start : State := ⟨{ parent := some 0 }, {}⟩

/-- The definition in the loop. -/
def definition : Statement := .define ⟨13, 23⟩ ⟨⟨20, 21⟩, "a"⟩ (.expression (.number ⟨22, 23⟩ 2))

/-- A loop over the elements of `a`, with `a` as its variable, that defines `a`. -/
def loop : Statement :=
  .loop ⟨0, 25⟩ (some ⟨⟨4, 5⟩, "a"⟩) (.identifier ⟨9, 10⟩ "a") (.mk ⟨11, 25⟩ [definition])

/-- The state in which the definition starts: the turn has a scope of its own. -/
def inTurn : State where
  scope := (start.scope.pushLoop 1).define "a" (.constant (.number 1))
  world := { polls := 1, turns := 1 }

/-- The moment when the definition starts. -/
def moment : Moment := ⟨.statement definition, env.below start.scope, inTurn, false⟩

/-- The definition is run. -/
theorem reaches_definition : Reaches (fun r => r.statement env loop) start moment := by
  refine reaches_of_alarm 2 fun alarm _ => ?_
  have hstatement : (Runner.watched moment alarm 2).statement env loop
      = (Runner.watched moment alarm 1).execute env loop :=
    Moment.guard_of_task_ne fun h => by cases h
  have hsequence : (Runner.watched moment alarm 1).expression env (.identifier ⟨9, 10⟩ "a") start
      = .ok (.tuple [.number 1]) start := by
    have hguard : (Runner.watched moment alarm 1).expression env (.identifier ⟨9, 10⟩ "a")
        = (Runner.watched moment alarm 0).evaluate env (.identifier ⟨9, 10⟩ "a") :=
      Moment.guard_of_task_ne fun h => by cases h
    rw [hguard]
    rfl
  have hdefinition : (Runner.watched moment alarm 1).statement (env.below start.scope) definition
      inTurn = .error alarm inTurn := Moment.guard_start rfl
  have hturn : ∃ st', (Runner.watched moment alarm 1).turn env (some ⟨⟨4, 5⟩, "a"⟩)
      (.mk ⟨11, 25⟩ [definition]) (.number 1) start = .error alarm st' :=
    ⟨_, congrArg (Result.settle _) (Step.bind_error _ hdefinition)⟩
  obtain ⟨st', hst'⟩ := hturn
  refine ⟨st', ?_⟩
  show (Runner.watched moment alarm 2).statement env loop start = _
  rw [hstatement]
  exact (Step.bind_ok _ hsequence).trans (Step.bind_error _ hst')

/-- The name stands for the tuple after the loop, and the scope where it does is below that of the
turn. -/
theorem definitions_stay_local_loop :
    Reaches (fun r => r.statement env loop) start moment ∧ ¬ loop.Binds "a" ∧
      Scope.symbol? ((Result.state (runStatement 4 env loop start)).scope :: env.enclosing) "a"
        = some constant ∧
      [outer] <:+ moment.env.enclosing := by
  have hbinds : ¬ loop.Binds "a" := fun h => h
  obtain ⟨-, -, hnames, hmoments⟩ := definitions_stay_local 4 env loop start
  refine ⟨reaches_definition, hbinds, ?_, hmoments moment reaches_definition⟩
  rw [hnames "a" hbinds]
  rfl

end Reuse

end SceneLang
