import SceneLang.Proofs.Parts
import SceneLang.Proofs.Primitives

/-!
# Laws of runs

Most facts about runs are proved by going through the whole evaluator: expressions contain blocks,
blocks contain statements, statements call blocks and import files.  Here this is done once, for
any number of runs of the same script side by side, by different runners and under settings that
differ in when to stop only.

A `Regime` is what is known where a part of a run starts.  It says which tasks belong to the script
that is running and at which places an error can then point (`Writes`, `Points`), and it has a
condition on the surroundings and the state, which all parts keep (`Holds`).  A `Law` is a regime
with a relation between the results of the runs that start together in one state (`Rel`).  The
fields say what has to be shown of it: that the relation holds of primitive steps, that it is kept
when steps follow each other, when a scope is left and when an error is placed.

The main results are `Law.Agree.evaluate` in `Proofs.Layers` and `Law.Agree.execute` in
`Proofs.Runs`: if the law is obeyed wherever parts of a task are run, it is obeyed by the task.
What it means for a defined block is left to the laws, since its body is a script of its own.
-/

namespace SceneLang

/-! ### Scopes that are entered and left -/

/-- The surroundings of a scope that is entered from `outer`. -/
def Env.below (env : Env) (outer : Scope) : Env := { env with enclosing := outer :: env.enclosing }

theorem Env.inside_apply {α : Type} (env : Env) (inner : Scope) (leave : Scope → Scope → Scope)
    (act : Env → Eval α) (st : State) :
    env.inside inner leave act st
      = Result.settle (fun st' => { st' with scope := leave st.scope st'.scope })
          (act (env.below st.scope) { st with scope := inner }) := rfl

/-- **The scopes that can be entered** from a scope, other than for a turn of a loop or for the body
of a defined block. -/
inductive Entrance (outer : List Scope) (s : Scope) : Scope → Prop
  /-- The scope of a block that is called with children. -/
  | block {block : BlockType} {inner : Scope} (h : (s.push outer.length block).Gains inner) :
    Entrance outer s inner
  /-- The scope of a block that is called with a body. -/
  | call (block : BlockType) :
    Entrance outer s { s.push outer.length block with
      callerDefinitions := Scope.visibleDefinitions (s :: outer) }
  /-- The scope of the expression that a name is defined as. -/
  | definition : Entrance outer s (s.pushDefinition outer.length)

theorem Entrance.depth {outer : List Scope} {s inner : Scope} (h : Entrance outer s inner) :
    inner.depth = s.depth := by
  cases h with
  | block h => exact h.extends.depth
  | call block => rfl
  | definition => rfl

/-- **What a name can be defined as** in a scope. -/
inductive Made (outer : List Scope) (s : Scope) : Symbol → Prop
  | constant (v : Value) : Made outer s (.constant v)
  | closure (body : Block) (options : Bindings Kind) :
    Made outer s (.closure ⟨body, options, outer.length, s.source, s.file⟩)

/-- The state in which the text of a script file is run: the file is being imported. -/
def State.entering (st : State) (place : FilePath) : State where
  scope := { st.scope with file := some place }
  world := st.world.enterFile place

/-- **What is undone when a part of a run is over**: from the state it starts in, and how the state
in the end is settled. -/
inductive Detour (st : State) : State → (State → State) → Prop
  | block (s : Scope) : Detour st { st with scope := s } fun st' => { st' with scope := st.scope }
  | turn (level : Nat) : Detour st { st with scope := st.scope.pushLoop level }
      fun st' => { st' with scope := st.scope.absorb st'.scope }
  | source (text : String) : Detour st { st with scope := { st.scope with source := text } }
      fun st' => { st' with scope := { st'.scope with source := st.scope.source } }
  | file (place : FilePath) : Detour st (st.entering place) (Runner.leaveScript st.scope.file)

/-- A part of a run that is undone is a statement. -/
theorem Detour.frame {st st₀ st' : State} {f : State → State} (h : Detour st st₀ f)
    (hst : Frame .statement st₀ st') : Frame .statement st (f st') := by
  cases h with
  | block s => exact ⟨Scope.Extends.refl st.scope, hst.world⟩
  | turn level => exact ⟨Scope.Extends.absorb hst.scope, hst.world⟩
  | source text =>
    have hs : Scope.Extends _ _ := hst.scope
    exact ⟨⟨rfl, hs.file, hs.parent, hs.table, hs.callerDefinitions, hs.childKinds, hs.depth,
      hs.children⟩, hst.world⟩
  | file place =>
    have hs : Scope.Extends _ _ := hst.scope
    exact ⟨⟨hs.source, rfl, hs.parent, hs.table, hs.callerDefinitions, hs.childKinds, hs.depth,
      hs.children⟩, hst.world.leaveFile⟩

/-- A scope from which the value of a symbol can be built: it is one for a block of that kind. -/
def Scope.Suits (s : Scope) (symbol : Symbol) : Prop :=
  ∀ block, symbol.blockType? = some block → s.childKinds = block.childKinds

theorem Scope.Extends.suits {s s' : Scope} {symbol : Symbol} (h : s.Extends s')
    (hs : s.Suits symbol) : s'.Suits symbol := fun block hb => h.childKinds.trans (hs block hb)

/-! ### Laws -/

/-- Two settings that differ in when to stop only. -/
structure Setting.Similar (left right : Setting) : Prop where
  host_eq : right.host = left.host
  parse_eq : right.parse = left.parse

theorem Setting.Similar.refl (setting : Setting) : setting.Similar setting := ⟨rfl, rfl⟩

/-- **A script file that can be imported**, with its text and what the text is read as. -/
structure Setting.ScriptAt (setting : Setting) (place : FilePath) (text : String) (p : Program) :
    Prop where
  suffix : place.hasSuffix Runner.scriptSuffix
  read : ∃ host, setting.host = some host ∧ host.readText place = .ok text
  parsed : ∃ parse, setting.parse = some parse ∧ parse text = .ok p

/-- There is one script in a file. -/
theorem Setting.ScriptAt.unique {setting : Setting} {place : FilePath} {text text' : String}
    {p p' : Program} (h : setting.ScriptAt place text p) (h' : setting.ScriptAt place text' p') :
    text = text' ∧ p = p' := by
  obtain ⟨-, ⟨host, hhost, hread⟩, parse, hparse, hp⟩ := h
  obtain ⟨-, ⟨host', hhost', hread'⟩, parse', hparse', hp'⟩ := h'
  cases hhost.symm.trans hhost'
  cases hparse.symm.trans hparse'
  cases hread.symm.trans hread'
  cases hp.symm.trans hp'
  exact ⟨rfl, rfl⟩

/-- **The setting with a single script file**, which all paths stand for. -/
def Setting.ofScript (place : FilePath) (p : Program) : Setting where
  host := some {
    resolve := fun _ => .ok place
    importNode := fun _ => .ok none
    readText := fun file =>
      if file = place then .ok p.source else .error (.file (.notFound file.text)) }
  parse := some fun text => if text = p.source then .ok p else .error (.fault .wrongKind)

theorem Setting.eq_of_scriptAt_ofScript {place file : FilePath} {p q : Program} {text : String}
    (h : (ofScript place p).ScriptAt file text q) : q = p := by
  obtain ⟨-, -, _, ⟨⟩, hq⟩ := h
  dsimp only at hq
  split at hq <;> cases hq
  rfl

/-- The state in which an imported script starts. -/
def State.importing (st : State) (place : FilePath) (p : Program) : State where
  scope := { st.scope with source := p.source, file := some place }
  world := st.world.enterFile place

/-- The state after an imported script: the source and the file are those of before, and the topmost
file is dropped. -/
def State.resuming (st st' : State) : State where
  scope := { st'.scope with source := st.scope.source, file := st.scope.file }
  world := st'.world.leaveFile

/-- What comes before the scope of a turn: the host is asked, and then the turn counts. -/
def Runner.startTurn (setting : Setting) : Eval Unit := do
  poll setting
  Eval.modifyWorld fun w => { w with turns := w.turns + 1 }

/-- **What is known where a part of a run starts**, under a setting that decides everything but when
to stop. -/
structure Regime (base : Setting) where
  /-- The tasks of the script that is running while some files are being imported. -/
  Writes : List FilePath → Task → Prop
  part {files : List FilePath} {t t' : Task} : Writes files t → t' ∈ t.parts → Writes files t'
  /-- The places that errors of that script can point at. -/
  Points : List FilePath → SourceRange → Prop
  own {files : List FilePath} {t : Task} {r : SourceRange} :
    Writes files t → r ∈ t.ranges → Points files r
  upperBound {files : List FilePath} {r : SourceRange} : Points files r → Points files r.upperBound
  through {files : List FilePath} {r r' : SourceRange} :
    Points files r → Points files r' → Points files (r.through r')
  /-- The condition on the stack of scopes, the files that are being imported and the state. -/
  Holds : Effect → List Scope → List FilePath → State → Prop
  importing_eq {effect : Effect} {outer : List Scope} {files : List FilePath} {st : State} :
    Holds effect outer files st → st.world.importing = files
  expression {outer : List Scope} {files : List FilePath} {st : State} :
    Holds .statement outer files st → Holds .expression outer files st
  keep {effect : Effect} {outer : List Scope} {files : List FilePath} {st st' : State} :
    Holds effect outer files st → Frame effect st st' →
    st'.scope.definitions = st.scope.definitions → Holds effect outer files st'
  define {outer : List Scope} {files : List FilePath} {st : State} {symbol : Symbol}
    (name : String) : Holds .statement outer files st → Made outer st.scope symbol →
    (∀ c, symbol = .closure c → ∀ s ∈ c.body.statements, Writes files (.statement s)) →
    Holds .statement outer files { st with scope := st.scope.define name symbol }
  enter {outer : List Scope} {files : List FilePath} {st : State} {s : Scope} :
    Holds .expression outer files st → Entrance outer st.scope s →
    Holds .statement (st.scope :: outer) files { st with scope := s }
  turn {outer : List Scope} {files : List FilePath} {st : State} : Holds .statement outer files st →
    Holds .statement (st.scope :: outer) files { st with scope := st.scope.pushLoop outer.length }
  script {outer : List Scope} {files : List FilePath} {st : State} {place : FilePath}
    {text : String} {p : Program} : Holds .statement outer files st → place ∉ files →
    base.ScriptAt place text p →
    Holds .statement outer (place :: files) (st.importing place p) ∧
      ∀ s ∈ p.statements, Writes (place :: files) (.statement s)
  resume {outer : List Scope} {files : List FilePath} {st st' : State} {place : FilePath} :
    Holds .statement outer files st → Holds .statement outer (place :: files) st' →
    Frame .statement st (st.resuming st') → Holds .statement outer files (st.resuming st')

/-- **A law that runs obey side by side.** -/
structure Law (base : Setting) (κ : Type) extends Regime base where
  setting : κ → Setting
  similar (k : κ) : base.Similar (setting k)
  /-- The relation between the results of runs that start in one state. -/
  Rel {α : Type} : List FilePath → Blame → State → (κ → EStateM.Result Exit State α) → Prop
  mono {α : Type} {files : List FilePath} {b b' : Blame} {st : State}
    {F : κ → EStateM.Result Exit State α} :
    Rel files b st F → b.rank ≤ b'.rank → Rel files b' st F
  plain {α : Type} {files : List FilePath} {b : Blame} {st : State}
    {res : EStateM.Result Exit State α} : Plain .statement b st res →
    (∀ x st', res = .error x st' → x.Proper (Points files) b) → Rel files b st fun _ => res
  startTurn (files : List FilePath) (st : State) :
    Rel files .placed st fun k => Runner.startTurn (setting k) st
  bind {α β : Type} {files : List FilePath} {b : Blame} {st : State} {x : κ → Eval α}
    {f : κ → α → Eval β} : Rel files b st (fun k => x k st) →
    (∀ a st₁, (∃ k, x k st = .ok a st₁) →
      (∀ k, Frame .statement st₁ (Result.state (f k a st₁))) ∧
        Rel files b st₁ fun k => f k a st₁) →
    Rel files b st fun k => (x k >>= f k) st
  locate {α : Type} {files : List FilePath} {st : State} {r : SourceRange}
    {F : κ → EStateM.Result Exit State α} : Points files r → Rel files .unplaced st F →
    Rel files .placed st fun k => Result.mapExit (Exit.located r) (F k)
  settle {α : Type} {files : List FilePath} {b : Blame} {st st₀ : State} {f : State → State}
    {F : κ → EStateM.Result Exit State α} : Detour st st₀ f → Rel files b st₀ F →
    Rel files b st fun k => Result.settle f (F k)
  imported {α : Type} {files : List FilePath} {st : State} {place : FilePath} {text : String}
    {p : Program} {F : κ → EStateM.Result Exit State α} : place ∉ files →
    base.ScriptAt place text p → Rel (place :: files) .placed st F →
    Rel files .unplaced st fun k => Result.mapExit (Runner.inFile place.name text) (F k)
  unreadable {α : Type} {host : Host} {place : FilePath} {parse : String → Except Exit Program}
    {text : String} {x : Exit} (files : List FilePath) (st : State) :
    base.host = some host → host.readText place = .ok text →
    base.parse = some parse → parse text = .error x →
    Rel files .unplaced st fun _ =>
      (.error (Runner.inFile place.name text x) st : EStateM.Result Exit State α)
  geometry {α : Type} {host : Host} {place : FilePath} {x : Exit} (files : List FilePath)
    (path : String) (st : State) : base.host = some host → host.importNode place = .error x →
    Rel files .unplaced st fun _ =>
      (.error (Runner.geometryExit path place x) st : EStateM.Result Exit State α)

namespace Law

variable {base : Setting} {κ : Type}

/-- **Results that obey a law**, all of them in their frame. -/
structure Good {α : Type} (L : Law base κ) (effect : Effect) (blame : Blame) (outer : List Scope)
    (files : List FilePath) (st : State) (F : κ → EStateM.Result Exit State α) : Prop where
  frame (k : κ) : Frame effect st (Result.state (F k))
  holds (k : κ) : L.Holds effect outer files (Result.state (F k))
  rel : L.Rel files blame st F

/-- **Runners that obey a law** in everything that belongs to the script, where its condition
holds.  A block is built if it has a name in the scope around its own. -/
structure Agree (L : Law base κ) (R : κ → Runner) : Prop where
  expression {outer : List Scope} {files : List FilePath} {e : Expr} {st : State} :
    L.Writes files (.expression e) → L.Holds .expression outer files st →
    L.Good .expression .placed outer files st fun k =>
      (R k).expression ⟨L.setting k, outer⟩ e st
  statement {outer : List Scope} {files : List FilePath} {s : Statement} {st : State} :
    L.Writes files (.statement s) → L.Holds .statement outer files st →
    L.Good .statement .placed outer files st fun k =>
      (R k).statement ⟨L.setting k, outer⟩ s st
  build {outer : List Scope} {files : List FilePath} {symbol : Symbol} {name : String}
    {st : State} : Scope.symbol? outer name = some symbol → st.scope.Suits symbol →
    L.Holds .statement outer files st →
    L.Good .expression .unplaced outer files st fun k =>
      (R k).build ⟨L.setting k, outer⟩ symbol st

/-! ### How laws are kept -/

namespace Good

variable {L : Law base κ} {α β : Type} {effect : Effect} {blame : Blame} {outer : List Scope}
  {files : List FilePath} {st : State}

/-- A primitive step is the same in all runs. -/
theorem primitive {act : Eval α} (h : Primitive (L.Points files) effect blame act)
    (hI : L.Holds effect outer files st) :
    L.Good effect blame outer files st fun _ => act st :=
  ⟨fun _ => h.frame st, fun _ => L.keep hI (h.frame st) (h.definitions st),
    L.plain (h.plain st) (h.exit st)⟩

theorem pure (a : α) (hI : L.Holds effect outer files st) :
    L.Good effect blame outer files st fun _ => (Pure.pure a : Eval α) st :=
  primitive (.pure a) hI

theorem raise {cause : ErrorCause} {range : SourceRange}
    (hcause : (ScriptError.evaluation cause none).isImported = false)
    (hrange : L.Points files range) (hI : L.Holds effect outer files st) :
    L.Good effect blame outer files st fun _ => (throw (.raise cause range) : Eval α) st :=
  primitive (.throw (.raise blame hcause hrange)) hI

theorem mono {F : κ → EStateM.Result Exit State α} {blame' : Blame}
    (h : L.Good effect blame outer files st F) (hb : blame.rank ≤ blame'.rank) :
    L.Good effect blame' outer files st F :=
  ⟨h.frame, h.holds, L.mono h.rel hb⟩

/-- An expression that stands among statements. -/
theorem statement {F : κ → EStateM.Result Exit State α}
    (h : L.Good .expression blame outer files st F) (hI : L.Holds .statement outer files st) :
    L.Good .statement blame outer files st F :=
  ⟨fun k => (h.frame k).statement,
    fun k => L.keep hI (h.frame k).statement (h.frame k).definitions, h.rel⟩

/-- **Steps that follow each other.**  What follows is run from the state that one of the first
steps leaves, with its value. -/
theorem bind_of_ok {x : κ → Eval α} {f : κ → α → Eval β}
    (hx : L.Good effect blame outer files st fun k => x k st)
    (hf : ∀ a st₁, (∃ k, x k st = .ok a st₁) → Frame effect st st₁ →
      L.Holds effect outer files st₁ →
      L.Good effect blame outer files st₁ fun k => f k a st₁) :
    L.Good effect blame outer files st fun k => (x k >>= f k) st := by
  have hok : ∀ a st₁, (∃ k, x k st = .ok a st₁) →
      Frame effect st st₁ ∧ L.Good effect blame outer files st₁ fun k => f k a st₁ := by
    rintro a st₁ ⟨k, hk⟩
    have hframe := hx.frame k
    have hholds := hx.holds k
    rw [hk] at hframe hholds
    exact ⟨hframe, hf a st₁ ⟨k, hk⟩ hframe hholds⟩
  refine ⟨fun k => ?_, fun k => ?_, L.bind hx.rel fun a st₁ h =>
    ⟨fun k => ((hok a st₁ h).2.frame k).statement, (hok a st₁ h).2.rel⟩⟩
  · have hframe := hx.frame k
    cases hres : x k st with
    | ok a st₁ =>
      rw [Step.bind_ok (f k) hres]
      obtain ⟨hfirst, hrest⟩ := hok a st₁ ⟨k, hres⟩
      exact hfirst.trans (hrest.frame k)
    | error e st₁ =>
      rw [hres] at hframe
      rw [Step.bind_error (f k) hres]
      exact hframe
  · have hholds := hx.holds k
    cases hres : x k st with
    | ok a st₁ =>
      rw [Step.bind_ok (f k) hres]
      exact (hok a st₁ ⟨k, hres⟩).2.holds k
    | error e st₁ =>
      rw [hres] at hholds
      rw [Step.bind_error (f k) hres]
      exact hholds

theorem bind {x : κ → Eval α} {f : κ → α → Eval β}
    (hx : L.Good effect blame outer files st fun k => x k st)
    (hf : ∀ a st₁, Frame effect st st₁ → L.Holds effect outer files st₁ →
      L.Good effect blame outer files st₁ fun k => f k a st₁) :
    L.Good effect blame outer files st fun k => (x k >>= f k) st :=
  hx.bind_of_ok fun a st₁ _ => hf a st₁

/-- A primitive step in front, which defines nothing. -/
theorem primitive_bind {x : Eval α} {f : κ → α → Eval β}
    (hx : Primitive (L.Points files) effect blame x) (hI : L.Holds effect outer files st)
    (hf : ∀ a st₁, Frame effect st st₁ → st₁.scope.definitions = st.scope.definitions →
      L.Holds effect outer files st₁ → L.Good effect blame outer files st₁ fun k => f k a st₁) :
    L.Good effect blame outer files st fun k => (x >>= f k) st := by
  refine (primitive hx hI).bind_of_ok fun a st₁ hok hframe hI₁ => hf a st₁ hframe ?_ hI₁
  obtain ⟨_, hst⟩ := hok
  have hdefinitions := hx.definitions st
  rwa [hst] at hdefinitions

/-- A primitive step in the end. -/
theorem bind_primitive {x : κ → Eval α} {f : α → Eval β}
    (hx : L.Good effect blame outer files st fun k => x k st)
    (hf : ∀ a, Primitive (L.Points files) effect blame (f a)) :
    L.Good effect blame outer files st fun k => (x k >>= f) st :=
  hx.bind fun a _ _ hI => primitive (hf a) hI

theorem locate {act : κ → Eval α} {r : SourceRange}
    (h : L.Good effect .unplaced outer files st fun k => act k st) (hr : L.Points files r) :
    L.Good effect .placed outer files st fun k => Step.locate r (act k) st := by
  refine ⟨fun k => ?_, fun k => ?_, L.locate hr h.rel⟩
  · rw [Step.locate, Step.mapExit_apply, Result.state_mapExit]
    exact h.frame k
  · rw [Step.locate, Step.mapExit_apply, Result.state_mapExit]
    exact h.holds k

/-- **A block is an expression**: whatever runs in its scope, the scope around it is as it was. -/
theorem block {s : Scope} {act : κ → Env → Eval α} (hI : L.Holds .expression outer files st)
    (h : L.Good .statement blame (st.scope :: outer) files { st with scope := s } fun k =>
      act k ⟨L.setting k, st.scope :: outer⟩ { st with scope := s }) :
    L.Good .expression blame outer files st fun k =>
      Env.inside ⟨L.setting k, outer⟩ s Env.leaveBlock (act k) st := by
  have hframe (k : κ) : Frame .expression st (Result.state
      (Env.inside ⟨L.setting k, outer⟩ s Env.leaveBlock (act k) st)) := by
    rw [Env.inside_apply, Result.state_settle]
    exact ⟨Scope.Moves.refl st.scope, (h.frame k).world⟩
  exact ⟨hframe, fun k => L.keep hI (hframe k) (hframe k).definitions, L.settle (.block s) h.rel⟩

/-- **A turn of a loop**: the scope around it takes over. -/
theorem turn {act : κ → Env → Eval α} (hI : L.Holds .statement outer files st)
    (h : L.Good .statement blame (st.scope :: outer) files
      { st with scope := st.scope.pushLoop outer.length } fun k =>
        act k ⟨L.setting k, st.scope :: outer⟩
          { st with scope := st.scope.pushLoop outer.length }) :
    L.Good .statement blame outer files st fun k =>
      Env.inside ⟨L.setting k, outer⟩ (st.scope.pushLoop outer.length) Env.leaveLoop
        (act k) st := by
  have hframe (k : κ) : Frame .statement st (Result.state
      (Env.inside ⟨L.setting k, outer⟩ (st.scope.pushLoop outer.length) Env.leaveLoop
        (act k) st)) := by
    rw [Env.inside_apply, Result.state_settle]
    exact (Detour.turn outer.length).frame (h.frame k)
  refine ⟨hframe, fun k => L.keep hI (hframe k) ?_, L.settle (.turn outer.length) h.rel⟩
  rw [Env.inside_apply, Result.state_settle]
  rfl

end Good

end Law

end SceneLang
