import SceneLang.Proofs.Collapse
import SceneLang.Proofs.Seats

/-!
# Runs with and without the scope of a turn

Two runs of the same script side by side: the first in the scope of a turn of a loop, the second
directly on the scope around the loop (`Mirror`).  The second follows the first (`Follows`), as long
as the first does not run out of fuel.  Each function of the evaluator has one lemma, which follows
its text: if the next layer of the second run follows the first (`Mirrors`), so does the layer
itself.  Here this is done for expressions, and in `Proofs.MirrorStatements` for statements.

The two differ where the statements of the turn define names: these would be gone after the turn,
but not when they are defined directly.  So no statement directly in the turn may define anything.
They also differ in the bodies of blocks that were defined around the loop, which is up to the
runners (`Mirrors.body`).
-/

namespace SceneLang

/-! ### States side by side -/

/-- What a run leaves behind, apart from what it counts. -/
def World.uncounted (w : World) : World := { w with polls := 0, turns := 0 }

/-- A state, apart from what the world counts. -/
def State.uncounted (st : State) : State := { st with world := st.world.uncounted }

/-- **A state in or above a turn, and the same state without the scope of the turn.** -/
structure Mirror (level : Nat) (outer outer' : List Scope) (st st' : State) : Prop where
  stack : Collapsed level (st.scope :: outer) (st'.scope :: outer')
  world : st'.world.uncounted = st.world.uncounted

/-- **The result of the second run follows that of the first**, unless the first ran out of fuel. -/
inductive Follows {α β : Type} (M : State → State → Prop) (V : α → β → Prop) :
    EStateM.Result Exit State α → EStateM.Result Exit State β → Prop
  | ok {a : α} {b : β} {st st' : State} (hv : V a b) (hst : M st st') :
    Follows M V (.ok a st) (.ok b st')
  | error {st st' : State} (x : Exit) (hst : M st st') : Follows M V (.error x st) (.error x st')
  | exhausted (st : State) (res : EStateM.Result Exit State β) :
    Follows M V (.error .exhausted st) res

namespace Follows

variable {α β α' β' : Type} {M M' : State → State → Prop} {V : α → β → Prop} {W : α' → β' → Prop}
  {st st' : State}

theorem pure {a : α} {b : β} (hv : V a b) (hst : M st st') :
    Follows M V ((Pure.pure a : Eval α) st) ((Pure.pure b : Eval β) st') :=
  .ok hv hst

theorem throw (x : Exit) (hst : M st st') :
    Follows M V ((MonadExcept.throw x : Eval α) st) ((MonadExcept.throw x : Eval β) st') :=
  .error x hst

theorem bind {x : Eval α} {x' : Eval β} {f : α → Eval α'} {f' : β → Eval β'}
    (hx : Follows M V (x st) (x' st'))
    (hf : ∀ a b st₁ st₁', V a b → M st₁ st₁' → Follows M W (f a st₁) (f' b st₁')) :
    Follows M W ((x >>= f) st) ((x' >>= f') st') := by
  cases hres : x st with
  | ok a st₁ =>
    rw [hres] at hx
    rw [Step.bind_ok f hres]
    cases hres' : x' st' with
    | ok b st₁' =>
      rw [hres'] at hx
      rw [Step.bind_ok f' hres']
      cases hx with
      | ok hv hst => exact hf a b st₁ st₁' hv hst
    | error e st₁' =>
      rw [hres'] at hx
      cases hx
  | error e st₁ =>
    rw [hres] at hx
    rw [Step.bind_error f hres]
    generalize hres' : x' st' = res' at hx
    cases hx with
    | error _ hst =>
      rw [Step.bind_error f' hres']
      exact .error e hst
    | exhausted => exact .exhausted st₁ _

/-- The same value goes on in both runs. -/
theorem bind_eq {x x' : Eval α} {f : α → Eval α'} {f' : α → Eval β'}
    (hx : Follows M Eq (x st) (x' st'))
    (hf : ∀ a st₁ st₁', M st₁ st₁' → Follows M W (f a st₁) (f' a st₁')) :
    Follows M W ((x >>= f) st) ((x' >>= f') st') :=
  hx.bind fun a _ st₁ st₁' hab hM => hab ▸ hf a st₁ st₁' hM

theorem mapExit {res : EStateM.Result Exit State α} {res' : EStateM.Result Exit State β}
    {f : Exit → Exit} (h : Follows M V res res') (hf : f .exhausted = .exhausted) :
    Follows M V (Result.mapExit f res) (Result.mapExit f res') := by
  cases h with
  | ok hv hst => exact .ok hv hst
  | error x hst => exact .error (f x) hst
  | exhausted st res =>
    rw [Result.mapExit, hf]
    exact .exhausted st _

theorem locate {act : Eval α} {act' : Eval β} (h : Follows M V (act st) (act' st'))
    (r : SourceRange) : Follows M V (Step.locate r act st) (Step.locate r act' st') :=
  h.mapExit rfl

theorem settle {res : EStateM.Result Exit State α} {res' : EStateM.Result Exit State β}
    {f f' : State → State} (h : Follows M V res res')
    (hf : ∀ st st', M st st' → M' (f st) (f' st')) :
    Follows M' V (Result.settle f res) (Result.settle f' res') := by
  cases h with
  | ok hv hst => exact .ok hv (hf _ _ hst)
  | error x hst => exact .error x (hf _ _ hst)
  | exhausted st res => exact .exhausted (f st) _

/-- The first run settles its state, the second has nothing to settle. -/
theorem settle_left {res : EStateM.Result Exit State α} {res' : EStateM.Result Exit State β}
    {f : State → State} (h : Follows M V res res') (hf : ∀ st st', M st st' → M' (f st) st') :
    Follows M' V (Result.settle f res) res' := by
  cases h with
  | ok hv hst => exact .ok hv (hf _ _ hst)
  | error x hst => exact .error x (hf _ _ hst)
  | exhausted st res => exact .exhausted (f st) _

end Follows

namespace Mirror

variable {level : Nat} {outer outer' : List Scope} {st st' : State} {setting : Setting} {α β : Type}
  {V : α → β → Prop}

/-- The two states differ in their seat only. -/
theorem eq_seated (h : Mirror level outer outer' st st') : st' = st.seated st'.seat := by
  obtain ⟨scope, world⟩ := st
  obtain ⟨scope', world'⟩ := st'
  obtain ⟨hstack, hworld⟩ := h
  have hscope : scope' = { scope with
      parent := scope'.parent
      definitions := scope'.definitions
      callerDefinitions := scope'.callerDefinitions } := by
    cases hstack <;> rfl
  have hworld' : world' = { world with polls := world'.polls, turns := world'.turns } :=
    congrArg (fun w : World => { w with polls := world'.polls, turns := world'.turns }) hworld
  exact congr (congrArg State.mk hscope) hworld'

/-- The same files are being imported in both runs. -/
theorem importing (h : Mirror level outer outer' st st') :
    st'.world.importing = st.world.importing := by
  rw [h.eq_seated]
  rfl

/-- What does not depend on the seat of a scope is the same. -/
theorem read {β : Type} (h : Mirror level outer outer' st st') (f : Scope → β)
    (hf : ∀ seat s, f (Scope.seated seat s) = f s) : f st'.scope = f st.scope := by
  rw [h.eq_seated]
  exact hf _ st.scope

/-- A step that does the same in the seat of the second state. -/
theorem step_of_seated (h : Mirror level outer outer' st st') {effect : Effect} {blame : Blame}
    {act : Eval α} (hact : Primitive (fun _ => True) effect blame act)
    (hrun : act (st.seated st'.seat) = Result.settle (State.seated st'.seat) (act st)) :
    Follows (Mirror level outer outer') Eq (act st) (act st') := by
  rw [← h.eq_seated] at hrun
  -- the step keeps the place and the names of the scope, so the stacks stay collapsed
  have hstack := h.stack.keep (hact.frame st).statement.scope (hact.definitions st)
  rw [hrun]
  cases hres : act st with
  | ok a st₁ =>
    rw [hres] at hstack
    exact .ok rfl ⟨hstack, rfl⟩
  | error x st₁ =>
    rw [hres] at hstack
    exact .error x ⟨hstack, rfl⟩

/-- **A primitive step does the same in both runs.** -/
theorem step (h : Mirror level outer outer' st st') {effect : Effect} {blame : Blame} {act : Eval α}
    (hcommutes : ∀ seat, Step.Commutes (State.seated seat) act)
    (hact : Primitive (fun _ => True) effect blame act) :
    Follows (Mirror level outer outer') Eq (act st) (act st') :=
  h.step_of_seated hact (hcommutes _ st)

/-- A scope that is entered above a turn. -/
theorem enter (h : Mirror level outer outer' st st') (s : Scope) :
    Mirror level (st.scope :: outer) (st'.scope :: outer') { st with scope := s }
      { st' with scope := s.lower level } :=
  ⟨.above s h.stack, h.world⟩

/-- What is entered lies above the turn. -/
theorem above (h : Mirror level outer outer' st st') : level + 1 < (st.scope :: outer).length :=
  h.stack.level_lt

/-- A change of a scope above the turn. -/
theorem modify (h : Mirror level outer outer' st st') (habove : level + 1 < outer.length)
    (f f' : Scope → Scope) (hf : ∀ s, f' (s.lower level) = (f s).lower level) :
    Mirror level outer outer' { st with scope := f st.scope }
      { st' with scope := f' st'.scope } := by
  obtain ⟨hscope, hstack⟩ := h.stack.above_inv habove
  refine ⟨?_, h.world⟩
  dsimp only
  rw [hscope, hf]
  exact .above _ hstack

/-- **A block**: the scope around it is as it was, in both runs. -/
theorem block (h : Mirror level outer outer' st st') {s s' : Scope} {act : Env → Eval α}
    {act' : Env → Eval β}
    (hact : Follows (Mirror level (st.scope :: outer) (st'.scope :: outer')) V
      (act ⟨setting, st.scope :: outer⟩ { st with scope := s })
      (act' ⟨setting, st'.scope :: outer'⟩ { st' with scope := s' })) :
    Follows (Mirror level outer outer') V
      (Env.inside ⟨setting, outer⟩ s Env.leaveBlock act st)
      (Env.inside ⟨setting, outer'⟩ s' Env.leaveBlock act' st') := by
  rw [Env.inside_apply, Env.inside_apply]
  exact hact.settle fun _ _ hM => ⟨h.stack, hM.world⟩

/-- **A turn of an inner loop**: the scope around it takes over, in both runs. -/
theorem turn (h : Mirror level outer outer' st st') {s s' : Scope} {act : Env → Eval α}
    {act' : Env → Eval β}
    (hact : Follows (Mirror level (st.scope :: outer) (st'.scope :: outer')) V
      (act ⟨setting, st.scope :: outer⟩ { st with scope := s })
      (act' ⟨setting, st'.scope :: outer'⟩ { st' with scope := s' })) :
    Follows (Mirror level outer outer') V
      (Env.inside ⟨setting, outer⟩ s Env.leaveLoop act st)
      (Env.inside ⟨setting, outer'⟩ s' Env.leaveLoop act' st') := by
  rw [Env.inside_apply, Env.inside_apply]
  refine hact.settle fun st₁ st₁' hM => ⟨?_, hM.world⟩
  obtain ⟨hscope, -⟩ := hM.stack.above_inv h.above
  dsimp only [Env.leaveLoop]
  rw [hscope]
  exact h.stack.absorb st₁.scope

/-! ### Primitive steps -/

theorem coerce (h : Mirror level outer outer' st st') (a : Argument) (kind : Kind)
    (values : List Value) : Follows (Mirror level outer outer') Eq (a.coerce setting kind values st)
      (a.coerce setting kind values st') := by
  have ha : a.Within fun _ => True :=
    ⟨trivial, fun _ _ => trivial, fun _ _ => trivial, fun _ _ _ => trivial⟩
  exact h.step (fun _ => Argument.commutes_coerce setting a kind values)
    (ha.primitive_coerce setting kind values)

theorem run (h : Mirror level outer outer' st st') (c : Command) (v : Value) :
    Follows (Mirror level outer outer') Eq (c.run setting v st) (c.run setting v st') :=
  h.step (fun _ => commutes_run setting c v) (primitive_run setting c v)

theorem addValue (h : Mirror level outer outer' st st') (v : Value) :
    Follows (Mirror level outer outer') Eq (Eval.addValue v st) (Eval.addValue v st') :=
  h.step (fun _ => commutes_addValue v) (primitive_addValue v)

/-- Saying where the node being built was written. -/
theorem sourceIndex (h : Mirror level outer outer' st st') (index : Option Int) :
    Follows (Mirror level outer outer') Eq
      (Eval.modifyScope (fun s => { s with sourceIndex := index }) st)
      (Eval.modifyScope (fun s => { s with sourceIndex := index }) st') := by
  have hprimitive : Primitive (fun _ => True) .statement .placed
      (Eval.modifyScope fun s => { s with sourceIndex := index }) :=
    .modifyScope (fun _ => Scope.Extends.of_eq rfl) fun _ => rfl
  exact h.step (fun _ => commutes_modifyScope fun _ => rfl) hprimitive

/-- A turn of an inner loop starts, if the host never wants to stop. -/
theorem startTurn (h : Mirror level outer outer' st st')
    (hgoes : ∀ k, setting.isCancelled k = false) :
    Follows (Mirror level outer outer') Eq (Runner.startTurn setting st)
      (Runner.startTurn setting st') := by
  rw [Runner.startTurn_apply, Runner.startTurn_apply, hgoes, hgoes]
  exact .ok rfl ⟨h.stack, h.world⟩

/-- Defining a name above the turn. -/
theorem define (h : Mirror level outer outer' st st') (habove : level + 1 < outer.length)
    (name : String) (symbol : Symbol) :
    Follows (Mirror level outer outer') Eq
      (Eval.modifyScope (fun s => s.define name symbol) st)
      (Eval.modifyScope (fun s => s.define name (symbol.lower level)) st') :=
  .ok rfl (h.modify habove (·.define name symbol) (·.define name (symbol.lower level)) fun s =>
    (s.lower_define level name symbol).symm)

end Mirror

/-- The children of a block that is called with them, in both stacks. -/
theorem gather_lower (level : Nat) (name : String) (place : SourceRange) (vs : List Value)
    (s : Scope) : Runner.gather name place vs (s.lower level)
      = (Runner.gather name place vs s).map (Scope.lower level) := by
  have hseat := @Scope.gather_seated ⟨s.parent.map (lowered level), s.definitions.lower level,
    s.callerDefinitions.lower level, 0, 0⟩ name place vs s
  refine hseat.trans ?_
  cases hres : Runner.gather name place vs s with
  | error x => rfl
  | ok t =>
    obtain ⟨ws, rfl, -⟩ := Runner.gather_gains hres
    rfl

/-- What a name takes when further expressions follow it, in the stack without the turn. -/
def Runner.Appetite.lower (level : Nat) : Appetite → Appetite
  | .children symbol block => .children (symbol.lower level) block
  | a => a

theorem Runner.appetite_lower (level : Nat) (symbol? : Option Symbol) :
    appetite (symbol?.map (Symbol.lower level)) = (appetite symbol?).lower level := by
  cases symbol? with
  | none => rfl
  | some symbol =>
    cases symbol with
    | command c =>
      simp only [Option.map_some, Symbol.lower, appetite]
      split <;> rfl
    | shape s =>
      simp only [Option.map_some, Symbol.lower, appetite]
      split <;> rfl
    | closure c =>
      simp only [Option.map_some, Symbol.lower, appetite]
      show (if c.blockType.childKinds.isEmpty then _ else _) = _
      split <;> rfl
    | _ => rfl

/-! ### Runners side by side -/

/-- **A statement that defines names where it stands**, by itself or through a file. -/
def Statement.definesHere : Statement → Bool
  | .define _ _ _ | .importFile _ _ => true
  | _ => false

/-- **The second runner follows the first** in everything that is run in or above a turn.  A body
that was defined around the loop is behind the turn in the first run, and not in the second. -/
structure Mirrors (level : Nat) (setting : Setting) (r r' : Runner) : Prop where
  turns : r'.turns = r.turns
  expression {outer outer' : List Scope} {st st' : State} (e : Expr) :
    Mirror level outer outer' st st' →
    Follows (Mirror level outer outer') Eq (r.expression ⟨setting, outer⟩ e st)
      (r'.expression ⟨setting, outer'⟩ e st')
  statement {outer outer' : List Scope} {st st' : State} {s : Statement} :
    s.definesHere = false ∨ level + 1 < outer.length → Mirror level outer outer' st st' →
    Follows (Mirror level outer outer') Eq (r.statement ⟨setting, outer⟩ s st)
      (r'.statement ⟨setting, outer'⟩ s st')
  build {outer outer' : List Scope} {st st' : State} (symbol : Symbol) :
    level + 1 < outer.length → Mirror level outer outer' st st' →
    Follows (Mirror level outer outer') Eq (r.build ⟨setting, outer⟩ symbol st)
      (r'.build ⟨setting, outer'⟩ (symbol.lower level) st')
  body {outer outer' : List Scope} {st st' : State} (block : Block) :
    level + 1 < outer.length →
    Mirror level outer outer' { st with scope := st.scope.inTurn level outer } st' →
    Follows (Mirror level outer outer') Eq (r.body ⟨setting, outer⟩ block st)
      (r'.body ⟨setting, outer'⟩ block st')

namespace Mirrors

variable {level : Nat} {setting : Setting} {r r' : Runner} {outer outer' : List Scope}
  {st st' : State}

theorem statements (h : Mirrors level setting r r') {ss : List Statement}
    (hss : ∀ s ∈ ss, s.definesHere = false ∨ level + 1 < outer.length)
    (hM : Mirror level outer outer' st st') :
    Follows (Mirror level outer outer') Eq (r.statements ⟨setting, outer⟩ ss st)
      (r'.statements ⟨setting, outer'⟩ ss st') := by
  induction ss generalizing st st' with
  | nil => exact .pure rfl hM
  | cons s rest ih =>
    obtain ⟨hs, hrest⟩ := List.forall_mem_cons.mp hss
    exact (h.statement hs hM).bind_eq fun _ _ _ hM₁ => ih hrest hM₁

theorem bodyStatements (h : Mirrors level setting r r') (habove : level + 1 < outer.length)
    (ss : List Statement) (hM : Mirror level outer outer' st st') :
    Follows (Mirror level outer outer') Eq (r.bodyStatements ⟨setting, outer⟩ ss st)
      (r'.bodyStatements ⟨setting, outer'⟩ ss st') := by
  induction ss generalizing st st' with
  | nil => exact .pure rfl hM
  | cons s rest ih =>
    cases s with
    | option range name default =>
      simp only [Runner.bodyStatements, Env.symbol?_bind, hM.stack.symbol?, Option.isNone_map]
      by_cases hnone : (Scope.symbol? (st.scope :: outer) name.name).isNone
      · simp only [hnone, if_true]
        refine (h.expression default hM).bind_eq fun v _ _ hM₁ => ?_
        exact (hM₁.define habove name.name (.constant v)).bind_eq fun _ _ _ hM₂ => ih hM₂
      · simp only [hnone]
        exact ih hM
    | _ => exact (h.statement (.inr habove) hM).bind_eq fun _ _ _ hM₁ => ih hM₁

/-- A block that is built in a scope of its own. -/
theorem buildIn (h : Mirrors level setting r r') (s : Scope) (symbol : Symbol)
    (hM : Mirror level outer outer' st st') :
    Follows (Mirror level outer outer') Eq (r.buildIn ⟨setting, outer⟩ s symbol st)
      (r'.buildIn ⟨setting, outer'⟩ (s.lower level) (symbol.lower level) st') :=
  hM.block (h.build symbol hM.above (hM.enter s))

/-! ### Arguments -/

theorem gatherAll (h : Mirrors level setting r r') (name : String) (es : List Expr) (s : Scope)
    (hM : Mirror level outer outer' st st') :
    Follows (Mirror level outer outer') (fun s s' => s' = s.lower level)
      (r.gatherAll ⟨setting, outer⟩ name es s st)
      (r'.gatherAll ⟨setting, outer'⟩ name es (s.lower level) st') := by
  induction es generalizing st st' s with
  | nil => exact .pure rfl hM
  | cons e rest ih =>
    refine (h.expression e hM).bind_eq fun v st₁ st₁' hM₁ => ?_
    rw [gather_lower]
    cases Runner.gather name e.sourceRange v.elements s with
    | error x => exact .error x hM₁
    | ok t => exact ih t hM₁

/-- What an expression takes is read off the stack, in both runs. -/
theorem appetiteOf_read (setting : Setting) (e : Expr) (hM : Mirror level outer outer' st st') :
    ∃ a : Runner.Appetite, (∀ {β : Type} (f : Runner.Appetite → Eval β),
        (Runner.appetiteOf ⟨setting, outer⟩ e >>= f) st = f a st) ∧
      ∀ {β : Type} (f : Runner.Appetite → Eval β),
        (Runner.appetiteOf ⟨setting, outer'⟩ e >>= f) st' = f (a.lower level) st' := by
  cases e with
  | identifier range name =>
    refine ⟨Runner.appetite (Scope.symbol? (st.scope :: outer) name), fun _ => rfl, fun f => ?_⟩
    rw [← Runner.appetite_lower, ← hM.stack.symbol?]
    rfl
  | _ => exact ⟨.nothing, fun _ => rfl, fun _ => rfl⟩

theorem row (h : Mirrors level setting r r') (es : List Expr)
    (hM : Mirror level outer outer' st st') :
    Follows (Mirror level outer outer') Eq (r.row ⟨setting, outer⟩ es st)
      (r'.row ⟨setting, outer'⟩ es st') := by
  induction es generalizing st st' with
  | nil => exact .pure rfl hM
  | cons e rest ih =>
    cases rest with
    | nil => exact (h.expression e hM).bind_eq fun v _ _ hM₁ => .pure rfl hM₁
    | cons next rest =>
      obtain ⟨a, hread, hread'⟩ := appetiteOf_read setting e hM
      simp only [Runner.row, hread, hread']
      cases a with
      | argument c =>
        refine (ih hM).bind_eq fun values _ _ hM₁ => ?_
        refine (hM₁.coerce _ _ _).bind_eq fun v _ _ hM₂ => ?_
        exact ((hM₂.run c v).locate _).bind_eq fun w _ _ hM₃ => .pure rfl hM₃
      | children symbol block =>
        simp only [Runner.Appetite.lower, Eval.scope_bind, Env.level]
        rw [hM.stack.push]
        refine (h.gatherAll _ (next :: rest) _ hM).bind fun s s' _ _ hs hM₁ => ?_
        subst hs
        exact ((h.buildIn s symbol hM₁).locate _).bind_eq fun w _ _ hM₂ => .pure rfl hM₂
      | nothing =>
        refine (h.expression e hM).bind_eq fun v _ _ hM₁ => ?_
        exact (ih hM₁).bind_eq fun vs _ _ hM₂ => .pure rfl hM₂

theorem valueAs (h : Mirrors level setting r r') (e : Expr) (kind : Kind) (name : String)
    (index : Int) (hM : Mirror level outer outer' st st') :
    Follows (Mirror level outer outer') Eq (r.valueAs ⟨setting, outer⟩ e kind name index st)
      (r'.valueAs ⟨setting, outer'⟩ e kind name index st') :=
  (h.row _ hM).bind_eq fun _ _ _ hM₁ => hM₁.coerce _ _ _

theorem numberAs (h : Mirrors level setting r r') (e : Expr) (name : String) (index : Int)
    (hM : Mirror level outer outer' st st') :
    Follows (Mirror level outer outer') Eq (r.numberAs ⟨setting, outer⟩ e name index st)
      (r'.numberAs ⟨setting, outer'⟩ e name index st') := by
  refine (h.valueAs e .number name index hM).bind_eq fun v _ _ hM₁ => ?_
  cases v with
  | number x => exact .pure rfl hM₁
  | _ => exact .throw _ hM₁

theorem parameter (h : Mirrors level setting r r') (e : Option Expr) (kind : Kind)
    (callee : Identifier) (hM : Mirror level outer outer' st st') :
    Follows (Mirror level outer outer') Eq (r.parameter ⟨setting, outer⟩ e kind callee st)
      (r'.parameter ⟨setting, outer'⟩ e kind callee st') := by
  cases e with
  | some e => exact h.valueAs e kind callee.name 0 hM
  | none =>
    simp only [Runner.parameter]
    split
    · exact .pure rfl hM
    · exact .throw _ hM

/-! ### Expressions -/

/-- An unknown name is reported with the names that are known, which are the same. -/
theorem unknown (name : String) (range : SourceRange) (hM : Mirror level outer outer' st st') :
    Follows (Mirror level outer outer') (@Eq Value)
      (Runner.unknown ⟨setting, outer⟩ name range st)
      (Runner.unknown ⟨setting, outer'⟩ name range st') := by
  simp only [Runner.unknown, Env.stack_bind, Scope.expressionNames, hM.stack.visibleNames]
  exact .throw _ hM

/-- A block that takes no children is built from an empty scope. -/
theorem bareBlock (h : Mirrors level setting r r') (range : SourceRange) (name : String)
    (symbol : Symbol) (hM : Mirror level outer outer' st st') :
    Follows (Mirror level outer outer') Eq
      ((if (symbol.blockType?.getD .primitive).childKinds.isEmpty then do
        let scope := (← Eval.scope).push outer.length (symbol.blockType?.getD .primitive)
        Step.locate range (r.buildIn ⟨setting, outer⟩ scope symbol)
      else throw (.raise (.missingArgument name 0 "block") range.upperBound) : Eval Value) st)
      ((if (symbol.blockType?.getD .primitive).childKinds.isEmpty then do
        let scope := (← Eval.scope).push outer'.length (symbol.blockType?.getD .primitive)
        Step.locate range (r'.buildIn ⟨setting, outer'⟩ scope (symbol.lower level))
      else throw (.raise (.missingArgument name 0 "block") range.upperBound) : Eval Value)
        st') := by
  split
  · simp only [Eval.scope_bind, hM.stack.push]
    exact (h.buildIn _ symbol hM).locate range
  · exact .throw _ hM

theorem identifier (h : Mirrors level setting r r') (range : SourceRange) (name : String)
    (hM : Mirror level outer outer' st st') :
    Follows (Mirror level outer outer') Eq (r.identifier ⟨setting, outer⟩ range name st)
      (r'.identifier ⟨setting, outer'⟩ range name st') := by
  simp only [Runner.identifier, Env.symbol?_bind, hM.stack.symbol?]
  cases Scope.symbol? (st.scope :: outer) name with
  | none => exact unknown name range hM
  | some symbol =>
    cases symbol with
    | command c =>
      simp only [Option.map_some, Symbol.lower]
      split
      · exact (hM.run c .void).locate range
      · exact .throw _ hM
    | property p => exact (hM.step (fun _ => commutes_get p) (primitive_get p)).locate range
    | constant v => exact .pure rfl hM
    | shape s => exact h.bareBlock range name (.shape s) hM
    | closure c => exact h.bareBlock range name (.closure c) hM

theorem callBody (h : Mirrors level setting r r') (habove : level + 1 < outer.length)
    (options : Bindings Kind) (ss : List Statement) (hM : Mirror level outer outer' st st') :
    Follows (Mirror level outer outer') Eq (r.callBody ⟨setting, outer⟩ options ss st)
      (r'.callBody ⟨setting, outer'⟩ options ss st') := by
  induction ss generalizing st st' with
  | nil => exact .pure rfl hM
  | cons s rest ih =>
    cases s with
    | option range name default => exact .throw _ hM
    | command range callee e =>
      simp only [Runner.callBody]
      cases options.get? callee.name with
      | none => exact (h.statement (.inr habove) hM).bind_eq fun _ _ _ hM₁ => ih hM₁
      | some kind =>
        refine (h.parameter e kind callee hM).bind_eq fun v _ _ hM₁ => ?_
        exact (hM₁.define habove callee.name (.constant v)).bind_eq fun _ _ _ hM₂ => ih hM₂
    | _ => exact (h.statement (.inr habove) hM).bind_eq fun _ _ _ hM₁ => ih hM₁

/-- A block that is called with a body, once it is known which. -/
theorem blockCall (h : Mirrors level setting r r') (callee : Identifier) (body : Block)
    (symbol : Symbol) (block : BlockType) (hM : Mirror level outer outer' st st') :
    Follows (Mirror level outer outer') Eq
      (Env.inside ⟨setting, outer⟩ { st.scope.push outer.length block with
          callerDefinitions := Scope.visibleDefinitions (st.scope :: outer) } Env.leaveBlock
        (fun inner => do
          r.callBody inner block.options body.statements
          Eval.modifyScope fun s => { s with sourceIndex := st.scope.sourceIndex }
          Step.locate callee.range (r.build inner symbol)) st)
      (Env.inside ⟨setting, outer'⟩ { st'.scope.push outer'.length block with
          callerDefinitions := Scope.visibleDefinitions (st'.scope :: outer') } Env.leaveBlock
        (fun inner => do
          r'.callBody inner block.options body.statements
          Eval.modifyScope fun s => { s with sourceIndex := st'.scope.sourceIndex }
          Step.locate callee.range (r'.build inner (symbol.lower level))) st') := by
  rw [hM.stack.push, hM.stack.visibleDefinitions]
  refine hM.block ?_
  refine (h.callBody hM.above _ _ (hM.enter _)).bind_eq fun _ _ _ hM₁ => ?_
  rw [hM.read Scope.sourceIndex fun _ _ => rfl]
  refine (hM₁.sourceIndex st.scope.sourceIndex).bind_eq fun _ _ _ hM₂ => ?_
  exact (h.build symbol hM.above hM₂).locate _

theorem block (h : Mirrors level setting r r') (callee : Identifier) (body : Block)
    (hM : Mirror level outer outer' st st') :
    Follows (Mirror level outer outer') Eq (r.block ⟨setting, outer⟩ callee body st)
      (r'.block ⟨setting, outer'⟩ callee body st') := by
  simp only [Runner.block, Env.symbol?_bind, hM.stack.symbol?]
  cases Scope.symbol? (st.scope :: outer) callee.name with
  | none => exact unknown callee.name callee.range hM
  | some symbol =>
    cases symbol with
    | command c => exact .throw _ hM
    | property p => exact .throw _ hM
    | constant v => exact .throw _ hM
    | shape s => exact h.blockCall callee body (.shape s) s.blockType hM
    | closure c => exact h.blockCall callee body (.closure c) c.blockType hM

theorem range (h : Mirrors level setting r r') (first last : Expr) (step : Option Expr)
    (hM : Mirror level outer outer' st st') :
    Follows (Mirror level outer outer') Eq (r.range ⟨setting, outer⟩ first last step st)
      (r'.range ⟨setting, outer'⟩ first last step st') := by
  refine (h.numberAs first _ _ hM).bind_eq fun start _ _ hM₁ => ?_
  refine (h.numberAs last _ _ hM₁).bind_eq fun stop _ _ hM₂ => ?_
  cases step with
  | none => exact .pure rfl hM₂
  | some e =>
    refine (h.numberAs e _ _ hM₂).bind_eq fun step _ _ hM₃ => ?_
    cases NumberRange.ofBounds start stop step with
    | ok range => exact .pure rfl hM₃
    | error x => exact .throw _ hM₃

/-- **The value of an expression.** -/
theorem evaluate (h : Mirrors level setting r r') (e : Expr)
    (hM : Mirror level outer outer' st st') :
    Follows (Mirror level outer outer') Eq (r.evaluate ⟨setting, outer⟩ e st)
      (r'.evaluate ⟨setting, outer'⟩ e st') := by
  cases e with
  | number range x => exact .pure rfl hM
  | string range s => exact .pure rfl hM
  | color range c => exact .pure rfl hM
  | identifier range name => exact h.identifier range name hM
  | block range callee body => exact h.block callee body hM
  | tuple range items => exact (h.row items hM).bind_eq fun vs _ _ hM₁ => .pure rfl hM₁
  | prefixed range operator operand =>
    refine (h.numberAs operand _ _ hM).bind_eq fun x _ _ hM₁ => ?_
    cases operator <;> exact .pure rfl hM₁
  | infixed range left operator right =>
    refine (h.numberAs left _ _ hM).bind_eq fun x _ _ hM₁ => ?_
    exact (h.numberAs right _ _ hM₁).bind_eq fun y _ _ hM₂ => .pure rfl hM₂
  | range range first last step => exact h.range first last step hM
  | member range object name =>
    refine (h.expression object hM).bind_eq fun v _ _ hM₁ => ?_
    cases Runner.member v name with
    | ok w => exact .pure rfl hM₁
    | error x => exact .throw x hM₁
  | sub range inner => exact h.expression inner hM

end Mirrors

end SceneLang
