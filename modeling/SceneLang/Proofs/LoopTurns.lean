import SceneLang.Proofs.CallDepth
import SceneLang.Proofs.MirrorStatements
import SceneLang.Proofs.RangeItems

/-!
# Loops and their bodies

A turn of a loop runs in a copy of the scope around the loop and hands everything back but its
definitions.  So a loop without a variable should do what its body does, as often as it has turns.
It does (`loop_eq_times`), but for one thing: while a turn runs, the scope around the loop stays as
it was when the turn started, and the body of a block that was defined there still builds on it.
What the turn has changed since then, the body does not see (`Painted`).

`Moment.UpToDate` says that this makes no difference.  A runner that gives up where it may make one
(`Runner.upToDate`) is followed step by step by the direct run of the statements
(`mirrors_upToDate`), so where it never gives up, the loop is its body repeated.
-/

namespace SceneLang

/-! ### Repetition -/

/-- **A step several times in a row.** -/
def Eval.times (act : Eval Unit) : Nat → Eval Unit
  | 0 => pure ()
  | n + 1 => do
    act
    Eval.times act n

/-- **A value over which a loop takes a number of turns.** -/
inductive Value.Yields : Value → Nat → Prop
  | tuple {vs : List Value} (h : (Value.tuple vs).loopRange? = none) : Yields (.tuple vs) vs.length
  | range {v : Value} {range : NumberRange Float} {n : Nat} (h : v.loopRange? = some range)
    (hitems : ∀ i < n, range.item? i ≠ none) (hend : range.item? n = none) : Yields v n

namespace Runner

theorem overList_eq_times (act : Eval Unit) (vs : List Value) :
    overList (fun _ => act) vs = Eval.times act vs.length := by
  induction vs with
  | nil => rfl
  | cons v rest ih => rw [overList, ih, List.length_cons, Eval.times]

/-- A loop over a range. -/
theorem loop_of_range {r : Runner} {env : Env} {binder? : Option Identifier} {sequence : Expr}
    {body : Block} {v : Value} {range : NumberRange Float} {st st₁ : State}
    (hsequence : r.expression env sequence st = .ok v st₁) (h : v.loopRange? = some range) :
    r.loop env binder? sequence body st
      = overRange (r.turn env binder? body) range r.turns 0 st₁ := by
  rw [loop, Step.bind_ok _ hsequence]
  unfold Value.loopRange? at h
  split at h <;> cases h <;> rfl

/-- The statement of a loop over a range. -/
theorem runStatement_loop {fuel : Nat} {env : Env} {binder? : Option Identifier} {sequence : Expr}
    {v : Value} {range : NumberRange Float} {st st₁ : State} (place : SourceRange) (body : Block)
    (hsequence : runExpression fuel env sequence st = .ok v st₁)
    (h : v.loopRange? = some range) :
    runStatement (fuel + 1) env (.loop place binder? sequence body) st
      = overRange ((ofFuel fuel).turn env binder? body) range fuel 0 st₁ :=
  loop_of_range (r := ofFuel fuel) hsequence h

/-- A loop over the elements of a tuple. -/
theorem loop_of_tuple {r : Runner} {env : Env} {binder? : Option Identifier} {sequence : Expr}
    {body : Block} {vs : List Value} {st st₁ : State}
    (hsequence : r.expression env sequence st = .ok (.tuple vs) st₁)
    (h : (Value.tuple vs).loopRange? = none) :
    r.loop env binder? sequence body st = overList (r.turn env binder? body) vs st₁ := by
  rw [loop, Step.bind_ok _ hsequence]
  match vs with
  | [] => rfl
  | [w] =>
    cases w with
    | range range => cases h
    | _ => rfl
  | w :: next :: rest => cases w <;> rfl

/-- **A loop without a variable takes the same turn for every element**, or runs out of turns. -/
theorem loop_eq_turns {r : Runner} {env : Env} {sequence : Expr} {v : Value} {n : Nat}
    {st st₁ : State} (body : Block) (hsequence : r.expression env sequence st = .ok v st₁)
    (hv : v.Yields n) :
    r.loop env none sequence body st = Eval.times (r.turn env none body .void) n st₁ ∨
      ∃ st', r.loop env none sequence body st = .error .exhausted st' := by
  cases hv with
  | tuple h =>
    rw [loop_of_tuple hsequence h, ← overList_eq_times]
    exact .inl rfl
  | range h hitems hend =>
    rw [loop_of_range hsequence h]
    obtain ⟨xs, hxs, rfl⟩ := NumberRange.exists_yields_length hitems hend
    rcases overRange_eq_overList (r.turn env none body) hxs r.turns st₁ with hrun | ⟨-, hrun⟩
    · rw [← List.length_map Value.number, ← overList_eq_times]
      exact .inl hrun
    · exact .inr hrun

end Runner

/-- Runners in accord take turns in accord. -/
theorem Accord.Agree.times_turn {left right : Setting} {A : Accord left right} {I : Invariant}
    {r r' : Runner} {outer : List Scope} {st : State} (h : A.Agree I r r') (body : Block) (n : Nat)
    (hI : I.Holds .statement ⟨left, outer⟩ st) :
    A.Holds .statement .placed st
      (Eval.times (r.turn ⟨left, outer⟩ none body .void) n st)
      (Eval.times (r'.turn ⟨right, outer⟩ none body .void) n st) := by
  have hturn (v : Value) (st' : State)
      (hI : (A.law I).Holds .statement outer st.world.importing st') :
      (A.law I).Good .statement .placed outer st.world.importing st' fun k =>
        (bif k then r' else r).turn ⟨(A.law I).setting k, outer⟩ none body v st' :=
    h.law.turn none (fun _ _ => trivial) v hI
  -- repeating a turn is a loop over as many values, none of which is looked at
  have hrun := holds_of_good (Law.good_overList (List.replicate n .void) hturn (A.law_holds hI))
  have htimes (r : Runner) (setting : Setting) :
      Runner.overList (r.turn ⟨setting, outer⟩ none body) (List.replicate n .void)
        = Eval.times (r.turn ⟨setting, outer⟩ none body .void) n := by
    have heq := Runner.overList_eq_times (r.turn ⟨setting, outer⟩ none body .void)
      (List.replicate n .void)
    rwa [List.length_replicate] at heq
  rw [← htimes, ← htimes]
  exact hrun

/-! ### Bodies that are up to date -/

/-- **A statement that says where it stands before it does anything else**: a block. -/
def Statement.marksFirst (stack : List Scope) : Statement → Bool
  | .block _ _ _ => true
  | .command _ callee _ => ((Scope.symbol? stack callee.name).bind Symbol.blockType?).isSome
  | _ => false

/-- **What a body finds where it starts is what the turn has reached.**  It may be behind in where
the node being built was written, if it says so itself before anything else. -/
structure Scope.UpToDate (s : Scope) (stack : List Scope) (block : Block) (turn : Scope) :
    Prop where
  material : turn.material = s.material
  font : turn.font = s.font
  background : turn.background = s.background
  sourceIndex : turn.sourceIndex = s.sourceIndex ∨
    block.statements.head?.any (·.marksFirst stack)

/-- **No body is behind a turn above `level`**: the body of a block that was defined around the loop
starts with what the turn has reached. -/
def Moment.UpToDate (level : Nat) (m : Moment) : Prop :=
  ∀ block turn, m.task = .body block → m.isOver = false → m.state.scope.parent = some level →
    Scope.atLevel? m.env.enclosing (level + 1) = some turn →
    m.state.scope.UpToDate m.stack block turn

theorem Moment.upToDate_of_not_body {level : Nat} {m : Moment} (h : m.task.isBody = false) :
    m.UpToDate level := by
  intro block turn htask
  rw [htask] at h
  cases h

open Classical in
/-- **The runner that gives up where a body is behind a turn.** -/
noncomputable def Runner.upToDate (level fuel : Nat) (active : List Moment) : Runner :=
  trapped (fun _ m => decide (¬ m.UpToDate level)) .exhausted fuel active

namespace Runner

variable {level fuel : Nat} {active : List Moment} {env : Env} {st : State}

/-- The active tasks make no difference to it. -/
theorem upToDate_active (level fuel : Nat) (active active' : List Moment) :
    upToDate level fuel active = upToDate level fuel active' := by
  induction fuel generalizing active active' with
  | zero => rfl
  | succ fuel ih =>
    unfold upToDate at ih ⊢
    simp only [trapped]
    congr 1
    · funext env e st
      rw [ih (_ :: active) (_ :: active')]
    · funext env e st
      rw [ih (_ :: active) (_ :: active')]
    · funext env e st
      rw [ih (_ :: active) (_ :: active')]
    · funext env e st
      rw [ih (_ :: active) (_ :: active')]

open Classical in
/-- Tasks other than bodies are run. -/
theorem trap_of_not_body {α : Type} {task : Task} (h : task.isBody = false) (act : Eval α) :
    trap (fun m => decide (¬ m.UpToDate level)) .exhausted task env act = act := by
  funext st
  refine trap_eq ?_ ?_
  · rw [decide_eq_true_eq, Classical.not_not]
    exact Moment.upToDate_of_not_body h
  · rw [decide_eq_true_eq, Classical.not_not]
    exact Moment.upToDate_of_not_body h

theorem upToDate_expression (e : Expr) :
    (upToDate level (fuel + 1) active).expression env e st
      = (upToDate level fuel active).evaluate env e st := by
  rw [upToDate_active level fuel active (⟨.expression e, env, st, false⟩ :: active)]
  exact congrFun (trap_of_not_body rfl _) st

theorem upToDate_statement (s : Statement) :
    (upToDate level (fuel + 1) active).statement env s st
      = (upToDate level fuel active).execute env s st := by
  rw [upToDate_active level fuel active (⟨.statement s, env, st, false⟩ :: active)]
  exact congrFun (trap_of_not_body rfl _) st

theorem upToDate_build (symbol : Symbol) :
    (upToDate level (fuel + 1) active).build env symbol st
      = (upToDate level fuel active).construct env symbol st := by
  rw [upToDate_active level fuel active (⟨.build symbol, env, st, false⟩ :: active)]
  exact congrFun (trap_of_not_body rfl _) st

open Classical in
theorem upToDate_body (block : Block) :
    (¬ Moment.UpToDate level ⟨.body block, env, st, false⟩ ∧
      (upToDate level (fuel + 1) active).body env block st = .error .exhausted st) ∨
    (Moment.UpToDate level ⟨.body block, env, st, false⟩ ∧
      (upToDate level (fuel + 1) active).body env block st
        = (upToDate level fuel active).bodyStatements env block.statements st) := by
  rw [upToDate_active level fuel active (⟨.body block, env, st, false⟩ :: active)]
  have hbody : (upToDate level (fuel + 1) active).body env block st
      = trap (fun m => decide (¬ m.UpToDate level)) .exhausted (.body block) env
          ((upToDate level fuel (⟨.body block, env, st, false⟩ :: active)).bodyStatements env
            block.statements) st := rfl
  rw [hbody]
  by_cases h : Moment.UpToDate level ⟨.body block, env, st, false⟩
  · refine .inr ⟨h, trap_eq ?_ ?_⟩
    · rw [decide_eq_true_eq, Classical.not_not]
      exact h
    · rw [decide_eq_true_eq, Classical.not_not]
      exact fun _ _ _ hover => by cases hover
  · exact .inl ⟨h, trap_start (decide_eq_true h)⟩

open Classical in
/-- Without fuel it does nothing. -/
theorem upToDate_zero :
    (∀ e, (upToDate level 0 active).expression env e st = .error .exhausted st) ∧
    (∀ s, (upToDate level 0 active).statement env s st = .error .exhausted st) ∧
    (∀ symbol, (upToDate level 0 active).build env symbol st = .error .exhausted st) ∧
    (∀ block, (upToDate level 0 active).body env block st = .error .exhausted st) := by
  have htrap {α : Type} (task : Task) : trap (fun m => decide (¬ m.UpToDate level)) .exhausted task
      env (throw .exhausted : Eval α) st = .error .exhausted st := by
    obtain ⟨-, h⟩ | ⟨-, h | h⟩ := trap_cases (fun m => decide (¬ m.UpToDate level)) .exhausted task
      env (throw .exhausted : Eval α) st
    · exact h
    · exact h
    · exact h
  exact ⟨fun e => htrap (.expression e), fun s => htrap (.statement s),
    fun symbol => htrap (.build symbol), fun block => htrap (.body block)⟩

/-! ### Where the node being built was written -/

/-- A statement that says where it stands does not look at what was said before. -/
theorem execute_of_marksFirst {r : Runner} {s : Statement} (index : Option Int)
    (h : s.marksFirst (st.scope :: env.enclosing)) :
    r.execute env s { st with scope := { st.scope with sourceIndex := index } }
      = r.execute env s st := by
  cases s with
  | block range callee body => rfl
  | command range callee parameter =>
    have hsymbol : Scope.symbol? ({ st.scope with sourceIndex := index } :: env.enclosing)
        callee.name = Scope.symbol? (st.scope :: env.enclosing) callee.name :=
      Scope.symbol?_congr env.enclosing callee.name (.of_eq rfl) rfl
    simp only [execute, command, Env.symbol?_bind, hsymbol]
    rw [Statement.marksFirst] at h
    cases hfound : Scope.symbol? (st.scope :: env.enclosing) callee.name with
    | none => rw [hfound] at h; cases h
    | some symbol =>
      rw [hfound] at h
      cases symbol with
      | shape s => rfl
      | closure c => rfl
      | _ => cases h
  | _ => cases h

/-- **A body that says where it stands before anything else** does not look at what was said
before. -/
theorem upToDate_bodyStatements {ss : List Statement} (index : Option Int)
    (h : ss.head?.any (·.marksFirst (st.scope :: env.enclosing))) :
    (∃ st', (upToDate level fuel active).bodyStatements env ss st = .error .exhausted st') ∨
      (upToDate level fuel active).bodyStatements env ss st
        = (upToDate level fuel active).bodyStatements env ss
            { st with scope := { st.scope with sourceIndex := index } } := by
  cases ss with
  | nil => cases h
  | cons s rest =>
    have hmarks : s.marksFirst (st.scope :: env.enclosing) := h
    -- an option would be read without running it, but it does not say where it stands
    have hsplit (st : State) : (upToDate level fuel active).bodyStatements env (s :: rest) st
        = ((upToDate level fuel active).statement env s >>= fun _ =>
            (upToDate level fuel active).bodyStatements env rest) st := by
      cases s with
      | option range name default => cases h
      | _ => rfl
    rw [hsplit, hsplit]
    cases fuel with
    | zero => exact .inl ⟨st, Step.bind_error _ (upToDate_zero.2.1 s)⟩
    | succ fuel =>
      have hsame : (upToDate level (fuel + 1) active).statement env s
            { st with scope := { st.scope with sourceIndex := index } }
          = (upToDate level (fuel + 1) active).statement env s st := by
        rw [upToDate_statement, upToDate_statement, execute_of_marksFirst index hmarks]
      refine .inr ?_
      cases hres : (upToDate level (fuel + 1) active).statement env s st with
      | ok a st₁ => rw [Step.bind_ok _ hres, Step.bind_ok _ (hsame.trans hres)]
      | error e st₁ => rw [Step.bind_error _ hres, Step.bind_error _ (hsame.trans hres)]

end Runner

/-! ### Turns and direct runs -/

variable {setting : Setting} {level fuel : Nat} {outer outer' : List Scope} {st st' : State}

/-- **The body of a block above a turn**: where it is not behind, it is followed by the body of the
direct run, which starts from what the turn has reached. -/
theorem Mirrors.upToDate_body {active : List Moment} {r' : Runner} {block : Block}
    (h : Mirrors level setting (Runner.upToDate level fuel active) r')
    (hup : Moment.UpToDate level ⟨.body block, ⟨setting, outer⟩, st, false⟩)
    (habove : level + 1 < outer.length)
    (hM : Mirror level outer outer' { st with scope := st.scope.inTurn level outer } st') :
    Follows (Mirror level outer outer') Eq
      ((Runner.upToDate level fuel active).bodyStatements ⟨setting, outer⟩ block.statements
        st)
      (r'.bodyStatements ⟨setting, outer'⟩ block.statements st') := by
  have hfollows : Follows (Mirror level outer outer') Eq
      ((Runner.upToDate level fuel active).bodyStatements ⟨setting, outer⟩ block.statements
        { st with scope := st.scope.inTurn level outer })
      (r'.bodyStatements ⟨setting, outer'⟩ block.statements st') :=
    h.bodyStatements habove block.statements hM
  -- only a body that was defined around the loop starts elsewhere than the direct one
  by_cases hparent : st.scope.parent = some level
  · cases hturn : Scope.atLevel? outer (level + 1) with
    | none =>
      rw [Scope.inTurn, if_pos hparent, hturn] at hfollows
      exact hfollows
    | some turn =>
      rw [Scope.inTurn, if_pos hparent, hturn] at hfollows
      obtain ⟨hmaterial, hfont, hbackground, hindex⟩ := hup block turn rfl rfl hparent hturn
      simp only [Scope.caughtUp, hmaterial, hfont, hbackground] at hfollows
      -- catching up changes nothing, or only a mark that the body sets before it reads it
      rcases hindex with hindex | hmarks
      · rw [hindex] at hfollows
        exact hfollows
      · rcases Runner.upToDate_bodyStatements turn.sourceIndex hmarks with ⟨st₁, hst₁⟩ | heq
        · rw [hst₁]
          exact .exhausted st₁ _
        · rw [heq]
          exact hfollows
  · rw [Scope.inTurn, if_neg hparent] at hfollows
    exact hfollows

/-- **Everything that is run in or above a turn is followed by the direct run**, up to where a body
is behind the turn. -/
theorem mirrors_upToDate (hgoes : ∀ k, setting.isCancelled k = false) (level fuel : Nat)
    (active : List Moment) :
    Mirrors level setting (Runner.upToDate level fuel active) (Runner.ofFuel fuel) := by
  induction fuel generalizing active with
  | zero =>
    refine ⟨rfl, fun e hM => ?_, fun hs hM => ?_, fun symbol _ hM => ?_, fun block _ hM => ?_⟩
    · rw [Runner.upToDate_zero.1]
      exact .exhausted _ _
    · rw [Runner.upToDate_zero.2.1]
      exact .exhausted _ _
    · rw [Runner.upToDate_zero.2.2.1]
      exact .exhausted _ _
    · rw [Runner.upToDate_zero.2.2.2]
      exact .exhausted _ _
  | succ fuel ih =>
    rw [Runner.ofFuel_succ]
    refine ⟨rfl, fun e hM => ?_, fun hs hM => ?_, fun symbol habove hM => ?_,
      fun {outer outer' st st'} block habove hM => ?_⟩
    · rw [Runner.upToDate_expression]
      exact (ih active).evaluate e hM
    · rw [Runner.upToDate_statement]
      exact (ih active).execute hgoes hs hM
    · rw [Runner.upToDate_build]
      exact (ih active).construct habove symbol hM
    · obtain ⟨-, heq⟩ | ⟨hup, heq⟩ := @Runner.upToDate_body level fuel active
        ⟨setting, outer⟩ st block
      · rw [heq]
        exact .exhausted st _
      · rw [heq]
        exact (ih active).upToDate_body hup habove hM

/-- **Blocks are held no lower than they were defined**, so that their definitions are still there
when they are called. -/
def Scope.Grounded (stack : List Scope) : Prop := Knows (fun height c => c.level ≤ height) stack

/-- All stacks of a run of a program are like that. -/
theorem Program.grounded (setting : Setting) (p : Program) (fuel : Nat) :
    Throughout fuel (fun r => r.program { setting } p) p.start fun _ m =>
      Scope.Grounded m.stack := by
  let W : Watch setting fun _ m => Scope.Grounded m.stack := {
    regime := Regime.counting setting
    at_moment := by
      intro active task outer files st isOver hat
      cases task <;> exact hat.2.2.2.1
    call := (Watch.counting setting).call }
  exact W.throughout fuel (fun _ _ => trivial)
    ⟨rfl, Nat.zero_le _, ⟨⟨Bindings.blocks_empty _, Bindings.blocks_empty _⟩, trivial⟩, rfl⟩

/-- The states around a loop and around the statements of its body, run directly. -/
structure Alike (outer : List Scope) (st st' : State) : Prop where
  same : st'.uncounted = st.uncounted
  grounded : Scope.Grounded (st.scope :: outer)

/-- The state in which a turn starts. -/
theorem Alike.mirror (h : Alike outer st st') (w : World)
    (hw : w.uncounted = st.world.uncounted) :
    Mirror outer.length (st.scope :: outer) outer ⟨st.scope.pushLoop outer.length, w⟩ st' := by
  obtain ⟨hsame, hgrounded⟩ := h
  obtain ⟨hscope, hworld⟩ := State.mk.inj hsame
  refine ⟨?_, hworld.trans hw.symm⟩
  rw [hscope]
  refine .turn rfl rfl (Bindings.lower_of_blocks hgrounded.1.1)
    (Bindings.lower_of_blocks hgrounded.1.2) fun t ht => Bindings.lower_of_blocks ?_
  exact hgrounded.2.blocks_of_mem (fun _ _ => Nat.le_succ_of_le) (Nat.le_succ _) ht

/-- **A turn of a loop is followed by the statements of its body.** -/
theorem follows_turn {r r' : Runner} (h : Mirrors outer.length setting r r')
    (hgoes : ∀ k, setting.isCancelled k = false) {body : Block}
    (hbody : ∀ s ∈ body.statements, s.definesHere = false) (hst : Alike outer st st') :
    Follows (Alike outer) Eq (r.turn ⟨setting, outer⟩ none body .void st)
      (r'.statements ⟨setting, outer⟩ body.statements st') := by
  let counted : World :=
    { st.world with polls := st.world.polls + 1, turns := st.world.turns + 1 }
  have hstart : Runner.startTurn setting st = .ok () { st with world := counted } := by
    rw [Runner.startTurn_apply, hgoes]
    rfl
  rw [Runner.turn_eq, Step.bind_ok _ hstart, Eval.scope_bind, Env.inside_apply]
  have hrun : Follows (Mirror outer.length (st.scope :: outer) outer) Eq
      (r.statements ⟨setting, st.scope :: outer⟩ body.statements
        ⟨st.scope.pushLoop outer.length, counted⟩)
      (r'.statements ⟨setting, outer⟩ body.statements st') :=
    h.statements (fun s hs => .inl (hbody s hs)) (hst.mirror counted rfl)
  -- the scope around the loop takes over all that the direct run has reached
  refine hrun.settle_left fun st₁ st₁' hM => ⟨?_, hst.grounded.congr rfl rfl⟩
  have habsorb : st.scope.absorb st₁.scope = st₁'.scope := hM.stack.turn_inv
  show State.mk st₁'.scope st₁'.world.uncounted
    = State.mk (st.scope.absorb st₁.scope) st₁.world.uncounted
  rw [habsorb, hM.world]

/-- **The turns of a loop are followed by its body, as often as there are turns.** -/
theorem follows_times {r r' : Runner} (h : Mirrors outer.length setting r r')
    (hgoes : ∀ k, setting.isCancelled k = false) {body : Block}
    (hbody : ∀ s ∈ body.statements, s.definesHere = false) (n : Nat) (hst : Alike outer st st') :
    Follows (Alike outer) Eq
      (Eval.times (r.turn ⟨setting, outer⟩ none body .void) n st)
      (Eval.times (r'.statements ⟨setting, outer⟩ body.statements) n st') := by
  induction n generalizing st st' with
  | zero => exact .pure rfl hst
  | succ n ih => exact (follows_turn h hgoes hbody hst).bind_eq fun _ _ _ hst₁ => ih hst₁

/-- Whether a step ran out of fuel. -/
def Result.isExhausted {σ α : Type} : EStateM.Result Exit σ α → Bool
  | .error .exhausted _ => true
  | _ => false

/-- A run that is followed to its end leaves the same behind. -/
theorem Follows.uncounted_eq {res res' : EStateM.Result Exit State Unit}
    (h : Follows (Alike outer) Eq res res') (hends : Result.isExhausted res = false) :
    Result.settle State.uncounted res = Result.settle State.uncounted res' := by
  cases h with
  | ok hv hst => exact congrArg (EStateM.Result.ok ()) hst.same.symm
  | error x hst => exact congrArg (EStateM.Result.error x) hst.same.symm
  | exhausted st res => cases hends

/-- **A loop is its body repeated**: a loop without a variable over a sequence of `n` elements,
whose body defines nothing and imports nothing directly, ends as the statements of the body do when
they are run `n` times on the scope around the loop, and leaves the same behind.  The host must not
stop the loop, and no body that was defined around the loop may be behind. -/
theorem loop_eq_times {range : SourceRange} {sequence : Expr} {body : Block} {v : Value} {n : Nat}
    {st₁ : State} (hgoes : ∀ k, setting.isCancelled k = false)
    (hbody : ∀ s ∈ body.statements, s.definesHere = false)
    (hgrounded : Scope.Grounded (st.scope :: outer))
    (hsequence : runExpression fuel ⟨setting, outer⟩ sequence st = .ok v st₁)
    (hv : v.Yields n)
    (hup : Throughout fuel
      (fun r => Eval.times (r.turn ⟨setting, outer⟩ none body .void) n) st₁
      fun _ m => m.UpToDate outer.length)
    (hends : Result.isExhausted (runStatement (fuel + 1) ⟨setting, outer⟩
      (.loop range none sequence body) st) = false) :
    Result.settle State.uncounted (runStatement (fuel + 1) ⟨setting, outer⟩
        (.loop range none sequence body) st)
      = Result.settle State.uncounted (Eval.times
          ((Runner.ofFuel fuel).statements ⟨setting, outer⟩ body.statements) n st₁) := by
  have hvalue : (Runner.ofFuel fuel).expression ⟨setting, outer⟩ sequence st = .ok v st₁ :=
    hsequence
  -- the sequence defines nothing, so the stack is as grounded as before
  have hframe : Frame .expression st st₁ := by
    have h := (Accord.same setting).agree_ofFuel .always fuel
    have hframe := (h.expression outer sequence st trivial).frame
    rwa [hvalue] at hframe
  have hst₁ : Alike outer st₁ st₁ :=
    ⟨rfl, hgrounded.congr hframe.definitions hframe.scope.extends.callerDefinitions⟩
  have hstatement : runStatement (fuel + 1) ⟨setting, outer⟩ (.loop range none sequence body)
      st = (Runner.ofFuel fuel).loop ⟨setting, outer⟩ none sequence body st := rfl
  rw [hstatement] at hends ⊢
  rcases Runner.loop_eq_turns body hvalue hv with hloop | ⟨st', hloop⟩
  · rw [hloop] at hends ⊢
    -- the run that gives up where a body is behind is the run itself
    have hsame : Eval.times ((Runner.upToDate outer.length fuel []).turn ⟨setting, outer⟩
        none body .void) n st₁
        = Eval.times ((Runner.ofFuel fuel).turn ⟨setting, outer⟩ none body .void) n st₁ :=
      hup .exhausted
    have hmirrors := mirrors_upToDate hgoes outer.length fuel []
    refine Follows.uncounted_eq (?_ : Follows (Alike outer) Eq _ _) hends
    rw [← hsame]
    exact follows_times hmirrors hgoes hbody n hst₁
  · rw [hloop] at hends
    cases hends

/-! ### A block that is defined around a loop -/

namespace Painted

/-- The body of a block that makes a cube. -/
def cube : Block := .mk ⟨11, 19⟩ [.command ⟨13, 17⟩ ⟨⟨13, 17⟩, "cube"⟩ none]

/-- The body of a loop that asks for red and calls the block. -/
def body : Block := .mk ⟨30, 47⟩ [
  .command ⟨32, 41⟩ ⟨⟨32, 37⟩, "color"⟩ (some (.identifier ⟨38, 41⟩ "red")),
  .command ⟨42, 45⟩ ⟨⟨42, 45⟩, "foo"⟩ none]

/-- What the loop goes through. -/
def sequence : Expr := .tuple ⟨25, 28⟩ [.number ⟨25, 26⟩ 1, .number ⟨27, 28⟩ 2]

/-- The loop. -/
def loop : Statement := .loop ⟨20, 47⟩ none sequence body

/-- A program that defines the block and runs the loop. -/
def program : Program where
  source := "define foo \x7b cube \x7d\nfor (1 2) \x7b color red foo \x7d"
  statements := [.define ⟨0, 19⟩ ⟨⟨7, 10⟩, "foo"⟩ (.block cube), loop]

/-- The outermost scope once the block is defined. -/
def root : Scope :=
  { source := program.source
    definitions := ⟨[("foo", .closure ⟨cube, .empty, 0, program.source, none⟩)]⟩ }

theorem grounded_root : Scope.Grounded [root] := by
  refine ⟨⟨fun name c hc => ?_, Bindings.blocks_empty _⟩, trivial⟩
  cases List.mem_singleton.mp hc
  exact Nat.le_refl 0

theorem definesHere_body : ∀ s ∈ body.statements, s.definesHere = false :=
  List.forall_mem_cons.mpr ⟨rfl, List.forall_mem_singleton.mpr rfl⟩

/-- The state in which the loop starts. -/
def before : State := ⟨root, {}⟩

/-- The state in which it starts if it stands in a group. -/
def inGroup : State := ⟨root.push 0 .group, {}⟩

/-- In a group the loop is not what the block is defined around, so no body is behind. -/
theorem upToDate_inGroup : Throughout 7
    (fun r => Eval.times (r.turn ⟨{}, [root]⟩ none body .void) 2) inGroup
    fun _ m => m.UpToDate 1 := by
  refine .of_check {} (fun _ m => m.task.isBody && m.state.scope.parent == some 1) ?_ ?_ ?_
  · intro _ m hm block turn htask _ hparent
    simp [htask, hparent, Task.isBody] at hm
  · exact fun _ _ h => (h.times_turn body 2 trivial).rel
  · decide +kernel

/-- **The loop in a group is its body repeated.** -/
theorem loop_in_group_eq_times :
    Throughout 7 (fun r => Eval.times (r.turn ⟨{}, [root]⟩ none body .void) 2) inGroup
      (fun _ m => m.UpToDate 1) ∧
    Result.settle State.uncounted (runStatement 8 ⟨{}, [root]⟩ loop inGroup)
      = Result.settle State.uncounted
          (Eval.times ((Runner.ofFuel 7).statements ⟨{}, [root]⟩ body.statements) 2
            inGroup) := by
  refine ⟨upToDate_inGroup, loop_eq_times (fun _ => rfl) definesHere_body ?_ rfl (.tuple rfl)
    upToDate_inGroup (by decide +kernel)⟩
  exact ⟨⟨Bindings.blocks_empty _, Bindings.blocks_empty _⟩, grounded_root⟩

/-- Whether the first child has a colour. -/
def isFirstColored (res : EStateM.Result Exit State Unit) : Bool :=
  (Result.state res).scope.childNodes.head?.any (·.material.color.isSome)

/-- **Around the definition of the block the loop is not its body repeated**: the first cube that it
makes has no colour, since the block does not see what the turn has asked for. -/
theorem loop_ne_times :
    (Runner.ofFuel 8).statements ⟨{}, []⟩ (program.statements.take 1) program.start
      = .ok () before ∧
    Scope.Grounded [before.scope] ∧
    (∀ s ∈ body.statements, s.definesHere = false) ∧
    runExpression 7 ⟨{}, []⟩ sequence before = .ok (.tuple [.number 1, .number 2]) before ∧
    Result.isExhausted (runStatement 8 ⟨{}, []⟩ loop before) = false ∧
    Result.settle State.uncounted (runStatement 8 ⟨{}, []⟩ loop before)
      ≠ Result.settle State.uncounted
          (Eval.times ((Runner.ofFuel 7).statements ⟨{}, []⟩ body.statements) 2 before) := by
  refine ⟨rfl, grounded_root, definesHere_body, rfl, by decide +kernel, fun heq => ?_⟩
  have hloop : isFirstColored (Result.settle State.uncounted
      (runStatement 8 ⟨{}, []⟩ loop before)) = false := by decide +kernel
  have hdirect : isFirstColored (Result.settle State.uncounted (Eval.times
      ((Runner.ofFuel 7).statements ⟨{}, []⟩ body.statements) 2 before)) = true := by
    decide +kernel
  rw [heq, hdirect] at hloop
  cases hloop

end Painted

end SceneLang
