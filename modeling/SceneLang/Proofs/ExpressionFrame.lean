import SceneLang.Proofs.Moments

/-!
# Expressions leave the scopes alone

An expression runs blocks, loops, the bodies of defined blocks and imports, all in scopes of their
own.  Of the scopes that are there when it starts, nothing changes but where children of the active
one are put from now on, at no moment of the run and whatever its end; and the imports that it runs
leave the stack of the files that are being imported as it was (`expression_frame`).
-/

namespace SceneLang

/-- **A state that stands on another one**: above the scopes that were there are further ones, and
among those that were there nothing is changed but where children of the top are put; and the files
that were being imported are still being imported, below others. -/
structure StandsOn (env₀ : Env) (st₀ : State) (env : Env) (st : State) (inner : List Scope) :
    Prop where
  stack : ∃ t, st.scope :: env.enclosing
    = inner ++ { st₀.scope with childTransform := t } :: env₀.enclosing
  importing : st₀.world.importing <:+ st.world.importing

namespace StandsOn

variable {env₀ env : Env} {st₀ st st' : State} {inner : List Scope}

theorem refl (env₀ : Env) (st₀ : State) : StandsOn env₀ st₀ env₀ st₀ [] :=
  ⟨⟨st₀.scope.childTransform, rfl⟩, List.suffix_rfl⟩

/-- A scope on top of the stack can be changed if it was not there. -/
theorem replace (h : StandsOn env₀ st₀ env st inner) (hinner : inner ≠ []) (st' : State)
    (hfiles : st.world.importing <:+ st'.world.importing) :
    ∃ inner', inner' ≠ [] ∧ StandsOn env₀ st₀ env st' inner' := by
  obtain ⟨⟨t, hstack⟩, hbelow⟩ := h
  cases inner with
  | nil => exact absurd rfl hinner
  | cons top rest =>
    injection hstack with _ hrest
    refine ⟨st'.scope :: rest, List.cons_ne_nil _ rest, ⟨t, ?_⟩, hbelow.trans hfiles⟩
    rw [hrest]
    rfl

/-- A scope that is entered is on top of the stack. -/
theorem enter (h : StandsOn env₀ st₀ env st inner) (s : Scope) :
    StandsOn env₀ st₀ (env.below st.scope) { st with scope := s } (s :: inner) := by
  obtain ⟨⟨t, hstack⟩, hbelow⟩ := h
  exact ⟨⟨t, congrArg (s :: ·) hstack⟩, hbelow⟩

/-- An expression can put children of the scope on top of the stack elsewhere. -/
theorem frame (h : StandsOn env₀ st₀ env st inner) (hframe : Frame .expression st st') :
    ∃ inner', StandsOn env₀ st₀ env st' inner' := by
  have hmoves : st.scope.Moves st'.scope := hframe.scope
  have hfiles : st.world.importing <:+ st'.world.importing :=
    hframe.world.importing ▸ List.suffix_rfl
  cases inner with
  | nil =>
    obtain ⟨⟨t, hstack⟩, hbelow⟩ := h
    injection hstack with hactive hrest
    refine ⟨[], ⟨st'.scope.childTransform, ?_⟩, hbelow.trans hfiles⟩
    rw [hmoves, hactive, hrest]
    rfl
  | cons top rest =>
    obtain ⟨inner', _, h'⟩ := h.replace (List.cons_ne_nil top rest) st' hfiles
    exact ⟨inner', h'⟩

end StandsOn

/-- **Expressions run in a state that stands on the given one, and statements in a scope that was
not there.** -/
def standing (env₀ : Env) (st₀ : State) : Invariant where
  Holds effect env st :=
    ∃ inner, (effect = .statement → inner ≠ []) ∧ StandsOn env₀ st₀ env st inner
  expression h := by
    obtain ⟨inner, -, h⟩ := h
    exact ⟨inner, nofun, h⟩
  frame {effect env st st'} h hframe := by
    obtain ⟨inner, hinner, h⟩ := h
    cases effect with
    | expression =>
      obtain ⟨inner', h'⟩ := h.frame hframe
      exact ⟨inner', nofun, h'⟩
    | statement =>
      have hfiles : st.world.importing <:+ st'.world.importing :=
        hframe.world.importing ▸ List.suffix_rfl
      obtain ⟨inner', hne, h'⟩ := h.replace (hinner rfl) st' hfiles
      exact ⟨inner', fun _ => hne, h'⟩
  enter {env st s} h _ := by
    obtain ⟨inner, -, h⟩ := h
    exact ⟨s :: inner, fun _ => List.cons_ne_nil s inner, h.enter s⟩
  turn h := by
    obtain ⟨inner, -, h⟩ := h
    exact ⟨_ :: inner, fun _ => List.cons_ne_nil _ inner, h.enter _⟩
  source {env st} text h := by
    obtain ⟨inner, hinner, h⟩ := h
    obtain ⟨inner', hne, h'⟩ := h.replace (hinner rfl)
      { st with scope := { st.scope with source := text } } List.suffix_rfl
    exact ⟨inner', fun _ => hne, h'⟩
  file {env st place} h _ := by
    obtain ⟨inner, hinner, h⟩ := h
    obtain ⟨inner', hne, h'⟩ := h.replace (hinner rfl) (st.entering place)
      (List.suffix_cons place _)
    exact ⟨inner', fun _ => hne, h'⟩

theorem standing_of_at {env₀ : Env} {st₀ : State} {m : Moment} (h : (standing env₀ st₀).At m) :
    ∃ inner, StandsOn env₀ st₀ m.env m.state inner := by
  obtain ⟨task, env, st, isOver⟩ := m
  cases task with
  | expression e => obtain ⟨inner, -, h⟩ := h; exact ⟨inner, h⟩
  | statement s => obtain ⟨inner, -, h⟩ := h; exact ⟨inner, h⟩
  | build symbol => obtain ⟨⟨inner, -, h⟩, -⟩ := h; exact ⟨inner, h⟩
  | body block => obtain ⟨⟨inner, -, h⟩, -⟩ := h; exact ⟨inner, h⟩

/-- **An expression leaves the scopes alone.**  Whatever its end, of the scope that it stands in
only the place of further children changes, the host has heard no less and was asked for no fewer
files, and the stack of the files that are being imported is as it was.  At every moment of the run
the scopes around it and those files are still there, below those of the moment. -/
theorem expression_frame (env : Env) (e : Expr) (st : State) :
    (∀ fuel, ∃ t, (Result.state (runExpression fuel env e st)).scope
      = { st.scope with childTransform := t }) ∧
    (∀ fuel, st.world.Grows (Result.state (runExpression fuel env e st)).world) ∧
    (∀ fuel, (Result.state (runExpression fuel env e st)).world.importing = st.world.importing) ∧
    ∀ m, Reaches (fun r => r.expression env e) st m →
      ∃ inner t, m.stack = inner ++ { st.scope with childTransform := t } :: env.enclosing ∧
        st.world.importing <:+ m.state.world.importing := by
  obtain ⟨setting, outer⟩ := env
  have hstart : (standing ⟨setting, outer⟩ st).Holds .expression ⟨setting, outer⟩ st :=
    ⟨[], nofun, .refl _ st⟩
  have hframe (fuel : Nat) : Frame .expression st
      (Result.state (runExpression fuel ⟨setting, outer⟩ e st)) :=
    (((Accord.same setting).agree_ofFuel _ fuel).expression outer e st hstart).frame
  refine ⟨fun fuel => ⟨_, (hframe fuel).scope⟩, fun fuel => (hframe fuel).world,
    fun fuel => (hframe fuel).world.importing, fun m hm => ?_⟩
  have hact (r r' : Runner)
      (hagree : (Accord.same setting).Agree (standing ⟨setting, outer⟩ st) r r') :
      r'.expression ⟨setting, outer⟩ e st = r.expression ⟨setting, outer⟩ e st :=
    (hagree.expression outer e st hstart).rel
  obtain ⟨inner, ⟨t, hstack⟩, hfiles⟩ := standing_of_at (Invariant.at_of_reaches hact hm)
  exact ⟨inner, t, hstack, hfiles⟩

/-! ### A block in an expression -/

namespace Cube

/-- A block without statements. -/
def block : Expr := .block ⟨0, 7⟩ ⟨⟨0, 4⟩, "cube"⟩ (.mk ⟨5, 7⟩ [])

/-- The moment when the block is built, in a scope of its own. -/
def built : Moment where
  task := .build (.shape (.solid .cube))
  env := ⟨{}, [{}]⟩
  state := ⟨Scope.push {} 0 .primitive, {}⟩
  isOver := false

/-- The block is built. -/
theorem reaches_built : Reaches (fun r => r.expression ⟨{}, []⟩ block) ⟨{}, {}⟩ built := by
  refine reaches_of_alarm 1 fun alarm halarm => ⟨⟨{}, {}⟩, ?_⟩
  have hexpression : (Runner.watched built alarm 1).expression ⟨{}, []⟩ block
      = (Runner.watched built alarm 0).evaluate ⟨{}, []⟩ block :=
    Moment.guard_of_task_ne fun h => by cases h
  have hbuild : (Runner.watched built alarm 0).build built.env (.shape (.solid .cube)) built.state
      = .error alarm built.state :=
    Moment.guard_start rfl
  show (Runner.watched built alarm 1).expression ⟨{}, []⟩ block ⟨{}, {}⟩ = _
  rw [hexpression]
  have hlocate : Step.locate ⟨0, 4⟩
      ((Runner.watched built alarm 0).build built.env (.shape (.solid .cube))) built.state
        = .error alarm built.state := by
    rw [Step.locate, Step.mapExit_apply, hbuild, Result.mapExit, Exit.located_alarm halarm]
  exact congrArg (Result.settle _) hlocate

/-- The scope that the expression stands in is below that of the block, as it was. -/
theorem expression_frame_built :
    Reaches (fun r => r.expression ⟨{}, []⟩ block) ⟨{}, {}⟩ built ∧
      ∃ inner t, built.stack = inner ++ [{ ({} : Scope) with childTransform := t }] := by
  obtain ⟨-, -, -, hmoments⟩ := expression_frame ⟨{}, []⟩ block ⟨{}, {}⟩
  obtain ⟨inner, t, hstack, -⟩ := hmoments built reaches_built
  exact ⟨reaches_built, inner, t, hstack⟩

end Cube

end SceneLang
