import SceneLang.Proofs.Accord

/-!
# The moments of a run

A moment is the start or the end of a task, with the surroundings and the state at that point.

Runs are functions, so the states that they pass through cannot be seen from outside.  Here they are
made visible by an alarm: a run reaches a moment if it ends differently when an alarm is set off at
that moment (`Reaches`).  The alarm can be any reason to stop, and nothing in a run goes on after a
task has stopped, so no moment of a run escapes all alarms.

The main result is `Invariant.at_of_reaches`: an invariant that holds where a part of a run starts
holds at all moments that it reaches.
-/

namespace SceneLang

/-! ### Alarms -/

/-- **The start or the end of a task.** -/
structure Moment where
  task : Task
  env : Env
  state : State
  /-- Whether the task is over, for whatever reason. -/
  isOver : Bool

/-- The scopes at a moment, the active one first. -/
def Moment.stack (m : Moment) : List Scope := m.state.scope :: m.env.enclosing

open Classical in
/-- Run a task, but stop at a given moment.  Moments hold functions, so this is not computed. -/
noncomputable def Moment.guard {α : Type} (m : Moment) (alarm : Exit) (task : Task) (env : Env)
    (act : Eval α) : Eval α := fun st =>
  if m = ⟨task, env, st, false⟩ then .error alarm st
  else if m = ⟨task, env, Result.state (act st), true⟩ then .error alarm (Result.state (act st))
  else act st

namespace Runner

/-- A runner that stops at a given moment. -/
noncomputable def alarmed (m : Moment) (alarm : Exit) (r : Runner) : Runner where
  turns := r.turns
  expression env e := m.guard alarm (.expression e) env (r.expression env e)
  statement env s := m.guard alarm (.statement s) env (r.statement env s)
  build env symbol := m.guard alarm (.build symbol) env (r.build env symbol)
  body env block := m.guard alarm (.body block) env (r.body env block)

/-- The runner of a given depth that stops at a given moment, in whatever layer it comes. -/
noncomputable def watched (m : Moment) (alarm : Exit) : Nat → Runner
  | 0 => (ofFuel 0).alarmed m alarm
  | fuel + 1 => (watched m alarm fuel).next.alarmed m alarm

end Runner

/-- **A part of a run reaches a moment**, with enough fuel: an alarm at that moment makes a
difference. -/
def Reaches {α : Type} (act : Runner → Eval α) (st : State) (m : Moment) : Prop :=
  ∃ fuel alarm, act (Runner.watched m alarm fuel) st ≠ act (Runner.ofFuel fuel) st

/-! ### Invariants at moments -/

/-- Runs that give the same result. -/
def Accord.same (setting : Setting) : Accord setting setting where
  Rel _ _ res res' := res' = res
  similar := .refl setting
  mono h _ := h
  plain _ := rfl
  startTurn _ := rfl
  bind {_ _ _ st x x' f f'} hx hf := by
    cases hres : x st with
    | ok a st₁ =>
      rw [Step.bind_ok f hres, Step.bind_ok f' (hx.trans hres)]
      exact (hf a st₁ (.inl hres)).2
    | error e st₁ =>
      rw [Step.bind_error f hres, Step.bind_error f' (hx.trans hres)]
  locate _ h := by rw [h]
  inFile _ _ h := by rw [h]
  settle _ h := by rw [h]
  geometry _ _ _ _ := rfl
  parse _ _ _ := rfl

/-- **What an invariant says of a moment.**  The value of a block is built from a scope for blocks
of its kind, and the body of a defined block runs in the scope of a definition. -/
def Invariant.At (I : Invariant) (m : Moment) : Prop :=
  match m.task with
  | .expression _ => I.Holds .expression m.env m.state
  | .statement _ => I.Holds .statement m.env m.state
  | .build symbol => I.Holds .statement m.env m.state ∧ m.state.scope.Suits symbol
  | .body _ => I.Holds .statement m.env m.state ∧ m.state.scope.table = .definition

section Watching

variable {setting : Setting} {I : Invariant} {m : Moment} {alarm : Exit}

/-- An alarm at the start of a task stops it. -/
theorem Moment.guard_start {α : Type} {task : Task} {env : Env} {act : Eval α} {st : State}
    (h : m = ⟨task, env, st, false⟩) : m.guard alarm task env act st = .error alarm st := by
  unfold Moment.guard
  rw [if_pos h]

/-- An alarm makes no difference to a task that neither starts nor ends at its moment. -/
theorem Moment.guard_eq {α : Type} {task : Task} {env : Env} {act : Eval α} {st : State}
    (hstart : m ≠ ⟨task, env, st, false⟩) (hend : m ≠ ⟨task, env, Result.state (act st), true⟩) :
    m.guard alarm task env act st = act st := by
  unfold Moment.guard
  rw [if_neg hstart, if_neg hend]

/-- An alarm at a moment where the invariant does not hold makes no difference to a task that keeps
the invariant. -/
theorem Accord.Holds.guard {α : Type} {effect : Effect} {blame : Blame} {st : State} {task : Task}
    {env : Env} {res : EStateM.Result Exit State α} {act : Eval α} (hm : ¬ I.At m)
    (h : (Accord.same setting).Holds effect blame st res (act st))
    (hstart : I.At ⟨task, env, st, false⟩)
    (hend : Frame effect st (Result.state (act st)) →
      I.At ⟨task, env, Result.state (act st), true⟩) :
    (Accord.same setting).Holds effect blame st res (m.guard alarm task env act st) := by
  rw [Moment.guard_eq]
  · exact h
  · rintro rfl
    exact hm hstart
  · rintro rfl
    exact hm (hend h.frame')

theorem Accord.Agree.alarmed {r r' : Runner} (hm : ¬ I.At m)
    (h : (Accord.same setting).Agree I r r') :
    (Accord.same setting).Agree I r (r'.alarmed m alarm) where
  turns := h.turns
  expression outer e st hI :=
    (h.expression outer e st hI).guard hm hI fun hframe => I.frame hI hframe
  statement outer s st hI :=
    (h.statement outer s st hI).guard hm hI fun hframe => I.frame hI hframe
  build outer symbol st hI hs :=
    (h.build outer symbol st hI hs).guard hm ⟨hI, hs⟩ fun hframe =>
      ⟨I.frame hI hframe.statement, hframe.scope.extends.suits hs⟩
  body outer block st hI ht :=
    (h.body outer block st hI ht).guard hm ⟨hI, ht⟩ fun hframe =>
      ⟨I.frame hI hframe, hframe.scope.table.trans ht⟩

/-- An alarm at a moment where the invariant does not hold is never heard. -/
theorem Accord.agree_watched (hm : ¬ I.At m) (fuel : Nat) :
    (Accord.same setting).Agree I (Runner.ofFuel fuel) (Runner.watched m alarm fuel) := by
  induction fuel with
  | zero => exact ((Accord.same setting).agree_ofFuel I 0).alarmed hm
  | succ fuel ih =>
    rw [Runner.ofFuel_succ]
    exact ih.next.alarmed hm

/-- **An invariant holds at all moments that a part of a run reaches**, if it makes runners in
accord do the same there. -/
theorem Invariant.at_of_reaches {α : Type} {act : Runner → Eval α} {st : State}
    (hact : ∀ r r', (Accord.same setting).Agree I r r' → act r' st = act r st)
    (h : Reaches act st m) : I.At m := by
  refine Classical.byContradiction fun hm => ?_
  obtain ⟨fuel, alarm, hne⟩ := h
  exact hne (hact _ _ (Accord.agree_watched hm fuel))

/-- An alarm makes no difference to other tasks. -/
theorem Moment.guard_of_task_ne {α : Type} {task : Task} {env : Env} {act : Eval α}
    (h : m.task ≠ task) : m.guard alarm task env act = act := by
  funext st
  refine Moment.guard_eq ?_ ?_
  · rintro rfl
    exact h rfl
  · rintro rfl
    exact h rfl

/-- The alarms of `reaches_of_alarm` are no script errors, so a place does not change them. -/
theorem Exit.located_alarm (halarm : alarm ∈ [Exit.cancelled, .exhausted]) (r : SourceRange) :
    alarm.located r = alarm := by
  simp only [List.mem_cons, List.not_mem_nil, or_false] at halarm
  rcases halarm with rfl | rfl <;> rfl

/-- A moment is reached if an alarm that nothing in a run changes is heard. -/
theorem reaches_of_alarm {α : Type} {act : Runner → Eval α} {st : State} (fuel : Nat)
    (h : ∀ alarm ∈ [Exit.cancelled, .exhausted],
      ∃ st', act (Runner.watched m alarm fuel) st = .error alarm st') : Reaches act st m := by
  obtain ⟨st₁, h₁⟩ := h .cancelled (by simp)
  obtain ⟨st₂, h₂⟩ := h .exhausted (by simp)
  -- the run without an alarm does not end with both
  by_cases hplain : act (Runner.ofFuel fuel) st = .error .cancelled st₁
  · refine ⟨fuel, .exhausted, fun heq => ?_⟩
    rw [h₂, hplain] at heq
    cases heq
  · exact ⟨fuel, .cancelled, fun heq => hplain (heq.symm.trans h₁)⟩

end Watching

end SceneLang
