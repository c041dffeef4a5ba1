import SceneLang.Proofs.Moments

/-!
# What holds throughout a run

A moment is reached if an alarm at that moment makes a difference (`Reaches`).  In the same way a
condition holds throughout a run if it makes no difference to set off an alarm wherever the
condition fails (`Throughout`), and a run comes to a moment of some kind if that makes a difference
(`Visits`).  Here a condition may look at all tasks that are active at a moment, the innermost
first: they are the calls that the run has not yet returned from.

A run with alarms only stops earlier than it would: what it finishes is what the run without alarms
does (`runExpression_of_trapped`).
-/

namespace SceneLang

/-! ### Traps -/

/-- Run a task, but stop if it starts or ends at a bad moment. -/
def trap {α : Type} (bad : Moment → Bool) (alarm : Exit) (task : Task) (env : Env)
    (act : Eval α) : Eval α := fun st =>
  if bad ⟨task, env, st, false⟩ then .error alarm st
  else if bad ⟨task, env, Result.state (act st), true⟩ then .error alarm (Result.state (act st))
  else act st

/-- **The runner of a given depth that stops at bad moments**, in whatever layer they come.  It
knows the tasks that are active, and the runner of a layer those of that layer as well. -/
def Runner.trapped (bad : List Moment → Moment → Bool) (alarm : Exit) :
    Nat → List Moment → Runner
  | 0, active =>
    { turns := 0
      expression := fun env e => trap (bad active) alarm (.expression e) env (throw .exhausted)
      statement := fun env s => trap (bad active) alarm (.statement s) env (throw .exhausted)
      build := fun env symbol => trap (bad active) alarm (.build symbol) env (throw .exhausted)
      body := fun env block => trap (bad active) alarm (.body block) env (throw .exhausted) }
  | fuel + 1, active =>
    { turns := fuel + 1
      expression := fun env e st => trap (bad active) alarm (.expression e) env
        ((trapped bad alarm fuel (⟨.expression e, env, st, false⟩ :: active)).evaluate env e) st
      statement := fun env s st => trap (bad active) alarm (.statement s) env
        ((trapped bad alarm fuel (⟨.statement s, env, st, false⟩ :: active)).execute env s) st
      build := fun env symbol st => trap (bad active) alarm (.build symbol) env
        ((trapped bad alarm fuel (⟨.build symbol, env, st, false⟩ :: active)).construct env symbol)
        st
      body := fun env block st => trap (bad active) alarm (.body block) env
        ((trapped bad alarm fuel (⟨.body block, env, st, false⟩ :: active)).bodyStatements env
          block.statements) st }

open Classical in
/-- **A condition holds throughout a part of a run** of a given depth: an alarm wherever it fails is
never heard. -/
def Throughout {α : Type} (fuel : Nat) (act : Runner → Eval α) (st : State)
    (condition : List Moment → Moment → Prop) : Prop :=
  ∀ alarm, act (Runner.trapped (fun active m => decide (¬ condition active m)) alarm fuel []) st
    = act (Runner.ofFuel fuel) st

open Classical in
/-- **A part of a run comes to a moment of some kind**, with enough fuel: an alarm there is heard.
-/
def Visits {α : Type} (act : Runner → Eval α) (st : State) (kind : List Moment → Moment → Prop) :
    Prop :=
  ∃ fuel alarm, act (Runner.trapped (fun active m => decide (kind active m)) alarm fuel []) st
    ≠ act (Runner.ofFuel fuel) st

section Traps

variable {α : Type} {bad : Moment → Bool} {alarm : Exit} {task : Task} {env : Env} {act : Eval α}
  {st : State}

/-- An alarm where a task starts. -/
theorem trap_start (h : bad ⟨task, env, st, false⟩) :
    trap bad alarm task env act st = .error alarm st := by
  rw [trap, if_pos h]

/-- A task that neither starts nor ends at a bad moment. -/
theorem trap_eq (hstart : ¬ bad ⟨task, env, st, false⟩)
    (hend : ¬ bad ⟨task, env, Result.state (act st), true⟩) :
    trap bad alarm task env act st = act st := by
  rw [trap, if_neg hstart, if_neg hend]

/-- A trap sees only what a task does. -/
theorem trap_congr {act' : Eval α} (h : act st = act' st) :
    trap bad alarm task env act st = trap bad alarm task env act' st := by
  show (fun res => if bad ⟨task, env, st, false⟩ then .error alarm st
    else if bad ⟨task, env, Result.state res, true⟩ then .error alarm (Result.state res)
    else res) (act st) = _
  rw [h]
  rfl

/-- **What a trap makes of a task**: it starts and ends as it would, or the alarm is heard where it
starts or where it ends. -/
theorem trap_cases (bad : Moment → Bool) (alarm : Exit) (task : Task) (env : Env) (act : Eval α)
    (st : State) :
    (bad ⟨task, env, st, false⟩ ∧ trap bad alarm task env act st = .error alarm st) ∨
    (¬ bad ⟨task, env, st, false⟩ ∧
      (trap bad alarm task env act st = act st ∨
        trap bad alarm task env act st = .error alarm (Result.state (act st)))) := by
  by_cases hstart : bad ⟨task, env, st, false⟩
  · exact .inl ⟨hstart, trap_start hstart⟩
  · refine .inr ⟨hstart, ?_⟩
    rw [trap, if_neg hstart]
    split
    · exact .inr rfl
    · exact .inl rfl

/-- A trap leaves a state that the task has before or after. -/
theorem frame_trap {effect : Effect} (h : Frame effect st (Result.state (act st))) :
    Frame effect st (Result.state (trap bad alarm task env act st)) := by
  obtain ⟨-, heq⟩ | ⟨-, heq | heq⟩ := trap_cases bad alarm task env act st
  · rw [heq]
    exact Frame.refl effect st
  · rw [heq]
    exact h
  · rw [heq]
    exact h

end Traps

/-! ### Runs with alarms stop earlier -/

/-- Runs of which the second one does nothing but what the first one does. -/
def Accord.confirming (setting : Setting) : Accord setting setting where
  Rel _ _ res res' := ∀ a st, res' = .ok a st → res = .ok a st
  similar := .refl setting
  mono h _ := h
  plain _ := fun _ _ h => h
  startTurn _ := fun _ _ h => h
  bind {_ _ _ st x x' f f'} hx hf := by
    intro b st₂ h
    cases hres : x' st with
    | ok a st₁ =>
      rw [Step.bind_ok f' hres] at h
      rw [Step.bind_ok f (hx a st₁ hres)]
      exact (hf a st₁ (.inr hres)).2 b st₂ h
    | error e st₁ => rw [Step.bind_error f' hres] at h; cases h
  locate {_ _ res res'} r h := by
    intro a st' heq
    cases res' with
    | ok b st₁ => cases heq; rw [h a st' rfl]; rfl
    | error e st₁ => cases heq
  inFile {_ _ res res'} file source h := by
    intro a st' heq
    cases res' with
    | ok b st₁ => cases heq; rw [h a st' rfl]; rfl
    | error e st₁ => cases heq
  settle {_ _ _ _ f res res'} _ h := by
    intro a st' heq
    cases res' with
    | ok b st₁ => cases heq; rw [h a st₁ rfl]; rfl
    | error e st₁ => cases heq
  geometry _ _ _ _ := fun _ _ h => h
  parse _ _ _ := fun _ _ h => h

section Confirming

variable {setting : Setting} {alarm : Exit} {task : Task} {env : Env} {st : State}

/-- A trap confirms no less. -/
theorem Accord.Holds.trap {α : Type} {effect : Effect} {blame : Blame} {act : Eval α}
    {res : EStateM.Result Exit State α} (bad : Moment → Bool)
    (h : (Accord.confirming setting).Holds effect blame st res (act st)) :
    (Accord.confirming setting).Holds effect blame st res
      (SceneLang.trap bad alarm task env act st) := by
  refine ⟨h.frame, frame_trap h.frame', ?_⟩
  obtain ⟨-, heq⟩ | ⟨-, heq | heq⟩ := trap_cases bad alarm task env act st
  · rw [heq]
    exact fun _ _ hok => by cases hok
  · rw [heq]
    exact h.rel
  · rw [heq]
    exact fun _ _ hok => by cases hok

theorem Accord.agree_trapped (setting : Setting) (bad : List Moment → Moment → Bool) (alarm : Exit)
    (fuel : Nat) (active : List Moment) :
    (Accord.confirming setting).Agree .always (Runner.ofFuel fuel)
      (Runner.trapped bad alarm fuel active) := by
  induction fuel generalizing active with
  | zero =>
    have h := (Accord.confirming setting).agree_ofFuel .always 0
    exact ⟨rfl, fun outer e st hI => (h.expression outer e st hI).trap _,
      fun outer s st hI => (h.statement outer s st hI).trap _,
      fun outer symbol st hI hs => (h.build outer symbol st hI hs).trap _,
      fun outer block st hI ht => (h.body outer block st hI ht).trap _⟩
  | succ fuel ih =>
    rw [Runner.ofFuel_succ]
    exact ⟨rfl, fun outer e st hI => ((ih _).next.expression outer e st hI).trap _,
      fun outer s st hI => ((ih _).next.statement outer s st hI).trap _,
      fun outer symbol st hI hs => ((ih _).next.build outer symbol st hI hs).trap _,
      fun outer block st hI ht => ((ih _).next.body outer block st hI ht).trap _⟩

/-- **An expression that ends with a value under alarms has that value.** -/
theorem runExpression_of_trapped {bad : List Moment → Moment → Bool} {fuel : Nat}
    {active : List Moment} {e : Expr} {v : Value} {st' : State}
    (h : (Runner.trapped bad alarm fuel active).expression env e st = .ok v st') :
    runExpression fuel env e st = .ok v st' := by
  obtain ⟨setting, outer⟩ := env
  have hagree := Accord.agree_trapped setting bad alarm fuel active
  exact (hagree.expression outer e st trivial).rel v st' h

end Confirming

/-! ### Checking a condition by a run -/

/-- Runs of which the first one is cancelled or does what the second one does. -/
def Accord.yielding (setting : Setting) : Accord setting setting where
  Rel _ _ res res' := (∃ st, res = .error .cancelled st) ∨ res' = res
  similar := .refl setting
  mono h _ := h
  plain _ := .inr rfl
  startTurn _ := .inr rfl
  bind {_ _ _ st x x' f f'} hx hf := by
    cases hres : x st with
    | ok a st₁ =>
      have hsame : x' st = .ok a st₁ := by
        rcases hx with ⟨st', h⟩ | h
        · rw [hres] at h; cases h
        · exact h.trans hres
      rw [Step.bind_ok f hres, Step.bind_ok f' hsame]
      exact (hf a st₁ (.inl hres)).2
    | error e st₁ =>
      rw [Step.bind_error f hres]
      rcases hx with ⟨st', h⟩ | h
      · injection hres.symm.trans h with he
        exact .inl ⟨st₁, by rw [he]⟩
      · exact .inr (Step.bind_error f' (h.trans hres))
  locate r h := by
    refine h.imp ?_ (congrArg _)
    rintro ⟨st', rfl⟩
    exact ⟨st', rfl⟩
  inFile file source h := by
    refine h.imp ?_ (congrArg _)
    rintro ⟨st', rfl⟩
    exact ⟨st', rfl⟩
  settle _ h := by
    refine h.imp ?_ (congrArg _)
    rintro ⟨st', rfl⟩
    exact ⟨_, rfl⟩
  geometry _ _ _ _ := .inr rfl
  parse _ _ _ := .inr rfl

section Yielding

variable {setting : Setting} {alarm : Exit}

/-- Traps at fewer moments are heard no earlier. -/
theorem Accord.Holds.trap_both {α : Type} {effect : Effect} {blame : Blame} {task : Task}
    {env : Env} {st : State} {act act' : Eval α} {bad bad' : Moment → Bool}
    (hle : ∀ m, bad' m → bad m)
    (h : (Accord.yielding setting).Holds effect blame st (act st) (act' st)) :
    (Accord.yielding setting).Holds effect blame st (SceneLang.trap bad .cancelled task env act st)
      (SceneLang.trap bad' alarm task env act' st) := by
  refine ⟨frame_trap h.frame, frame_trap h.frame', ?_⟩
  by_cases hstart : bad ⟨task, env, st, false⟩
  · exact .inl ⟨st, trap_start hstart⟩
  by_cases hend : bad ⟨task, env, Result.state (act st), true⟩
  · exact .inl ⟨_, by rw [SceneLang.trap, if_neg hstart, if_pos hend]⟩
  rw [trap_eq hstart hend]
  refine h.rel.imp_right fun hsame => ?_
  rw [trap_eq (fun h => hstart (hle _ h)) (fun h => hend (hsame ▸ hle _ h)), hsame]

theorem Accord.agree_yielding {bad bad' : List Moment → Moment → Bool}
    (hle : ∀ active m, bad' active m → bad active m) (fuel : Nat) (active : List Moment) :
    (Accord.yielding setting).Agree .always (Runner.trapped bad .cancelled fuel active)
      (Runner.trapped bad' alarm fuel active) := by
  induction fuel generalizing active with
  | zero =>
    have h := (Accord.yielding setting).agree_ofFuel .always 0
    exact ⟨rfl,
      fun outer e st hI => (h.expression outer e st hI).trap_both (hle active),
      fun outer s st hI => (h.statement outer s st hI).trap_both (hle active),
      fun outer symbol st hI hs =>
        (h.build outer symbol st hI hs).trap_both (hle active),
      fun outer block st hI ht => (h.body outer block st hI ht).trap_both (hle active)⟩
  | succ fuel ih =>
    exact ⟨rfl,
      fun outer e st hI =>
        ((ih _).next.expression outer e st hI).trap_both (hle active),
      fun outer s st hI => ((ih _).next.statement outer s st hI).trap_both (hle active),
      fun outer symbol st hI hs =>
        ((ih _).next.build outer symbol st hI hs).trap_both (hle active),
      fun outer block st hI ht =>
        ((ih _).next.body outer block st hI ht).trap_both (hle active)⟩

/-- A runner without alarms. -/
theorem Runner.trapped_never (alarm : Exit) (fuel : Nat) (active : List Moment) :
    trapped (fun _ _ => false) alarm fuel active = ofFuel fuel := by
  induction fuel generalizing active with
  | zero => rfl
  | succ fuel ih =>
    rw [ofFuel_succ]
    simp only [trapped, ih]
    rfl

/-- Whether a step was cancelled. -/
def Result.isCancelled {σ α : Type} : EStateM.Result Exit σ α → Bool
  | .error .cancelled _ => true
  | _ => false

/-- **A condition that is checked by a run** that is cancelled where the condition may fail: if it
is not, the condition holds throughout. -/
theorem Throughout.of_check {α : Type} {act : Runner → Eval α} {st : State} {fuel : Nat}
    {condition : List Moment → Moment → Prop} (setting : Setting)
    (bad : List Moment → Moment → Bool)
    (hbad : ∀ active m, ¬ bad active m → condition active m)
    (hact : ∀ r r' : Runner, (Accord.yielding setting).Agree .always r r' →
      (∃ st', act r st = .error .cancelled st') ∨ act r' st = act r st)
    (hrun : Result.isCancelled (act (Runner.trapped bad .cancelled fuel []) st) = false) :
    Throughout fuel act st condition := by
  classical
  intro alarm
  have hsame (bad' : List Moment → Moment → Bool) (hle : ∀ active m, bad' active m → bad active m) :
      act (Runner.trapped bad' alarm fuel []) st
        = act (Runner.trapped bad .cancelled fuel []) st := by
    rcases hact _ _ (Accord.agree_yielding hle fuel []) with ⟨st', hst'⟩ | h
    · rw [hst'] at hrun
      cases hrun
    · exact h
  have hplain := hsame (fun _ _ => false) fun _ _ hm => absurd hm Bool.false_ne_true
  rw [Runner.trapped_never] at hplain
  refine Eq.trans (hsame _ fun active m hm => ?_) hplain.symm
  cases hcheck : bad active m with
  | true => rfl
  | false => exact absurd (hbad active m (by simp [hcheck])) (of_decide_eq_true hm)

end Yielding

end SceneLang
