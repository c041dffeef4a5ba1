import SceneLang.Proofs.Accord

/-!
# Runs that are cancelled

The host is asked whether to go on whenever a turn of a loop starts.  Two runs of a program that
are cancelled at different times stay together until the host stops the first one; from there on
that one only unwinds, and what it has made so far is the beginning of what the other one makes
(`Parting`, `Program.cancelled_prefix`).
-/

namespace SceneLang

/-- **The setting whose host lets a given number of turns start** and then wants no more. -/
def Setting.stoppingAfter (setting : Setting) (n : Nat) : Setting :=
  { setting with isCancelled := fun asked => decide (n ≤ asked) }

/-- **A state that is behind another one**: the children and what the host heard are the beginning
of what they are in the other. -/
structure State.Behind (s s' : State) : Prop where
  children : s.scope.children.toList <+: s'.scope.children.toList
  notices : s.world.notices.toList <+: s'.world.notices.toList

namespace State.Behind

theorem trans {s₁ s₂ s₃ : State} (h : s₁.Behind s₂) (h' : s₂.Behind s₃) : s₁.Behind s₃ :=
  ⟨h.children.trans h'.children, h.notices.trans h'.notices⟩

theorem of_frame {s s' : State} (h : Frame .statement s s') : s.Behind s' := by
  obtain ⟨vs, hvs, -⟩ := h.scope.extends.children
  exact ⟨⟨vs, hvs.symm⟩, h.world.notices⟩

/-- A state that is behind stays so when a scope is left. -/
theorem settle {st st₀ s s' : State} {f : State → State} (h : s.Behind s') (hd : Detour st st₀ f) :
    (f s).Behind (f s') := by
  cases hd with
  | block scope => exact ⟨List.prefix_rfl, h.notices⟩
  | turn level => exact ⟨h.children, h.notices⟩
  | source text => exact ⟨h.children, h.notices⟩
  | file file => exact ⟨h.children, h.notices⟩

end State.Behind

/-- **How two runs part**: they do the same, with the host asked once for each turn and at most `n`
times in all, or the first one is stopped at the next time that the host is asked. -/
inductive Parting {α : Type} (n : Nat) (st : State) :
    EStateM.Result Exit State α → EStateM.Result Exit State α → Prop
  | together {res : EStateM.Result Exit State α} (hpolls : (Result.state res).world.polls ≤ n)
    (hturns : (Result.state res).world.polls + st.world.turns
      = (Result.state res).world.turns + st.world.polls) : Parting n st res res
  | parted {s : State} {res : EStateM.Result Exit State α} (hpolls : s.world.polls = n + 1)
    (hbehind : s.Behind (Result.state res)) : Parting n st (.error .cancelled s) res

namespace Parting

variable {α β : Type} {n : Nat} {st : State}

/-- Only how the counts compare where a run starts matters. -/
theorem of_turns {st₁ : State} {res res' : EStateM.Result Exit State α}
    (h : Parting n st₁ res res')
    (hst : st₁.world.polls + st.world.turns = st₁.world.turns + st.world.polls) :
    Parting n st res res' := by
  cases h with
  | together hpolls hturns => exact .together hpolls (by omega)
  | parted hpolls hbehind => exact .parted hpolls hbehind

/-- Steps that do not ask the host. -/
theorem of_polls_eq {res : EStateM.Result Exit State α} (hst : st.world.polls ≤ n)
    (hpolls : (Result.state res).world.polls = st.world.polls)
    (hturns : (Result.state res).world.turns = st.world.turns) : Parting n st res res :=
  .together (by omega) (by omega)

/-- **The start of a turn**: here the runs part. -/
theorem startTurn {left right : Setting} (hst : st.world.polls ≤ n)
    (hleft : ∀ k, left.isCancelled k = decide (n ≤ k))
    (hright : ∀ k < n, right.isCancelled k = false) :
    Parting n st (Runner.startTurn left st) (Runner.startTurn right st) := by
  rw [Runner.startTurn_apply, Runner.startTurn_apply, hleft]
  rcases Nat.lt_or_eq_of_le hst with hlt | heq
  · have hgo : ¬ decide (n ≤ st.world.polls) = true := by simpa using hlt
    have hgo' : ¬ right.isCancelled st.world.polls = true := by simp [hright _ hlt]
    rw [if_neg hgo, if_neg hgo']
    refine .together hlt ?_
    show st.world.polls + 1 + st.world.turns = st.world.turns + 1 + st.world.polls
    omega
  · have hstop : decide (n ≤ st.world.polls) = true := by simp [heq]
    rw [if_pos hstop]
    refine .parted (congrArg (· + 1) heq) ?_
    split <;> exact ⟨List.prefix_rfl, List.prefix_rfl⟩

/-- **Steps that follow each other.**  A run that was stopped makes nothing of what follows, and the
other one goes on. -/
theorem bind {x x' : Eval α} {f f' : α → Eval β} (hx : Parting n st (x st) (x' st))
    (hf : ∀ a st₁, x st = .ok a st₁ ∨ x' st = .ok a st₁ →
      Frame .statement st₁ (Result.state (f' a st₁)) ∧
        (st₁.world.polls ≤ n → Parting n st₁ (f a st₁) (f' a st₁))) :
    Parting n st ((x >>= f) st) ((x' >>= f') st) := by
  generalize hres : x st = res at hx
  generalize hres' : x' st = res' at hx
  cases hx with
  | together hpolls hturns =>
    cases res with
    | ok a st₁ =>
      rw [Step.bind_ok f hres, Step.bind_ok f' hres']
      exact ((hf a st₁ (.inl hres)).2 hpolls).of_turns hturns
    | error e st₁ =>
      rw [Step.bind_error f hres, Step.bind_error f' hres']
      exact .together hpolls hturns
  | parted hpolls hbehind =>
    rw [Step.bind_error f hres]
    refine .parted hpolls ?_
    cases res' with
    | ok a st₁ =>
      rw [Step.bind_ok f' hres']
      exact hbehind.trans (.of_frame (hf a st₁ (.inr hres')).1)
    | error e st₁ =>
      rw [Step.bind_error f' hres']
      exact hbehind

/-- **The way out**: neither a place nor a file makes an error of being cancelled. -/
theorem mapExit {f : Exit → Exit} {res res' : EStateM.Result Exit State α}
    (h : Parting n st res res') (hf : f .cancelled = .cancelled) :
    Parting n st (Result.mapExit f res) (Result.mapExit f res') := by
  cases h with
  | together hpolls hturns =>
    refine .together ?_ ?_
    · rwa [Result.state_mapExit]
    · rwa [Result.state_mapExit]
  | parted hpolls hbehind =>
    rw [Result.mapExit, hf]
    refine .parted hpolls ?_
    rwa [Result.state_mapExit]

/-- Leaving a scope. -/
theorem settle {st₀ : State} {f : State → State} {res res' : EStateM.Result Exit State α}
    (hd : Detour st st₀ f) (h : Parting n st₀ res res') :
    Parting n st (Result.settle f res) (Result.settle f res') := by
  have hpolls_eq (s : State) : (f s).world.polls = s.world.polls := by cases hd <;> rfl
  have hturns_eq (s : State) : (f s).world.turns = s.world.turns := by cases hd <;> rfl
  have hstart : st₀.world.polls = st.world.polls ∧ st₀.world.turns = st.world.turns := by
    cases hd <;> exact ⟨rfl, rfl⟩
  cases h with
  | together hpolls hturns =>
    refine .together ?_ ?_
    · rwa [Result.state_settle, hpolls_eq]
    · rwa [Result.state_settle, hpolls_eq, hturns_eq, ← hstart.1, ← hstart.2]
  | parted hpolls hbehind =>
    refine .parted ?_ ?_
    · rwa [hpolls_eq]
    · rw [Result.state_settle]
      exact hbehind.settle hd

end Parting

/-- Runs of which the first is cancelled earlier. -/
def Accord.parting {left right : Setting} (n : Nat) (hsimilar : left.Similar right)
    (hleft : ∀ k, left.isCancelled k = decide (n ≤ k))
    (hright : ∀ k < n, right.isCancelled k = false) : Accord left right where
  Rel _ st res res' := st.world.polls ≤ n → Parting n st res res'
  similar := hsimilar
  mono h _ := h
  plain h hst := .of_polls_eq hst h.polls h.turns
  startTurn _ hst := .startTurn hst hleft hright
  bind hx hf hst := (hx hst).bind hf
  locate _ h hst := (h hst).mapExit rfl
  inFile _ _ h hst := (h hst).mapExit rfl
  settle hd h hst := .settle hd (h (by cases hd <;> exact hst))
  geometry _ _ _ _ hst := .of_polls_eq hst rfl rfl
  parse _ _ _ hst := .of_polls_eq hst rfl rfl

namespace Program

variable {fuel : Nat} {setting : Setting} {p : Program}

/-- **The runs of a program part once.** -/
theorem finish_parting (fuel : Nat) (setting : Setting) (p : Program) {n m : Nat} (h : n ≤ m) :
    Parting n p.start (p.finish fuel (setting.stoppingAfter n))
      (p.finish fuel (setting.stoppingAfter m)) := by
  have hright (k : Nat) (hk : k < n) : (setting.stoppingAfter m).isCancelled k = false :=
    decide_eq_false (by omega)
  let A : Accord (setting.stoppingAfter n) (setting.stoppingAfter m) :=
    .parting n ⟨rfl, rfl⟩ (fun _ => rfl) hright
  have hstart : Invariant.always.Holds .statement ⟨setting.stoppingAfter n, []⟩ p.start :=
    trivial
  exact ((A.agree_ofFuel .always fuel).program p hstart).rel (Nat.zero_le n)

/-- A run that is cancelled gives a scene. -/
theorem run_of_cancelled {st : State} (h : p.finish fuel setting = .error .cancelled st) :
    (p.run fuel setting).result = .ok st.scope.scene := by
  unfold finish at h
  unfold run
  rw [h]

/-- The scene of a state that is behind is the beginning of the other one. -/
theorem scene_prefix {s s' : State} (h : s.Behind s') :
    s.scope.scene.children <+: s'.scope.scene.children :=
  h.children.filterMap Value.mesh?

/-- **Being cancelled earlier gives the beginning of what being cancelled later gives.**  Let the
host stop a run after `n` turns of loops and another one after `m`, not less.  An error of the
first is one of the second, the first scene begins the second, and so does what the host hears.  A
run is cancelled if the host was asked more than `n` times; then it gave a scene and did not ask
again.  In a run that is not, the host was asked once for each turn that was started. -/
theorem cancelled_prefix (fuel : Nat) (setting : Setting) (p : Program) {n m : Nat} (h : n ≤ m) :
    let early := p.run fuel (setting.stoppingAfter n)
    let late := p.run fuel (setting.stoppingAfter m)
    (∀ x, early.result = .error x → late.result = .error x) ∧
    (∀ scene scene', early.result = .ok scene → late.result = .ok scene' →
      scene.children <+: scene'.children) ∧
    early.world.notices.toList <+: late.world.notices.toList ∧
    (n < early.world.polls → (∃ scene, early.result = .ok scene) ∧ early.world.polls = n + 1) ∧
    (early.world.polls ≤ n → early.world.polls = early.world.turns) := by
  dsimp only
  have hpart := finish_parting fuel setting p h
  generalize hearly : p.finish fuel (setting.stoppingAfter n) = res at hpart
  generalize hlate : p.finish fuel (setting.stoppingAfter m) = res' at hpart
  cases hpart with
  | together hpolls hturns =>
    -- the first run was not cancelled, and the second one is the same
    rw [← run_eq_of_finish (hearly.trans hlate.symm)]
    have hworld : (p.run fuel (setting.stoppingAfter n)).world = (Result.state res).world := by
      rw [run_world, final, hearly]
    rw [hworld]
    refine ⟨fun x hx => hx, ?_, List.prefix_rfl, fun hlt => absurd hlt (by omega), fun _ => hturns⟩
    intro scene scene' hscene hscene'
    rw [hscene] at hscene'
    cases hscene'
    exact List.prefix_rfl
  | @parted s _ hpolls hbehind =>
    -- the first run was cancelled
    have hscene := run_of_cancelled hearly
    have hworld : (p.run fuel (setting.stoppingAfter n)).world = s.world := by
      rw [run_world, final, hearly, Result.state]
    have hworld' : (p.run fuel (setting.stoppingAfter m)).world = (Result.state res').world := by
      rw [run_world, final, hlate]
    rw [hscene, hworld, hworld']
    refine ⟨?_, ?_, hbehind.notices, fun _ => ⟨⟨_, rfl⟩, hpolls⟩, fun hle => absurd hle (by omega)⟩
    · intro x hx
      cases hx
    · intro scene scene' heq hscene'
      cases heq
      rw [scene_eq_of_run hscene', final, hlate]
      exact scene_prefix hbehind

/-- A program that prints something in each of three turns. -/
def chatter : Program where
  source := "for (1 2 3) \x7b print \"hi\" \x7d"
  statements := [
    .loop ⟨0, 26⟩ none
      (.tuple ⟨5, 10⟩ [.number ⟨5, 6⟩ 1, .number ⟨7, 8⟩ 2, .number ⟨9, 10⟩ 3])
      (.mk ⟨12, 26⟩ [
        .command ⟨14, 24⟩ ⟨⟨14, 19⟩, "print"⟩ (some (.string ⟨20, 24⟩ "hi"))])]

/-- Stopped after one turn, the host has heard one thing; stopped after two, it has heard that and
another one. -/
theorem chatter_cancelled_prefix :
    let setting : Setting := { host := some (Host.ofFiles ⟨"/", []⟩ {} none) }
    let early := chatter.run 4 (setting.stoppingAfter 1)
    let late := chatter.run 4 (setting.stoppingAfter 2)
    1 ≤ 2 ∧ early.world.notices.size = 1 ∧ late.world.notices.size = 2 ∧
      early.world.notices.toList <+: late.world.notices.toList ∧ early.world.polls = 1 + 1 := by
  intro setting early late
  have h := cancelled_prefix 4 setting chatter (show 1 ≤ 2 by decide)
  obtain ⟨_, _, hnotices, hcancelled, _⟩ := h
  exact ⟨by decide, rfl, rfl, hnotices, (hcancelled (by decide)).2⟩

end Program

end SceneLang
