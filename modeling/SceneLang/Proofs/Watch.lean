import SceneLang.Proofs.Throughout
import SceneLang.Proofs.Definitions

/-!
# Conditions that are kept throughout a run

What is known where a part of a run starts may depend on how many bodies of defined blocks are
active.  A `Watch` is a regime for each number of them, under which a condition on moments holds and
which a call hands on to the body of the block.  Then the condition holds throughout every run that
starts under it (`Watch.throughout`), because a run with an alarm where it fails does the same as
the run without (`Watch.agree`).

So a condition on tasks holds throughout a run if it holds of everything that is written in the
program and in the scripts that can be imported (`Program.throughout_of_writes`).
-/

namespace SceneLang

/-! ### Runs that do the same -/

/-- The law that two runs under a regime do the same. -/
def Regime.same {setting : Setting} (C : Regime setting) : Law setting Bool where
  toRegime := C
  setting _ := setting
  similar _ := .refl setting
  Rel _ _ _ F := F true = F false
  mono h _ := h
  plain _ _ := rfl
  startTurn _ _ := rfl
  bind {_ _ _ _ st x f} hx hf := by
    have hx' : x true st = x false st := hx
    show (x true >>= f true) st = (x false >>= f false) st
    cases hres : x false st with
    | ok a st₁ =>
      rw [Step.bind_ok (f false) hres, Step.bind_ok (f true) (hx'.trans hres)]
      exact (hf a st₁ ⟨false, hres⟩).2
    | error e st₁ => rw [Step.bind_error (f false) hres, Step.bind_error (f true) (hx'.trans hres)]
  locate _ h := congrArg _ h
  settle _ h := congrArg _ h
  imported _ _ h := congrArg _ h
  unreadable _ _ _ _ _ _ := rfl
  geometry _ _ _ _ _ := rfl

/-- **What a regime says of a moment.** -/
def Regime.At {setting : Setting} (C : Regime setting) (outer : List Scope)
    (files : List FilePath) (st : State) : Task → Prop
  | .expression e => C.Writes files (.expression e) ∧ C.Holds .expression outer files st
  | .statement s => C.Writes files (.statement s) ∧ C.Holds .statement outer files st
  | .build symbol => (∃ name, Scope.symbol? outer name = some symbol) ∧
    C.Holds .expression outer files st
  | .body block => (∀ s ∈ block.statements, C.Writes files (.statement s)) ∧
    C.Holds .statement outer files st

/-! ### Watches -/

/-- Whether a task is the body of a defined block. -/
def Task.isBody : Task → Bool
  | .body _ => true
  | _ => false

/-- **The number of bodies of defined blocks** among tasks. -/
def bodies (ms : List Moment) : Nat := ms.countP fun m => m.task.isBody

theorem bodies_cons_body (block : Block) (env : Env) (st : State) (isOver : Bool)
    (ms : List Moment) : bodies (⟨.body block, env, st, isOver⟩ :: ms) = bodies ms + 1 :=
  List.countP_cons_of_pos rfl

/-- **A regime for each number of active bodies**, under which a condition on moments holds. -/
structure Watch (setting : Setting) (condition : List Moment → Moment → Prop) where
  regime : Nat → Regime setting
  at_moment {active : List Moment} {task : Task} {outer : List Scope} {files : List FilePath}
    {st : State} (isOver : Bool) :
    (regime (bodies (⟨task, ⟨setting, outer⟩, st, isOver⟩ :: active))).At outer files st
      task → condition active ⟨task, ⟨setting, outer⟩, st, isOver⟩
  call {k : Nat} {outer : List Scope} {files : List FilePath} {st : State} {name : String}
    {c : Closure} {defining : Scope} : Scope.symbol? outer name = some (.closure c) →
    Scope.atLevel? outer c.level = some defining → st.scope.depth < Runner.deepestCall →
    (regime k).Holds .statement outer files st →
    (regime (k + 1)).At (st.scope :: outer) files
      { st with scope := Runner.bodyScope c defining st.scope } (.body c.body)

namespace Watch

variable {setting : Setting} {condition : List Moment → Moment → Prop}
  {active : List Moment} {outer : List Scope} {files : List FilePath} {st : State}

open Classical in
/-- The runner without alarms and the one with an alarm where the condition fails. -/
noncomputable def runners (condition : List Moment → Moment → Prop) (alarm : Exit) (fuel : Nat)
    (active : List Moment) (k : Bool) : Runner :=
  bif k then Runner.trapped (fun active m => decide (¬ condition active m)) alarm fuel active
  else Runner.ofFuel fuel

open Classical in
/-- An alarm where the condition fails is not heard at a task that keeps it. -/
theorem trap_eq_of_at (W : Watch setting condition) {α : Type} {task : Task} {act : Eval α}
    (alarm : Exit)
    (hstart : (W.regime (bodies (⟨task, ⟨setting, outer⟩, st, false⟩ :: active))).At outer
      files st task)
    (hend : (W.regime (bodies (⟨task, ⟨setting, outer⟩, st, true⟩ :: active))).At outer
      files (Result.state (act st)) task) :
    trap (fun m => decide (¬ condition active m)) alarm task ⟨setting, outer⟩ act st
      = act st := by
  refine trap_eq ?_ ?_
  · rw [decide_eq_true_eq, Classical.not_not]
    exact W.at_moment false hstart
  · rw [decide_eq_true_eq, Classical.not_not]
    exact W.at_moment true hend

/-- The frames of the runs with and without alarms. -/
theorem frame_build (condition : List Moment → Moment → Prop) (alarm : Exit) (fuel : Nat)
    (active : List Moment) (env : Env) {symbol : Symbol} (hs : st.scope.Suits symbol) (k : Bool) :
    Frame .expression st
      (Result.state ((runners condition alarm fuel active k).build env symbol st)) := by
  obtain ⟨setting, outer⟩ := env
  have hframes (bad : List Moment → Moment → Bool) :=
    (Accord.agree_trapped setting bad alarm fuel active).build outer symbol st trivial hs
  cases k with
  | false => exact (hframes fun _ _ => false).frame
  | true => exact (hframes _).frame'

/-- A call does the same with and without alarms, if the body does. -/
theorem construct_eq {r r' : Runner} (W : Watch setting condition) {k : Nat} {symbol : Symbol}
    {name : String} (hname : Scope.symbol? outer name = some symbol)
    (hI : (W.regime k).Holds .statement outer files st)
    (hbody : ∀ outer files block st, (W.regime (k + 1)).At outer files st (.body block) →
      r'.body ⟨setting, outer⟩ block st = r.body ⟨setting, outer⟩ block st) :
    r'.construct ⟨setting, outer⟩ symbol st
      = r.construct ⟨setting, outer⟩ symbol st := by
  cases symbol with
  | closure c =>
    have hcall : r'.call ⟨setting, outer⟩ c st = r.call ⟨setting, outer⟩ c st := by
      cases hlevel : Scope.atLevel? outer c.level with
      | none => rw [Runner.call_of_none hlevel, Runner.call_of_none hlevel]
      | some defining =>
        rcases Nat.lt_or_ge st.scope.depth Runner.deepestCall with hlt | hge
        · rw [Runner.call_of_body hlevel hlt, Runner.call_of_body hlevel hlt]
          have hrun := hbody _ files _ _ (W.call hname hlevel hlt hI)
          cases hres : r.body ⟨setting, st.scope :: outer⟩ c.body
              { st with scope := Runner.bodyScope c defining st.scope } with
          | ok a st₁ => rw [Step.bind_ok _ hres, Step.bind_ok _ (hrun.trans hres)]
          | error e st₁ => rw [Step.bind_error _ hres, Step.bind_error _ (hrun.trans hres)]
        · rw [Runner.call_of_deep hlevel hge, Runner.call_of_deep hlevel hge]
    show r'.callFromFile ⟨setting, outer⟩ c st = r.callFromFile ⟨setting, outer⟩ c st
    rw [Runner.callFromFile_apply, Runner.callFromFile_apply, hcall]
  | _ => rfl

/-- **A run with alarms where the condition fails does the same as the run without.** -/
theorem agree (W : Watch setting condition) (alarm : Exit) (fuel : Nat) (active : List Moment) :
    (W.regime (bodies active)).same.Agree (runners condition alarm fuel active) ∧
    ∀ outer files block st, (W.regime (bodies active + 1)).At outer files st (.body block) →
      (runners condition alarm fuel active true).body ⟨setting, outer⟩ block st
        = (runners condition alarm fuel active false).body ⟨setting, outer⟩ block st := by
  induction fuel generalizing active with
  | zero =>
    have hexhausted {α : Type} {effect : Effect} {blame : Blame} {outer : List Scope}
        {files : List FilePath} {st : State}
        (hI : (W.regime (bodies active)).Holds effect outer files st)
        (F : Bool → EStateM.Result Exit State α)
        (hF : ∀ k, F k = .error .exhausted st) :
        (W.regime (bodies active)).same.Good effect blame outer files st F := by
      obtain rfl : F = fun _ => .error .exhausted st := funext hF
      exact ⟨fun _ => Frame.refl effect st, fun _ => hI, rfl⟩
    refine ⟨⟨fun he hI => hexhausted hI _ fun k => ?_, fun hs hI => hexhausted hI _ fun k => ?_,
      fun hname hs hI => hexhausted (Regime.expression _ hI) _ fun k => ?_⟩,
      fun outer files block st hbody => ?_⟩
    · cases k with
      | false => rfl
      | true => exact W.trap_eq_of_at alarm ⟨he, hI⟩ ⟨he, hI⟩
    · cases k with
      | false => rfl
      | true => exact W.trap_eq_of_at alarm ⟨hs, hI⟩ ⟨hs, hI⟩
    · have hat := Regime.expression _ hI
      cases k with
      | false => rfl
      | true => exact W.trap_eq_of_at alarm ⟨⟨_, hname⟩, hat⟩ ⟨⟨_, hname⟩, hat⟩
    · rw [← bodies_cons_body] at hbody
      exact W.trap_eq_of_at alarm hbody hbody
  | succ fuel ih =>
    have hturns (active : List Moment) (k : Bool) :
        (runners condition alarm fuel active k).turns = fuel := by
      cases k with
      | false => rfl
      | true => cases fuel <;> rfl
    refine ⟨⟨fun {outer files e st} he hI => ?_, fun {outer files s st} hs hI => ?_,
      fun {outer files symbol name st} hname hs hI => ?_⟩, fun outer files block st hbody => ?_⟩
    · have hgood := (ih (⟨.expression e, ⟨setting, outer⟩, st, false⟩ :: active)).1.evaluate
        (Law.owns_of_writes _ he) hI
      have heq : (fun k => (runners condition alarm (fuel + 1) active k).expression
          ⟨setting, outer⟩ e st) = fun k => (runners condition alarm fuel
            (⟨.expression e, ⟨setting, outer⟩, st, false⟩ :: active) k).evaluate
            ⟨setting, outer⟩ e st := by
        funext k
        cases k with
        | false => rfl
        | true => exact W.trap_eq_of_at alarm ⟨he, hI⟩ ⟨he, hgood.holds true⟩
      exact heq ▸ hgood
    · have hgood := (ih (⟨.statement s, ⟨setting, outer⟩, st, false⟩ :: active)).1.execute
        (Law.owns_of_writes _ hs)
        (fun _ _ _ _ _ _ _ _ range _ _ => Law.loops_of_turns (hturns _) (fun _ _ => rfl) range) hI
      have heq : (fun k => (runners condition alarm (fuel + 1) active k).statement
          ⟨setting, outer⟩ s st) = fun k => (runners condition alarm fuel
            (⟨.statement s, ⟨setting, outer⟩, st, false⟩ :: active) k).execute
            ⟨setting, outer⟩ s st := by
        funext k
        cases k with
        | false => rfl
        | true => exact W.trap_eq_of_at alarm ⟨hs, hI⟩ ⟨hs, hgood.holds true⟩
      exact heq ▸ hgood
    · have hat := (W.regime (bodies active)).expression hI
      have hframe := frame_build condition alarm (fuel + 1) active ⟨setting, outer⟩ hs
      have hkeep (k : Bool) :=
        (W.regime (bodies active)).keep hat (hframe k) (hframe k).definitions
      refine ⟨hframe, hkeep, ?_⟩
      have hbody := (ih (⟨.build symbol, ⟨setting, outer⟩, st, false⟩ :: active)).2
      have hsame := W.construct_eq hname hI hbody
      refine Eq.trans ?_ hsame
      exact W.trap_eq_of_at alarm ⟨⟨name, hname⟩, hat⟩ ⟨⟨name, hname⟩, hsame ▸ hkeep false⟩
    · rw [← bodies_cons_body block ⟨setting, outer⟩ st false active] at hbody
      have hrun := (ih (⟨.body block, ⟨setting, outer⟩, st, false⟩ :: active)).1
        |>.bodyStatements hbody.1 hbody.2
      exact (W.trap_eq_of_at alarm hbody ⟨hbody.1, hrun.holds true⟩).trans hrun.rel

/-- **A watch over a program**: a condition that holds under the regime of no active body holds
throughout every run of a program that starts under it. -/
theorem throughout (W : Watch setting condition) {p : Program} (fuel : Nat)
    (hwrites : ∀ s ∈ p.statements, (W.regime 0).Writes [] (.statement s))
    (hI : (W.regime 0).Holds .statement [] [] p.start) :
    Throughout fuel (fun r => r.program { setting } p) p.start condition := fun alarm =>
  congrArg (Result.settle _) ((W.agree alarm fuel []).1.statements hwrites hI).rel

end Watch

/-! ### What is written -/

/-- **A task that stands in a program or in a script that can be imported.** -/
def Setting.Writes (setting : Setting) (p : Program) (t : Task) : Prop :=
  p.Contains t ∨ ∃ place text q, setting.ScriptAt place text q ∧ q.Contains t

theorem Setting.Writes.part {setting : Setting} {p : Program} {t t' : Task}
    (h : setting.Writes p t) (ht : t' ∈ t.parts) : setting.Writes p t' :=
  h.imp (·.part ht) fun ⟨place, text, q, hq, hcontains⟩ => ⟨place, text, q, hq, hcontains.part ht⟩

/-- The text that a task runs: that of a body consists of its statements. -/
def Task.texts : Task → List Task
  | .build _ => []
  | .body block => block.statements.map .statement
  | t => [t]

/-- The blocks whose body is written in a program or in a script that can be imported. -/
def Setting.Defines (setting : Setting) (p : Program) (c : Closure) : Prop :=
  ∀ s ∈ c.body.statements, setting.Writes p (.statement s)

/-- What is known of every run of a program: it runs only what is written. -/
def Regime.writing (setting : Setting) (p : Program) : Regime setting where
  Writes _ t := setting.Writes p t
  part h ht := h.part ht
  Points _ _ := True
  own _ _ := trivial
  upperBound _ := trivial
  through _ _ := trivial
  Holds _ outer files st :=
    Knows (fun _ => setting.Defines p) (st.scope :: outer) ∧ st.world.importing = files
  importing_eq h := h.2
  expression h := h
  keep h hframe hdefinitions := ⟨h.1.congr hdefinitions hframe.scope.extends.callerDefinitions,
    hframe.world.importing.trans h.2⟩
  define name h _ hbody := ⟨h.1.define name hbody, h.2⟩
  enter h hs := ⟨h.1.enter (fun _ _ => id) hs, h.2⟩
  turn h := ⟨h.1.turn (fun _ _ => id) _, h.2⟩
  script h _ hscript := ⟨⟨h.1.congr rfl rfl, congrArg _ h.2⟩,
    fun s hs => .inr ⟨_, _, _, hscript, s, hs, .refl _⟩⟩
  resume h h' hframe := ⟨h'.1.congr rfl rfl, hframe.world.importing.trans h.2⟩

/-- **A run of a program runs only what is written** in the program and in the scripts that can be
imported, so what holds of all that holds throughout. -/
theorem Program.throughout_of_writes {setting : Setting} {p : Program}
    {condition : List Moment → Moment → Prop} (fuel : Nat)
    (h : ∀ active m, (∀ t ∈ m.task.texts, setting.Writes p t) → condition active m) :
    Throughout fuel (fun r => r.program { setting } p) p.start condition := by
  let W : Watch setting condition := {
    regime := fun _ => .writing setting p
    at_moment := by
      intro active task outer files st isOver hat
      refine h _ _ fun t ht => ?_
      cases task with
      | expression e => exact List.mem_singleton.mp ht ▸ hat.1
      | statement s => exact List.mem_singleton.mp ht ▸ hat.1
      | build symbol => exact absurd ht List.not_mem_nil
      | body block =>
        obtain ⟨s, hs, rfl⟩ := List.mem_map.mp ht
        exact hat.1 s hs
    call := by
      intro k outer files st name c defining hname _ _ hI
      have hknows : Knows (fun _ => setting.Defines p) (st.scope :: outer) := hI.1
      refine ⟨?_, hknows.body (fun _ _ => id) c defining, hI.2⟩
      cases outer with
      | nil => cases hname
      | cons s below => exact Knows.of_symbol? (fun _ _ => id) hknows.2 hname }
  refine W.throughout fuel (fun s hs => .inl ⟨s, hs, .refl _⟩) ?_
  exact ⟨⟨⟨Bindings.blocks_empty _, Bindings.blocks_empty _⟩, trivial⟩, rfl⟩

end SceneLang
