import SceneLang.Proofs.Throughout

/-!
# Imports leave no trace in their context

* `import_restores_context`: a statement ends, for whatever reason, with the source and the file of
  the scope that it started with, and with the files that were being imported then.  While it runs
  the files that are being imported grow above those of every task that is still running, and none
  of them is there twice.

The files that are being imported form one stack for the whole run.  An import puts its file on top
and in the end takes off what is on top, without looking at it.  That this is its own file is due to
what runs in between: everything that runs leaves the stack as it was (`World.Grows.importing`), and
this is shown of all parts of a run at once, with imports as one of the ways to enter and leave
(`World.Grows.leaveFile`, `Detour.frame`).

What holds in between is an invariant for each list of active tasks (`stacking`), and a task that
starts passes from the invariant of the tasks around it to that with the task itself on top.
-/

namespace SceneLang

/-! ### Stacks of files -/

/-- **The files that are being imported at a moment**: none of them twice, and below them those of
every active task when it started. -/
def Moment.StacksFiles (active : List Moment) (m : Moment) : Prop :=
  m.state.world.importing.Nodup ∧
    ∀ t ∈ active, t.state.world.importing <:+ m.state.world.importing

/-- Parts of a run that start above the files of the active tasks. -/
def stacking (active : List Moment) : Invariant where
  Holds _ _ st := st.world.importing.Nodup ∧
    ∀ t ∈ active, t.state.world.importing <:+ st.world.importing
  expression h := h
  frame h hframe := by rwa [hframe.world.importing]
  enter h _ := h
  turn h := h
  source _ h := h
  -- a script is run only if its file is not on the stack
  file h hplace := ⟨List.nodup_cons.mpr ⟨hplace, h.1⟩, fun t ht => (h.2 t ht).trans
    (List.suffix_cons _ _)⟩

/-- A task that starts above the active ones is itself active for its parts. -/
theorem stacking_cons {effect : Effect} {active : List Moment} {env : Env} {st : State}
    (h : (stacking active).Holds effect env st) (task : Task) (isOver : Bool) :
    (stacking (⟨task, env, st, isOver⟩ :: active)).Holds effect env st := by
  refine ⟨h.1, fun t ht => ?_⟩
  rcases List.mem_cons.mp ht with rfl | ht
  · exact List.suffix_rfl
  · exact h.2 t ht

section Alarms

variable {setting : Setting} {alarm : Exit}

open Classical in
/-- An alarm where the files are not stacked is not heard where a task starts or ends. -/
theorem Accord.Holds.trap_stacked {α : Type} {effect : Effect} {blame : Blame}
    {active : List Moment} {task : Task} {env : Env} {st : State}
    {res : EStateM.Result Exit State α} {act : Eval α}
    (h : (Accord.same setting).Holds effect blame st res (act st))
    (hI : (stacking active).Holds effect env st) :
    (Accord.same setting).Holds effect blame st res
      (SceneLang.trap (fun m => decide (¬ m.StacksFiles active)) alarm task env act st) := by
  rw [trap_eq]
  · exact h
  · rw [decide_eq_true_eq, Classical.not_not]
    exact hI
  · rw [decide_eq_true_eq, Classical.not_not]
    exact (stacking active).frame hI h.frame'

open Classical in
theorem agree_stacked (setting : Setting) (alarm : Exit) (fuel : Nat) (active : List Moment) :
    (Accord.same setting).Agree (stacking active) (Runner.ofFuel fuel)
      (Runner.trapped (fun active m => decide (¬ m.StacksFiles active)) alarm fuel active) := by
  -- for all lists of active tasks: the parts of a task run with the task itself on top of the list
  induction fuel generalizing active with
  | zero =>
    have h := (Accord.same setting).agree_ofFuel (stacking active) 0
    exact ⟨rfl,
      fun outer e st hI => (h.expression outer e st hI).trap_stacked hI,
      fun outer s st hI => (h.statement outer s st hI).trap_stacked hI,
      fun outer symbol st hI hs => (h.build outer symbol st hI hs).trap_stacked hI,
      fun outer block st hI ht => (h.body outer block st hI ht).trap_stacked hI⟩
  | succ fuel ih =>
    rw [Runner.ofFuel_succ]
    refine ⟨rfl, fun outer e st hI => ?_, fun outer s st hI => ?_,
      fun outer symbol st hI hs => ?_, fun outer block st hI ht => ?_⟩
    · have hstart := stacking_cons hI (.expression e) false
      exact ((ih _).next.expression outer e st hstart).trap_stacked hI
    · have hstart := stacking_cons hI (.statement s) false
      exact ((ih _).next.statement outer s st hstart).trap_stacked hI
    · have hstart := stacking_cons hI (.build symbol) false
      exact ((ih _).next.build outer symbol st hstart hs).trap_stacked hI
    · have hstart := stacking_cons hI (.body block) false
      exact ((ih _).next.body outer block st hstart ht).trap_stacked hI

end Alarms

/-! ### Statements and programs -/

/-- **Imports restore their context and never nest on themselves.**  Whatever the end of a
statement, the scope has the source and the file that it had, and the files that are being imported
are those that were.  At every moment of its run, and of the run of any program, the files that are
being imported stand above those of all tasks that are still running, and no file is there twice;
when the program is over, no file is being imported. -/
theorem import_restores_context (fuel : Nat) (env : Env) (s : Statement) (st : State) :
    let after := Result.state (runStatement fuel env s st)
    after.scope.source = st.scope.source ∧
    after.scope.file = st.scope.file ∧
    after.world.importing = st.world.importing ∧
    (st.world.importing.Nodup →
      Throughout fuel (fun r => r.statement env s) st fun active m => m.StacksFiles active) ∧
    ∀ (setting : Setting) (p : Program),
      (p.final fuel setting).world.importing = [] ∧
      Throughout fuel (fun r => r.program { setting } p) p.start fun active m =>
        m.StacksFiles active := by
  obtain ⟨setting, outer⟩ := env
  have hframe : Frame .statement st
      (Result.state (runStatement fuel ⟨setting, outer⟩ s st)) :=
    (((Accord.same setting).agree_ofFuel .always fuel).statement outer s st trivial).frame
  have hscope : st.scope.Extends _ := hframe.scope
  refine ⟨hscope.source, hscope.file, hframe.world.importing, fun hnodup alarm => ?_,
    fun setting p => ⟨?_, fun alarm => ?_⟩⟩
  · have hstart : (stacking []).Holds .statement ⟨setting, outer⟩ st :=
      ⟨hnodup, fun t ht => absurd ht List.not_mem_nil⟩
    exact ((agree_stacked setting alarm fuel []).statement outer s st hstart).rel
  · have hstart : Invariant.always.Holds .statement ⟨setting, []⟩ p.start := trivial
    have hrun := ((Accord.same setting).agree_ofFuel .always fuel).program p hstart
    exact hrun.frame.world.importing
  · have hstart : (stacking []).Holds .statement ⟨setting, []⟩ p.start :=
      ⟨List.nodup_nil, fun t ht => absurd ht List.not_mem_nil⟩
    exact ((agree_stacked setting alarm fuel []).program p hstart).rel

namespace Uroboros

/-- The file of the script. -/
def place : FilePath := ⟨"/", ["a.shape"]⟩

/-- The import of that file. -/
def statement : Statement := .importFile ⟨0, 16⟩ (.string ⟨7, 16⟩ "a.shape")

/-- A script that imports its own file. -/
def script : Program where
  source := "import \"a.shape\""
  statements := [statement]

/-- The import fails while the file is being imported; the scope has its file and source as before,
and no file is being imported any more. -/
theorem import_restores_context_failed :
    let env : Env := { setting := .ofScript place script }
    let st : State := { scope := { source := "", file := none }, world := {} }
    st.world.importing.Nodup ∧
    (∃ range st', runStatement 4 env statement st = .error (.raise (.importedFileError (.evaluation
        (.assertionFailure "Circular import of 'a.shape'") (some range)) "a.shape" script.source)
        ⟨7, 16⟩) st' ∧ st'.scope.source = "" ∧ st'.scope.file = none ∧ st'.world.importing = []) ∧
    Throughout 4 (fun r => r.statement env statement) st fun active m => m.StacksFiles active := by
  intro env st
  have hnodup : st.world.importing.Nodup := List.nodup_nil
  obtain ⟨hsource, hfile, hstack, hstacks, -⟩ := import_restores_context 4 env statement st
  have hfails : ∃ range st', runStatement 4 env statement st = .error (.raise
      (.importedFileError (.evaluation (.assertionFailure "Circular import of 'a.shape'")
        (some range)) "a.shape" script.source) ⟨7, 16⟩) st' := ⟨⟨7, 16⟩, _, rfl⟩
  obtain ⟨range, st', hrun⟩ := hfails
  rw [hrun] at hsource hfile hstack
  exact ⟨hnodup, ⟨range, st', hrun, hsource, hfile, hstack⟩, hstacks hnodup⟩

end Uroboros

end SceneLang
