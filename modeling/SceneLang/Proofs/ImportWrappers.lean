import SceneLang.Error.Message
import SceneLang.Proofs.Watch

/-!
# One wrapper for each import

An error that is raised while files are being imported, with no body of a defined block active,
leaves the run wrapped once for each of these files, the file of the outermost import outside
(`Program.one_wrapper_per_import`).  A wrapper has the name of its file and the text that was read
from it.  The message names the innermost file only, and the hint is that of the error.

An error is raised where a task ends with it.  There is one case that tasks do not show: the text of
an imported file is refused after the file counts as being imported, and before any task of the file
starts (`Moment.Raises`).

The proof sets off an alarm where the error is raised and compares the run with the one without.
They do the same up to the alarm, and from there on the run without it can only pass the error on:
no part of a run goes on after an error of one of its parts.  So the law of the two runs is that
they do the same or that the second has the error, wrapped for each file that was left (`raising`).
In the body of a defined block no alarm is set off, and so calls need no rule of their own.
-/

namespace SceneLang

/-! ### Wrapped errors -/

/-- **An error wrapped for files**, the outermost first: each wrapper has the name and the text of
its file, and inside all of them is the error, which may have been given a place. -/
def Setting.Wrapped (setting : Setting) (e : ScriptError) : List FilePath → ScriptError → Prop
  | [], wrapped => wrapped = e ∨ ∃ r, wrapped = e.located r
  | place :: inner, wrapped => ∃ host text e' range, setting.host = some host ∧
    host.readText place = .ok text ∧
    wrapped = .evaluation (.importedFileError e' place.name text) range ∧
    setting.Wrapped e inner e'

namespace ScriptError

theorem located_located (e : ScriptError) (r r' : SourceRange) :
    (e.located r).located r' = e.located r := by
  cases e with
  | evaluation cause range => cases range <;> rfl
  | _ => rfl

theorem isImported_located (e : ScriptError) (r : SourceRange) :
    (e.located r).isImported = e.isImported := by
  cases e with
  | evaluation cause range =>
    cases range with
    | none => exact isImported_evaluation cause _ _
    | some range => rfl
  | _ => rfl

theorem message_located (e : ScriptError) (r : SourceRange) :
    (e.located r).message = e.message := by
  cases e with
  | evaluation cause range => cases range <;> rfl
  | _ => rfl

theorem hint_located (e : ScriptError) (r : SourceRange) : (e.located r).hint = e.hint := by
  cases e with
  | evaluation cause range => cases range <;> rfl
  | _ => rfl

/-- A wrapper names its file unless it wraps a wrapper. -/
theorem message_importedFileError (e : ScriptError) (file source : String)
    (range : Option SourceRange) :
    (evaluation (.importedFileError e file source) range).message
      = if e.isImported then e.message
        else s!"Error in imported file '{file}': " ++ e.message := rfl

theorem hint_importedFileError (e : ScriptError) (file source : String)
    (range : Option SourceRange) :
    (evaluation (.importedFileError e file source) range).hint = e.hint := rfl

end ScriptError

namespace Setting.Wrapped

variable {setting : Setting} {e wrapped : ScriptError} {files : List FilePath}

/-- A place does not change what is wrapped. -/
theorem located (h : setting.Wrapped e files wrapped) (r : SourceRange) :
    setting.Wrapped e files (wrapped.located r) := by
  cases files with
  | nil =>
    rcases h with rfl | ⟨r', rfl⟩
    · exact .inr ⟨r, rfl⟩
    · rw [ScriptError.located_located]
      exact .inr ⟨r', rfl⟩
  | cons place inner =>
    obtain ⟨host, text, e', range, hhost, hread, rfl, hinner⟩ := h
    cases range with
    | none => exact ⟨host, text, e', some r, hhost, hread, rfl, hinner⟩
    | some range => exact ⟨host, text, e', some range, hhost, hread, rfl, hinner⟩

/-- An error that is wrapped for a file is one of another file. -/
theorem isImported (h : setting.Wrapped e files wrapped) (hfiles : files ≠ []) :
    wrapped.isImported = true := by
  cases files with
  | nil => exact absurd rfl hfiles
  | cons place inner =>
    obtain ⟨host, text, e', range, -, -, rfl, -⟩ := h
    rfl

/-- **The hint of an error is kept.** -/
theorem hint_eq (h : setting.Wrapped e files wrapped) : wrapped.hint = e.hint := by
  induction files generalizing wrapped with
  | nil =>
    rcases h with rfl | ⟨r, rfl⟩
    · rfl
    · exact e.hint_located r
  | cons place inner ih =>
    obtain ⟨host, text, e', range, -, -, rfl, hinner⟩ := h
    rw [ScriptError.hint_importedFileError]
    exact ih hinner

/-- **The message names the innermost file** and goes on with that of the error. -/
theorem message_eq (h : setting.Wrapped e files wrapped) (himported : e.isImported = false)
    {place : FilePath} (hplace : files.getLast? = some place) :
    wrapped.message = s!"Error in imported file '{place.name}': " ++ e.message := by
  induction files generalizing wrapped with
  | nil => cases hplace
  | cons outer inner ih =>
    obtain ⟨host, text, e', range, -, -, rfl, hinner⟩ := h
    rw [ScriptError.message_importedFileError]
    cases inner with
    | nil =>
      have hkept : e'.isImported = false ∧ e'.message = e.message := by
        rcases hinner with rfl | ⟨r, rfl⟩
        · exact ⟨himported, rfl⟩
        · exact ⟨(e.isImported_located r).trans himported, e.message_located r⟩
      obtain rfl : outer = place := Option.some.inj hplace
      rw [hkept.1, hkept.2]
      rfl
    | cons next rest =>
      rw [hinner.isImported (List.cons_ne_nil next rest), if_pos rfl]
      exact ih hinner (by rwa [List.getLast?_cons_cons] at hplace)

end Setting.Wrapped

/-! ### Where errors are raised -/

/-- **A task ends with a script error**, with a given amount of fuel. -/
def Task.Fails (fuel : Nat) (env : Env) (st : State) (e : ScriptError) : Task → Prop
  | .expression x => ∃ st', runExpression fuel env x st = .error (.error e) st'
  | .statement s => ∃ st', runStatement fuel env s st = .error (.error e) st'
  | .build symbol => ∃ st', runBuild fuel env symbol st = .error (.error e) st'
  | .body block => ∃ st', runBody fuel env block st = .error (.error e) st'

/-- **A script file whose text is refused**, with the path that it is imported by. -/
structure Setting.Refuses (setting : Setting) (path : String) (place : FilePath)
    (e : ScriptError) : Prop where
  suffix : place.hasSuffix Runner.scriptSuffix
  read : ∃ host text parse, setting.host = some host ∧ host.resolve path = .ok place ∧
    host.readText place = .ok text ∧ setting.parse = some parse ∧
    parse text = .error (.error e)

/-- **A script error is raised** by the task that starts at a moment, while files are being
imported. -/
inductive Moment.Raises (fuel : Nat) (m : Moment) (e : ScriptError) : List FilePath → Prop
  /-- The task ends with the error. -/
  | task : m.task.Fails fuel m.env m.state e → m.Raises fuel e m.state.world.importing
  /-- The task is an import, and the text of the file is refused. -/
  | text {n : Nat} {range : SourceRange} {x : Expr} {path : String} {place : FilePath}
    {st₁ : State} : fuel = n + 1 → m.task = .statement (.importFile range x) →
    runExpression n m.env x m.state = .ok (.string (some path)) st₁ →
    place ∉ m.state.world.importing → m.env.setting.Refuses path place e →
    m.Raises fuel e (place :: m.state.world.importing)

/-- An import of a file whose text is refused ends with the error, wrapped for the file. -/
theorem runStatement_of_refused {n : Nat} {env : Env} {range : SourceRange} {x : Expr}
    {path : String} {place : FilePath} {e : ScriptError} {st st₁ : State}
    (hx : runExpression n env x st = .ok (.string (some path)) st₁)
    (hplace : place ∉ st.world.importing) (h : env.setting.Refuses path place e) :
    ∃ e' st', runStatement (n + 1) env (.importFile range x) st = .error (.error e') st' ∧
      env.setting.Wrapped e [place] e' := by
  obtain ⟨hsuffix, host, text, parse, hhost, hresolve, hread, hparse, hrefused⟩ := h
  have himport (st : State) (hplace : place ∉ st.world.importing) :
      ∃ st', (Runner.ofFuel n).importFile env path st
        = .error (.unplaced (.importedFileError e place.name text)) st' := by
    have hplaced : ∃ st', env.setting.resolve path st = .ok place st' ∧
        st'.world.importing = st.world.importing := by
      rw [Setting.resolve, hhost]
      dsimp only
      rw [hresolve]
      exact ⟨_, rfl, rfl⟩
    obtain ⟨st', hst', hfiles⟩ := hplaced
    refine ⟨st', ?_⟩
    rw [← hfiles] at hplace
    rw [Runner.importFile, Step.bind_ok _ hst', hhost]
    dsimp only
    rw [if_pos hsuffix, Runner.importScript_unreadable path st' hplace hparse hread hrefused]
    rfl
  -- the expression that gives the path leaves the files as they are
  have hfiles : st₁.world.importing = st.world.importing := by
    obtain ⟨setting, outer⟩ := env
    have hframe :=
      (((Accord.same setting).agree_ofFuel .always n).expression outer x st trivial).frame
    rw [show (Runner.ofFuel n).expression ⟨setting, outer⟩ x st = _ from hx] at hframe
    exact hframe.world.importing
  rw [← hfiles] at hplace
  obtain ⟨st', hst'⟩ := himport { st₁ with scope :=
    { st₁.scope with sourceIndex := some x.sourceRange.start } } hplace
  have hrun : runStatement (n + 1) env (.importFile range x) st
      = .error (.raise (.importedFileError e place.name text) x.sourceRange) st' := by
    rw [runStatement]
    refine (Step.bind_ok _ hx).trans ?_
    show Step.locate x.sourceRange ((Runner.ofFuel n).importFile env path) _ = _
    rw [Step.locate, Step.mapExit_apply, hst']
    rfl
  refine ⟨_, st', hrun, ?_⟩
  exact ⟨host, text, e, some x.sourceRange, hhost, hread, rfl, .inl rfl⟩

/-! ### The law of raised errors -/

section Raising

variable {setting : Setting} {e : ScriptError} {raised : List FilePath}

/-- **A result with an error that was raised** while files were imported: it is wrapped for each of
them that has been left. -/
def Result.Passes {α : Type} (setting : Setting) (e : ScriptError) (raised files : List FilePath)
    (res : EStateM.Result Exit State α) : Prop :=
  ∃ inner e' st, raised = inner ++ files ∧ res = .error (.error e') st ∧
    setting.Wrapped e inner.reverse e'

namespace Result.Passes

variable {α β : Type} {files : List FilePath} {res : EStateM.Result Exit State α}

/-- No step follows one that ends with an error. -/
theorem bind {x : Eval α} {st : State} (h : Passes setting e raised files (x st))
    (f : α → Eval β) : Passes setting e raised files ((x >>= f) st) := by
  obtain ⟨inner, e', st', hraised, hres, hwrapped⟩ := h
  exact ⟨inner, e', st', hraised, Step.bind_error f hres, hwrapped⟩

theorem located (h : Passes setting e raised files res) (r : SourceRange) :
    Passes setting e raised files (Result.mapExit (Exit.located r) res) := by
  obtain ⟨inner, e', st', hraised, rfl, hwrapped⟩ := h
  exact ⟨inner, e'.located r, st', hraised, rfl, hwrapped.located r⟩

theorem settle (h : Passes setting e raised files res) (f : State → State) :
    Passes setting e raised files (Result.settle f res) := by
  obtain ⟨inner, e', st', hraised, rfl, hwrapped⟩ := h
  exact ⟨inner, e', f st', hraised, rfl, hwrapped⟩

/-- **An import adds one wrapper**, with the text that was read from its file. -/
theorem inFile {place : FilePath} {host : Host} {text : String}
    (h : Passes setting e raised (place :: files) res) (hhost : setting.host = some host)
    (hread : host.readText place = .ok text) :
    Passes setting e raised files (Result.mapExit (Runner.inFile place.name text) res) := by
  obtain ⟨inner, e', st', hraised, rfl, hwrapped⟩ := h
  refine ⟨inner ++ [place], .evaluation (.importedFileError e' place.name text) none, st', ?_,
    rfl, ?_⟩
  · rw [hraised, List.append_assoc]
    rfl
  · rw [List.reverse_concat]
    exact ⟨host, text, e', none, hhost, hread, rfl, hwrapped⟩

end Result.Passes

/-- **Two runs do the same, or the second passes on the error that was raised.** -/
def raising (setting : Setting) (e : ScriptError) (raised : List FilePath) : Law setting Bool where
  Writes _ _ := True
  part _ _ := trivial
  Points _ _ := True
  own _ _ := trivial
  upperBound _ := trivial
  through _ _ := trivial
  Holds _ _ files st := st.world.importing = files
  importing_eq h := h
  expression h := h
  keep h hframe _ := hframe.world.importing.trans h
  define _ h _ _ := h
  enter h _ := h
  turn h := h
  script h _ _ := ⟨congrArg _ h, fun _ _ => trivial⟩
  resume h _ hframe := hframe.world.importing.trans h
  setting _ := setting
  similar _ := .refl setting
  Rel files _ _ F := F true = F false ∨ Result.Passes setting e raised files (F false)
  mono h _ := h
  plain _ _ := .inl rfl
  startTurn _ _ := .inl rfl
  bind {_ _ _ _ st x f} hx hf := by
    rcases hx with hsame | hpasses
    · cases hres : x false st with
      | ok a st₁ =>
        have hfalse := Step.bind_ok (f false) hres
        have htrue := Step.bind_ok (f true) (hsame.trans hres)
        rcases (hf a st₁ ⟨false, hres⟩).2 with hrest | hrest
        · exact .inl (htrue.trans (hrest.trans hfalse.symm))
        · refine .inr ?_
          show Result.Passes setting e raised _ ((x false >>= f false) st)
          rw [hfalse]
          exact hrest
      | error y st₁ =>
        exact .inl ((Step.bind_error (f true) (hsame.trans hres)).trans
          (Step.bind_error (f false) hres).symm)
    · exact .inr (hpasses.bind (f false))
  locate _ h := h.imp (congrArg _) fun h => h.located _
  settle _ h := h.imp (congrArg _) fun h => h.settle _
  imported _ hscript h := by
    obtain ⟨host, hhost, hread⟩ := hscript.read
    exact h.imp (congrArg _) fun h => h.inFile hhost hread
  unreadable _ _ _ _ _ _ := .inl rfl
  geometry _ _ _ _ _ := .inl rfl

/-- **The moments of a run of a given depth at which the error is raised**, with no body of a
defined block active. -/
def RaisedAt (total : Nat) (e : ScriptError) (raised : List FilePath) (active : List Moment)
    (m : Moment) : Prop :=
  m.isOver = false ∧ bodies (m :: active) = 0 ∧ m.Raises (total - active.length) e raised

/-- An error that is raised at a moment is passed on by the task that starts there. -/
theorem Moment.Raises.passes {fuel : Nat} {m : Moment} (h : m.Raises fuel e raised) :
    match m.task with
    | .expression x => Result.Passes m.env.setting e raised m.state.world.importing
        (runExpression fuel m.env x m.state)
    | .statement s => Result.Passes m.env.setting e raised m.state.world.importing
        (runStatement fuel m.env s m.state)
    | .build symbol => Result.Passes m.env.setting e raised m.state.world.importing
        (runBuild fuel m.env symbol m.state)
    | .body block => Result.Passes m.env.setting e raised m.state.world.importing
        (runBody fuel m.env block m.state) := by
  obtain ⟨task, env, st, isOver⟩ := m
  cases h with
  | task hfails =>
    cases task <;>
    · obtain ⟨st', hst'⟩ := hfails
      exact ⟨[], e, st', rfl, hst', .inl rfl⟩
  | text hfuel htask hx hplace hrefuses =>
    cases hfuel
    cases htask
    obtain ⟨e', st', hrun, hwrapped⟩ := runStatement_of_refused hx hplace hrefuses
    exact ⟨[_], e', st', rfl, hrun, hwrapped⟩

section Alarms

variable {total : Nat} {bad : List Moment → Moment → Bool} {alarm : Exit}

/-- **In the body of a defined block there is no alarm.** -/
theorem Runner.trapped_of_bodies
    (hbad : ∀ active m, bad active m → bodies (m :: active) = 0) (fuel : Nat)
    {active : List Moment} (hactive : 0 < bodies active) :
    trapped bad alarm fuel active = ofFuel fuel := by
  have hsilent (active : List Moment) (h : 0 < bodies active) (m : Moment) :
      bad active m = false := by
    have hle : bodies active ≤ bodies (m :: active) := (List.sublist_cons_self m active).countP_le
    cases hm : bad active m with
    | false => rfl
    | true => exact absurd (hbad active m hm) (by omega)
  have hnever : trapped bad alarm fuel active = trapped (fun _ _ => false) alarm fuel active := by
    induction fuel generalizing active with
    | zero => simp only [trapped, funext (hsilent active hactive)]
    | succ fuel ih =>
      have hcons (m : Moment) : trapped bad alarm fuel (m :: active)
          = trapped (fun _ _ => false) alarm fuel (m :: active) :=
        ih (Nat.lt_of_lt_of_le hactive (List.sublist_cons_self m active).countP_le)
      simp only [trapped, funext (hsilent active hactive), hcons]
  rw [hnever, trapped_never]

/-- So the body of a block is run as without alarms. -/
theorem Runner.trapped_body (hbad : ∀ active m, bad active m → bodies (m :: active) = 0)
    (fuel : Nat) (active : List Moment) :
    (trapped bad alarm fuel active).body = (ofFuel fuel).body := by
  have hsilent (env : Env) (block : Block) (st : State) (isOver : Bool) :
      ¬ bad active ⟨.body block, env, st, isOver⟩ := by
    intro h
    have hnone := hbad _ _ h
    rw [bodies_cons_body] at hnone
    exact absurd hnone (Nat.succ_ne_zero _)
  funext env block st
  cases fuel with
  | zero => exact trap_eq (hsilent env block st false) (hsilent env block _ true)
  | succ fuel =>
    have hinner : trapped bad alarm fuel (⟨.body block, env, st, false⟩ :: active) = ofFuel fuel :=
      trapped_of_bodies hbad fuel (by rw [bodies_cons_body]; exact Nat.succ_pos _)
    refine (trap_eq (hsilent env block st false) (hsilent env block _ true)).trans ?_
    rw [hinner, ofFuel_succ]
    rfl

/-- Of a runner, a call uses only what runs bodies. -/
theorem Runner.construct_congr {r r' : Runner} (h : r.body = r'.body) (env : Env)
    (symbol : Symbol) : r.construct env symbol = r'.construct env symbol := by
  cases symbol with
  | closure c => simp only [construct, callFromFile, call, h]
  | _ => rfl

/-- The runner with alarms where the error is raised, and the one without. -/
def raisedRunners (bad : List Moment → Moment → Bool) (alarm : Exit) (fuel : Nat)
    (active : List Moment) (k : Bool) : Runner :=
  bif k then Runner.trapped bad alarm fuel active else Runner.ofFuel fuel

/-- **An alarm where the error is raised**: the run without it passes the error on. -/
theorem Law.Good.trap_raised {α : Type} {effect : Effect} {blame : Blame} {outer : List Scope}
    {files : List FilePath} {fuel : Nat} {active : List Moment} {st : State} {task : Task}
    {act : Eval α} {F G : Bool → EStateM.Result Exit State α}
    (hfuel : active.length + fuel = total) (hfiles : st.world.importing = files)
    (hbad : ∀ active m, bad active m → RaisedAt total e raised active m)
    (hgood : (raising setting e raised).Good effect blame outer files st G)
    (hact : act st = G true) (hplain : F false = G false)
    (htrap : F true = trap (bad active) alarm task ⟨setting, outer⟩ act st)
    (hpasses : Moment.Raises fuel ⟨task, ⟨setting, outer⟩, st, false⟩ e raised →
      Result.Passes setting e raised st.world.importing (G false)) :
    (raising setting e raised).Good effect blame outer files st F := by
  have hframe (k : Bool) : Frame effect st (Result.state (F k)) := by
    cases k with
    | false => exact hplain ▸ hgood.frame false
    | true => exact htrap ▸ frame_trap (hact ▸ hgood.frame true)
  refine ⟨hframe, fun k => (hframe k).world.importing.trans hfiles, ?_⟩
  show F true = F false ∨ Result.Passes setting e raised files (F false)
  rw [hplain, ← hfiles]
  by_cases hstart : bad active ⟨task, ⟨setting, outer⟩, st, false⟩
  · have hraises := (hbad _ _ hstart).2.2
    have hleft : total - active.length = fuel := by omega
    rw [hleft] at hraises
    exact .inr (hpasses hraises)
  · have hend : ¬ bad active ⟨task, ⟨setting, outer⟩, Result.state (act st), true⟩ := by
      intro h
      cases (hbad _ _ h).1
    rw [htrap, trap_eq hstart hend, hact, hfiles]
    exact hgood.rel

/-- **Runners with and without alarms where the error is raised** do the same, or the second passes
the error on. -/
theorem agree_raising (hbad : ∀ active m, bad active m → RaisedAt total e raised active m)
    (fuel : Nat) (active : List Moment) (hfuel : active.length + fuel = total) :
    (raising setting e raised).Agree (raisedRunners bad alarm fuel active) := by
  have hbodies (active : List Moment) (m : Moment) (h : bad active m) : bodies (m :: active) = 0 :=
    (hbad active m h).2.1
  have hturns (active : List Moment) (fuel : Nat) (k : Bool) :
      (raisedRunners bad alarm fuel active k).turns = fuel := by
    cases k with
    | false => rfl
    | true => cases fuel <;> rfl
  induction fuel generalizing active with
  | zero =>
    have hexhausted {α : Type} {effect : Effect} {blame : Blame} {outer : List Scope}
        {files : List FilePath} {st : State} (hfiles : st.world.importing = files) :
        (raising setting e raised).Good effect blame outer files st fun _ =>
          (throw .exhausted : Eval α) st :=
      ⟨fun _ => Frame.refl effect st, fun _ => hfiles, .inl rfl⟩
    refine ⟨fun _ hI => ?_, fun _ hI => ?_, fun _ _ hI => ?_⟩
    · exact (hexhausted hI).trap_raised hfuel hI hbad rfl rfl rfl fun h => h.passes
    · exact (hexhausted hI).trap_raised hfuel hI hbad rfl rfl rfl fun h => h.passes
    · exact (hexhausted hI).trap_raised hfuel hI hbad rfl rfl rfl fun h => h.passes
  | succ fuel ih =>
    have hinner (m : Moment) : (raising setting e raised).Agree
        (raisedRunners bad alarm fuel (m :: active)) :=
      ih (m :: active) (by rw [List.length_cons]; omega)
    refine ⟨fun {outer files x st} hx hI => ?_, fun {outer files s st} hs hI => ?_,
      fun {outer files symbol name st} _ hs hI => ?_⟩
    · have hgood := (hinner ⟨.expression x, ⟨setting, outer⟩, st, false⟩).evaluate
        (Law.owns_of_writes _ hx) hI
      exact hgood.trap_raised hfuel hI hbad rfl rfl rfl fun h => h.passes
    · have hgood := (hinner ⟨.statement s, ⟨setting, outer⟩, st, false⟩).execute
        (Law.owns_of_writes _ hs)
        (fun _ _ _ _ _ _ _ _ range _ _ =>
          Law.loops_of_turns (hturns _ fuel) (fun _ _ => Or.inl rfl) range) hI
      exact hgood.trap_raised hfuel hI hbad rfl rfl rfl fun h => h.passes
    · -- the body runs without alarms, and so does the whole call
      let r := Runner.trapped bad alarm fuel (⟨.build symbol, ⟨setting, outer⟩, st, false⟩
        :: active)
      have hsame : r.construct ⟨setting, outer⟩ symbol
          = (Runner.ofFuel fuel).construct ⟨setting, outer⟩ symbol :=
        Runner.construct_congr (Runner.trapped_body hbodies fuel _) _ _
      have hframe : Frame .expression st
          (Result.state ((Runner.ofFuel fuel).construct ⟨setting, outer⟩ symbol st)) :=
        ((Accord.same setting).agree_ofFuel .always (fuel + 1)).build outer symbol st
          trivial hs |>.frame
      have hgood : (raising setting e raised).Good .expression .unplaced outer files st fun _ =>
          (Runner.ofFuel fuel).construct ⟨setting, outer⟩ symbol st :=
        ⟨fun _ => hframe, fun _ => hframe.world.importing.trans hI, .inl rfl⟩
      exact hgood.trap_raised hfuel hI hbad (congrFun hsame st) rfl rfl fun h => h.passes

end Alarms

end Raising

/-! ### Whole programs -/

open Classical in
/-- **A run of a program comes to a moment of some kind**: an alarm there is heard. -/
def Program.Comes (fuel : Nat) (setting : Setting) (p : Program)
    (kind : List Moment → Moment → Prop) : Prop :=
  ∃ alarm, (Runner.trapped (fun active m => decide (kind active m)) alarm fuel []).program
    { setting } p p.start ≠ p.finish fuel setting

/-- **One wrapper for each import.**  If a run comes to a moment at which a script error is raised
while files are being imported, with no body of a defined block active, then the run ends with that
error, wrapped once for each of these files, outermost first.  The hint is that of the error, and
the message is that of the error with the name of the innermost file in front of it. -/
theorem Program.one_wrapper_per_import (fuel : Nat) (setting : Setting) (p : Program)
    (e : ScriptError) (files : List FilePath)
    (h : p.Comes fuel setting (RaisedAt fuel e files)) :
    ∃ wrapped, (p.run fuel setting).result = .error (.error wrapped) ∧
      setting.Wrapped e files.reverse wrapped ∧ wrapped.hint = e.hint ∧
      ∀ place, files.head? = some place → e.isImported = false →
        wrapped.message = s!"Error in imported file '{place.name}': " ++ e.message := by
  classical
  obtain ⟨alarm, hheard⟩ := h
  have hagree : (raising setting e files).Agree
      (raisedRunners (fun active m => decide (RaisedAt fuel e files active m)) alarm fuel []) :=
    agree_raising (fun active m hm => of_decide_eq_true hm) fuel [] (Nat.zero_add fuel)
  have hwrites : ∀ s ∈ p.statements, (raising setting e files).Writes [] (.statement s) :=
    fun _ _ => trivial
  have hstart : (raising setting e files).Holds .statement [] [] p.start := rfl
  rcases (hagree.statements hwrites hstart).rel with hsame | hpasses
  · exact absurd (congrArg (Result.settle _) hsame) hheard
  · -- the source of the program is put back, and the error leaves the run
    have hfinish : Result.Passes setting e files [] (p.finish fuel setting) := hpasses.settle _
    obtain ⟨inner, wrapped, st, hfiles, hres, hwrapped⟩ := hfinish
    obtain rfl : files = inner := hfiles.trans (List.append_nil inner)
    refine ⟨wrapped, ?_, hwrapped, hwrapped.hint_eq, fun place hplace himported => ?_⟩
    · unfold run
      unfold finish at hres
      rw [hres]
    · exact hwrapped.message_eq himported (by rw [List.getLast?_reverse, hplace])

/-- A run comes to a moment of some kind if an alarm is heard that is set off only there. -/
theorem Program.comes_of_check {fuel : Nat} {setting : Setting} {p : Program}
    {kind : List Moment → Moment → Prop} (bad : List Moment → Moment → Bool)
    (hbad : ∀ active m, bad active m → kind active m)
    (hplain : Result.isCancelled (p.finish fuel setting) = false)
    (hheard : Result.isCancelled ((Runner.trapped bad .cancelled fuel []).program { setting } p
      p.start) = true) : p.Comes fuel setting kind := by
  classical
  refine ⟨.cancelled, fun hsame => ?_⟩
  have hagree : (Accord.yielding setting).Agree .always
      (Runner.trapped (fun active m => decide (kind active m)) .cancelled fuel [])
      (Runner.trapped bad .cancelled fuel []) :=
    Accord.agree_yielding (fun active m hm => decide_eq_true (hbad active m hm)) fuel []
  have hstart : Invariant.always.Holds .statement ⟨setting, []⟩ p.start := trivial
  rcases (hagree.program p hstart).rel with ⟨st, hst⟩ | heq
  · rw [← hsame, hst] at hplain
    cases hplain
  · rw [heq, hsame, hplain] at hheard
    cases hheard

/-! ### A script in a script -/

namespace Nested

/-- The file that is imported by the program. -/
def outer : FilePath := ⟨"/", ["outer.shape"]⟩

/-- The file that is imported by that file. -/
def inner : FilePath := ⟨"/", ["inner.shape"]⟩

/-- An option outside of a definition. -/
def option : Statement := .option ⟨0, 10⟩ ⟨⟨7, 8⟩, "a"⟩ (.number ⟨9, 10⟩ 1)

/-- The program in the inner file. -/
def innermost : Program := ⟨"option a 1", [option]⟩

/-- The program in the outer file. -/
def between : Program :=
  ⟨"import \"inner.shape\"", [.importFile ⟨0, 20⟩ (.string ⟨7, 20⟩ "inner.shape")]⟩

/-- The program that imports the outer file. -/
def program : Program :=
  ⟨"import \"outer.shape\"", [.importFile ⟨0, 20⟩ (.string ⟨7, 20⟩ "outer.shape")]⟩

/-- The two files. -/
def setting : Setting where
  host := some {
    resolve := fun path => .ok ⟨"/", [path]⟩
    importNode := fun _ => .ok none
    readText := fun file => .ok (if file = outer then between.source else innermost.source) }
  parse := some fun text => .ok (if text = between.source then between else innermost)

/-- The error of the option. -/
def error : ScriptError := .evaluation (.unknownSymbol "option" []) (some ⟨0, 10⟩)

/-- Whether the option starts at a moment, in both files. -/
def isOption (active : List Moment) (m : Moment) : Bool :=
  !m.isOver && bodies (m :: active) == 0 && m.state.world.importing == [inner, outer] &&
    active.length < 3 &&
    match m.task with
    | .statement (.option range _ _) => range == ⟨0, 10⟩
    | _ => false

theorem raisedAt_of_isOption (active : List Moment) (m : Moment) (h : isOption active m) :
    RaisedAt 3 error [inner, outer] active m := by
  obtain ⟨task, env, st, isOver⟩ := m
  simp only [isOption, Bool.and_eq_true, Bool.not_eq_true', beq_iff_eq, decide_eq_true_eq] at h
  obtain ⟨⟨⟨⟨hover, hbodies⟩, hfiles⟩, hdepth⟩, htask⟩ := h
  refine ⟨hover, hbodies, ?_⟩
  split at htask
  · rename_i range name default
    obtain rfl : range = ⟨0, 10⟩ := by simpa using htask
    -- with any fuel at all the option is an error, whatever the state
    obtain ⟨n, hn⟩ : ∃ n, 3 - active.length = n + 1 := ⟨2 - active.length, by omega⟩
    rw [hn, ← hfiles]
    exact .task ⟨st, rfl⟩
  · cases htask

/-- The error of the innermost file leaves the run in two wrappers. -/
theorem one_wrapper_per_import_nested :
    program.Comes 3 setting (RaisedAt 3 error [inner, outer]) ∧
    ∃ wrapped, (program.run 3 setting).result = .error (.error wrapped) ∧
      setting.Wrapped error [outer, inner] wrapped ∧
      wrapped.message = "Error in imported file 'inner.shape': " ++ error.message := by
  have hcomes : program.Comes 3 setting (RaisedAt 3 error [inner, outer]) :=
    Program.comes_of_check isOption raisedAt_of_isOption rfl rfl
  obtain ⟨wrapped, hrun, hwrapped, -, hmessage⟩ :=
    Program.one_wrapper_per_import 3 setting program error [inner, outer] hcomes
  exact ⟨hcomes, wrapped, hrun, hwrapped, hmessage inner rfl rfl⟩

end Nested

end SceneLang
