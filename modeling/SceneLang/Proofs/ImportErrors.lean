import SceneLang.Proofs.Throughout
import SceneLang.Proofs.Definitions

/-!
# The files that errors name

An error in another file is wrapped, with the name and the source of that file: by an import, and by
the call of a block that was defined in another file than the one that the scope of the caller
names.  So a wrapper puts the error down to a file, and if the error has a place, this should be one
of the program in that file (`Setting.NamesFile`).

Scopes do not always name the file whose text is running: the body of a block runs in a scope that
names the file of the scope *around* it, which after an import is the importer's.  A block that
calls another one from there may go without a wrapper that it needs.  `blamed` is the file that
errors are put down to while given tasks are active.  As long as every block that is called stands
in the file that its errors are put down to (`Moment.CallsInFile`), all wrappers of an error name
the right file (`Program.wrappers_name_files`), for any nesting of imports and calls.  A block that
calls back into the file of its importer shows that this is not always so
(`Callback.wrapper_names_other_file`).
-/

namespace SceneLang

/-! ### Wrapped errors -/

/-- **An error as it is wrapped**, with the file that it is put down to. -/
structure Wrapper where
  error : ScriptError
  file : String
  source : String

mutual

/-- The wrappers in a cause, from the outermost on. -/
def ErrorCause.wrappers : ErrorCause → List Wrapper
  | .importedFileError error file source => ⟨error, file, source⟩ :: error.wrappers
  | _ => []

/-- **The wrappers in an error**, from the outermost on. -/
def ScriptError.wrappers : ScriptError → List Wrapper
  | .evaluation cause _ => cause.wrappers
  | _ => []

end

theorem ScriptError.wrappers_of_not_imported {e : ScriptError} (h : e.isImported = false) :
    e.wrappers = [] := by
  cases e with
  | evaluation cause range =>
    cases cause with
    | importedFileError => cases h
    | _ => simp only [wrappers, ErrorCause.wrappers]
  | _ => simp only [wrappers]

/-- A place does not change what is wrapped. -/
theorem ScriptError.wrappers_located (e : ScriptError) (r : SourceRange) :
    (e.located r).wrappers = e.wrappers := by
  cases e with
  | evaluation cause range => cases range <;> simp only [located, wrappers]
  | _ => rfl

/-- The script error that a step stopped with, if it did, is of a kind. -/
def Result.Errs {α : Type} (kind : ScriptError → Prop) (res : EStateM.Result Exit State α) : Prop :=
  ∀ e st, res = .error (.error e) st → kind e

namespace Result

variable {α β : Type} {kind kind' : ScriptError → Prop} {res : EStateM.Result Exit State α}

theorem errs_bind {x : Eval α} {f : α → Eval β} {st : State} (hx : Errs kind (x st))
    (hf : ∀ a st₁, x st = .ok a st₁ → Errs kind (f a st₁)) : Errs kind ((x >>= f) st) := by
  intro e st' he
  cases hres : x st with
  | ok a st₁ =>
    rw [Step.bind_ok f hres] at he
    exact hf a st₁ hres e st' he
  | error y st₁ =>
    rw [Step.bind_error f hres] at he
    injection he with hy
    exact hx e st₁ (by rw [hres, hy])

theorem Errs.settle (h : Errs kind res) (f : State → State) : Errs kind (Result.settle f res) := by
  intro e st he
  cases res with
  | ok a st₁ => cases he
  | error y st₁ =>
    injection he with hy
    exact h e st₁ (by rw [hy])

theorem Errs.located {r : SourceRange} (h : Errs kind res)
    (hkind : ∀ e, kind e → kind' (e.located r)) : Errs kind' (mapExit (Exit.located r) res) := by
  intro e st he
  cases res with
  | ok a st₁ => cases he
  | error y st₁ =>
    cases y with
    | error e₀ => cases he; exact hkind e₀ (h e₀ _ rfl)
    | _ => cases he

theorem Errs.inFile {file source : String} (h : Errs kind res)
    (hkind : ∀ e, kind e → kind' (.evaluation (.importedFileError e file source) none)) :
    Errs kind' (mapExit (Runner.inFile file source) res) := by
  intro e st he
  cases res with
  | ok a st₁ => cases he
  | error y st₁ =>
    cases y with
    | error e₀ => cases he; exact hkind e₀ (h e₀ _ rfl)
    | _ => cases he

end Result

/-! ### Files and their programs -/

/-- **The places that errors of a program can point at**: its ranges and those derived from them. -/
inductive Program.Points (p : Program) : SourceRange → Prop
  | own {t : Task} {r : SourceRange} : p.Contains t → r ∈ t.ranges → p.Points r
  | upperBound {r : SourceRange} : p.Points r → p.Points r.upperBound
  | through {r r' : SourceRange} : p.Points r → p.Points r' → p.Points (r.through r')

/-- The name of a file in an error; the main program has none. -/
def fileName (file : Option FilePath) : String := (file.map FilePath.name).getD ""

/-- **The program in a file**, with the text that it was read from.  Without a file it is the main
program. -/
def Setting.InFile (setting : Setting) (main : Program) (file : Option FilePath) (text : String)
    (p : Program) : Prop :=
  match file with
  | none => text = main.source ∧ p = main
  | some place => setting.ScriptAt place text p

/-- There is one program in a file. -/
theorem Setting.InFile.unique {setting : Setting} {main : Program} {file : Option FilePath}
    {text text' : String} {p p' : Program} (h : setting.InFile main file text p)
    (h' : setting.InFile main file text' p') : text = text' ∧ p = p' := by
  cases file with
  | none => exact ⟨h.1.trans h'.1.symm, h.2.trans h'.2.symm⟩
  | some place => exact Setting.ScriptAt.unique h h'

/-- A place of the program in a file. -/
def Setting.PointsInto (setting : Setting) (main : Program) (file : Option FilePath)
    (r : SourceRange) : Prop :=
  ∃ text p, setting.InFile main file text p ∧ p.Points r

/-- **A wrapper that names the right file**: the error has no place, or it is one of the program in
the file that the wrapper names and gives the source of, or the text of the file could not be read
as a program and this is what was wrong with it. -/
def Setting.NamesFile (setting : Setting) (main : Program) (w : Wrapper) : Prop :=
  ∀ r, w.error.range = some r →
    (∃ file text p, setting.InFile main file text p ∧ w.file = fileName file ∧
      (w.source = text ∨ w.source = p.source) ∧ p.Points r) ∨
    ∃ host place parse, setting.host = some host ∧ host.readText place = .ok w.source ∧
      w.file = place.name ∧ setting.parse = some parse ∧ parse w.source = .error (.error w.error)

/-- **A setting that fails plainly**: errors in geometry have no place in a script, and nothing but
a run wraps errors. -/
structure Setting.FailsPlainly (setting : Setting) : Prop where
  geometry : ∀ host place e, setting.host = some host → host.importNode place = .error (.error e) →
    e.range = none ∧ e.isImported = false
  parse : ∀ parse text e, setting.parse = some parse → parse text = .error (.error e) →
    e.isImported = false

/-! ### The file that errors are put down to -/

/-- **The file that errors are put down to** while tasks are active, the innermost first, and files
are being imported: the innermost one that is imported or whose block is called from elsewhere. -/
def blamed : List Moment → List FilePath → Option FilePath
  | [], files => files.head?
  | m :: active, files =>
    if m.state.world.importing.length < files.length then files.head?
    else
      match m.task with
      | .build (.closure c) =>
        if m.state.scope.file = c.file then blamed active m.state.world.importing else c.file
      | _ => blamed active m.state.world.importing

/-- **A block that is called stands in the file that its errors are put down to.** -/
def Moment.CallsInFile (setting : Setting) (main : Program) (active : List Moment) (m : Moment) :
    Prop :=
  ∀ c, m.task = .build (.closure c) → m.isOver = false →
    ∃ text p, setting.InFile main (blamed (m :: active) m.state.world.importing) text p ∧
      ∀ s ∈ c.body.statements, p.Contains (.statement s)

/-- The files that are imported where the innermost of the active tasks stands. -/
def importedBy : List Moment → List FilePath
  | [] => []
  | m :: _ => m.state.world.importing

/-- Errors of a file that is imported further in are put down to it. -/
theorem blamed_cons {active : List Moment} {files : List FilePath} (place : FilePath)
    (h : (importedBy active).length ≤ files.length) :
    blamed active (place :: files) = some place := by
  cases active with
  | nil => rfl
  | cons m active => exact if_pos (Nat.lt_succ_of_le h)

/-- Tasks other than the call of a block do not change what errors are put down to. -/
theorem blamed_task {task : Task} (htask : ∀ c, task ≠ .build (.closure c)) (env : Env) (st : State)
    (isOver : Bool) (active : List Moment) :
    blamed (⟨task, env, st, isOver⟩ :: active) st.world.importing
      = blamed active st.world.importing := by
  rw [blamed, if_neg (Nat.lt_irrefl _)]
  split
  · exact absurd ‹_› (htask _)
  · rfl

/-! ### The law of wrappers -/

/-- The source that a scope or a block has is that of the program in its file. -/
def Setting.NamesSource (setting : Setting) (main : Program) (file : Option FilePath)
    (source : String) : Prop :=
  ∃ text p, setting.InFile main file text p ∧ source = p.source

/-- **An error of the text in a file**: it points into the file, and its wrappers name the right
files. -/
structure Setting.Credits (setting : Setting) (main : Program) (file : Option FilePath)
    (e : ScriptError) : Prop where
  within : ∀ r, e.range = some r → setting.PointsInto main file r
  wrappers : ∀ w ∈ e.wrappers, setting.NamesFile main w

section Crediting

variable {setting : Setting} {main : Program}

theorem Setting.Credits.of_plain {file : Option FilePath} {e : ScriptError}
    (himported : e.isImported = false)
    (hrange : ∀ r, e.range = some r → setting.PointsInto main file r) :
    setting.Credits main file e :=
  ⟨hrange, by rw [ScriptError.wrappers_of_not_imported himported]; exact nofun⟩

theorem Setting.Credits.located {file : Option FilePath} {e : ScriptError} {r : SourceRange}
    (h : setting.Credits main file e) (hr : setting.PointsInto main file r) :
    setting.Credits main file (e.located r) := by
  refine ⟨fun r' hr' => ?_, ?_⟩
  · cases e with
    | evaluation cause range =>
      cases range with
      | none => cases hr'; exact hr
      | some range => exact h.within r' hr'
    | _ => exact h.within r' hr'
  · rw [ScriptError.wrappers_located]
    exact h.wrappers

/-- Wrapping an error of the text in a file. -/
theorem Setting.Credits.inFile {file file' : Option FilePath} {e : ScriptError} {source : String}
    (h : setting.Credits main file e)
    (hsource : ∀ text p, setting.InFile main file text p → source = text ∨ source = p.source) :
    setting.Credits main file'
      (.evaluation (.importedFileError e (fileName file) source) none) := by
  refine ⟨nofun, fun w hw => ?_⟩
  simp only [ScriptError.wrappers, ErrorCause.wrappers, List.mem_cons] at hw
  rcases hw with rfl | hw
  · intro r hr
    obtain ⟨text, p, hp, hpoints⟩ := h.within r hr
    exact .inl ⟨file, text, p, hp, rfl, hsource text p hp, hpoints⟩
  · exact h.wrappers w hw

/-- The scopes of a stack and the blocks that have a name there tell the sources of their files. -/
structure Setting.Tells (setting : Setting) (main : Program) (stack : List Scope) : Prop where
  scopes : ∀ s ∈ stack, setting.NamesSource main s.file s.source
  blocks : Knows (fun _ c => setting.NamesSource main c.file c.source) stack

theorem Entrance.source {outer : List Scope} {s inner : Scope} (h : Entrance outer s inner) :
    inner.source = s.source ∧ inner.file = s.file := by
  cases h with
  | block h => exact ⟨h.extends.source, h.extends.file⟩
  | call block => exact ⟨rfl, rfl⟩
  | definition => exact ⟨rfl, rfl⟩

namespace Setting.Tells

variable {s inner : Scope} {outer : List Scope}

theorem congr (h : setting.Tells main (s :: outer)) (hsource : inner.source = s.source)
    (hfile : inner.file = s.file) (hdefinitions : inner.definitions = s.definitions)
    (hcaller : inner.callerDefinitions = s.callerDefinitions) :
    setting.Tells main (inner :: outer) := by
  obtain ⟨hs, houter⟩ := List.forall_mem_cons.mp h.scopes
  refine ⟨List.forall_mem_cons.mpr ⟨?_, houter⟩, h.blocks.congr hdefinitions hcaller⟩
  rw [hsource, hfile]
  exact hs

/-- A further scope that tells the source of its file. -/
theorem cons (h : setting.Tells main outer) (hs : setting.NamesSource main s.file s.source)
    (hblocks : Knows (fun _ c => setting.NamesSource main c.file c.source) (s :: outer)) :
    setting.Tells main (s :: outer) :=
  ⟨List.forall_mem_cons.mpr ⟨hs, h.scopes⟩, hblocks⟩

end Setting.Tells

/-- **Errors point into the file that they are put down to**, while tasks are active, and their
wrappers name the right files. -/
def crediting (hplain : setting.FailsPlainly) (main : Program) (active : List Moment) :
    Law setting Unit where
  Writes files t := ∃ text p, setting.InFile main (blamed active files) text p ∧ p.Contains t
  part := by
    rintro files t t' ⟨text, p, hp, hcontains⟩ ht
    exact ⟨text, p, hp, hcontains.part ht⟩
  Points files r := setting.PointsInto main (blamed active files) r
  own := by
    rintro files t r ⟨text, p, hp, hcontains⟩ hr
    exact ⟨text, p, hp, .own hcontains hr⟩
  upperBound := by
    rintro files r ⟨text, p, hp, hr⟩
    exact ⟨text, p, hp, .upperBound hr⟩
  through := by
    rintro files r r' ⟨text, p, hp, hr⟩ ⟨text', p', hp', hr'⟩
    obtain ⟨-, rfl⟩ := hp.unique hp'
    exact ⟨text, p, hp, .through hr hr'⟩
  Holds _ outer files st := (importedBy active).length ≤ files.length ∧
    setting.Tells main (st.scope :: outer) ∧ st.world.importing = files
  importing_eq h := h.2.2
  expression h := h
  keep h hframe hdefinitions := by
    obtain ⟨hle, htells, hfiles⟩ := h
    have hextends := hframe.scope.extends
    exact ⟨hle, htells.congr hextends.source hextends.file hdefinitions
      hextends.callerDefinitions, hframe.world.importing.trans hfiles⟩
  define name h hmade _ := by
    obtain ⟨hle, htells, hfiles⟩ := h
    have hscope := htells.scopes _ List.mem_cons_self
    refine ⟨hle, ⟨List.forall_mem_cons.mpr ⟨hscope, (List.forall_mem_cons.mp htells.scopes).2⟩,
      htells.blocks.define name ?_⟩, hfiles⟩
    rintro c rfl
    cases hmade
    exact hscope
  enter h hs := by
    obtain ⟨hle, htells, hfiles⟩ := h
    refine ⟨hle, htells.cons ?_ (htells.blocks.enter (fun _ _ => id) hs), hfiles⟩
    rw [hs.source.1, hs.source.2]
    exact htells.scopes _ List.mem_cons_self
  turn {_ _ st} h := by
    obtain ⟨hle, htells, hfiles⟩ := h
    have hscope := htells.scopes st.scope List.mem_cons_self
    exact ⟨hle, htells.cons hscope (htells.blocks.turn (fun _ _ => id) _), hfiles⟩
  script {_ _ _ place text p} h _ hscript := by
    obtain ⟨hle, htells, hfiles⟩ := h
    refine ⟨⟨Nat.le_succ_of_le hle, ⟨?_, htells.blocks.congr rfl rfl⟩, congrArg _ hfiles⟩,
      fun s hs => ?_⟩
    · exact List.forall_mem_cons.mpr
        ⟨⟨text, p, hscript, rfl⟩, (List.forall_mem_cons.mp htells.scopes).2⟩
    · rw [blamed_cons place hle]
      exact ⟨text, p, hscript, s, hs, .refl _⟩
  resume {_ _ st _ _} h h' hframe := by
    obtain ⟨hle, htells, hfiles⟩ := h
    refine ⟨hle, ⟨?_, h'.2.1.blocks.congr rfl rfl⟩, hframe.world.importing.trans hfiles⟩
    exact List.forall_mem_cons.mpr (List.forall_mem_cons.mp htells.scopes)
  setting _ := setting
  similar _ := .refl setting
  Rel files _ _ F := (importedBy active).length ≤ files.length →
    Result.Errs (setting.Credits main (blamed active files)) (F ())
  mono h _ := h
  plain _ h := fun _ e st he => .of_plain (h _ st he).within.1 (h _ st he).within.2
  startTurn _ st := by
    intro _ e st' he
    dsimp only at he
    rw [Runner.startTurn_apply] at he
    split at he <;> cases he
  bind hx hf := fun hle =>
    Result.errs_bind (hx hle) fun a st₁ h => (hf a st₁ ⟨(), h⟩).2 hle
  locate hr h := fun hle => (h hle).located fun _ he => he.located hr
  settle _ h := fun hle => (h hle).settle _
  imported {_ _ _ place text p _} _ hscript h := by
    intro hle
    have hp : setting.InFile main (some place) text p := hscript
    refine (h (Nat.le_succ_of_le hle)).inFile fun e he => ?_
    rw [blamed_cons place hle] at he
    exact he.inFile fun text' p' hp' => .inl (hp.unique hp').1
  unreadable {_ host place parse text x} files st hhost hread hparse hx := by
    intro _ e st' he
    injection he with hy
    cases x with
    | error e₀ =>
      injection hy with he₀
      rw [← he₀]
      refine ⟨nofun, fun w hw => ?_⟩
      simp only [ScriptError.wrappers, ErrorCause.wrappers, List.mem_cons,
        ScriptError.wrappers_of_not_imported (hplain.parse parse text e₀ hparse hx),
        List.not_mem_nil, or_false] at hw
      rw [hw]
      exact fun r _ => .inr ⟨host, place, parse, hhost, hread, rfl, hparse, hx⟩
    | _ => cases hy
  geometry {_ host place x} files path st hhost hx := by
    intro _ e st' he
    injection he with hy
    have hproper : (Runner.geometryExit path place x).PointsIn fun _ => False := by
      cases x with
      | error e₀ =>
        obtain ⟨hrange, himported⟩ := hplain.geometry host place e₀ hhost hx
        unfold Runner.geometryExit
        split
        · exact ⟨rfl, nofun⟩
        · exact (Runner.proper_fileExit _ path place _).within
        · rename_i hcase
          exact ⟨himported, fun r hr => by rw [hrange] at hr; cases hr⟩
      | fault f => exact (Runner.proper_fileExit _ path place f).within
      | _ => trivial
    rw [hy] at hproper
    exact .of_plain hproper.1 fun r hr => (hproper.2 r hr).elim

/-! ### Runs under the law -/

variable {hplain : setting.FailsPlainly} {active : List Moment} {outer : List Scope}
  {files : List FilePath} {st : State} {bad : List Moment → Moment → Bool}

/-- A task that is stopped by an alarm has no script error. -/
theorem Law.Good.trap_cancelled {α : Type} {effect : Effect} {blame : Blame} {act : Eval α}
    (h : (crediting hplain main active).Good effect blame outer files st fun _ => act st)
    (hI : (crediting hplain main active).Holds effect outer files st) (bad : Moment → Bool)
    (task : Task) (env : Env) :
    (crediting hplain main active).Good effect blame outer files st fun _ =>
      trap bad .cancelled task env act st := by
  refine ⟨fun _ => frame_trap (h.frame ()), fun _ => ?_, fun hle e st' he => ?_⟩
  · obtain ⟨-, heq⟩ | ⟨-, heq | heq⟩ := trap_cases bad .cancelled task env act st
    · rw [heq]; exact hI
    · rw [heq]; exact h.holds ()
    · rw [heq]; exact h.holds ()
  · obtain ⟨-, heq⟩ | ⟨-, heq | heq⟩ := trap_cases bad .cancelled task env act st
    · rw [heq] at he; cases he
    · rw [heq] at he; exact h.rel hle e st' he
    · rw [heq] at he; cases he

/-- The law inside of a task that is no call is the law around it. -/
theorem Law.Good.outside {α : Type} {effect : Effect} {blame : Blame} (task : Task) (act : Eval α)
    (htask : ∀ c, task ≠ .build (.closure c))
    (h : (crediting hplain main (⟨task, ⟨setting, outer⟩, st, false⟩ :: active)).Good effect
      blame outer files st fun _ => act st)
    (hI : (crediting hplain main active).Holds effect outer files st) :
    (crediting hplain main active).Good effect blame outer files st fun _ =>
      trap (bad active) .cancelled task ⟨setting, outer⟩ act st := by
  obtain rfl := hI.2.2
  refine Law.Good.trap_cancelled ⟨h.frame, fun k => ⟨hI.1, (h.holds k).2⟩, fun _ => ?_⟩ hI _ _ _
  have hrel := h.rel (Nat.le_refl _)
  rwa [blamed_task htask ⟨setting, outer⟩] at hrel

/-- A task that starts where the law's condition holds is itself active for its parts. -/
theorem holds_inside {effect : Effect} (task : Task)
    (hI : (crediting hplain main active).Holds effect outer files st) :
    (crediting hplain main (⟨task, ⟨setting, outer⟩, st, false⟩ :: active)).Holds effect outer
      files st :=
  ⟨Nat.le_of_eq (congrArg List.length hI.2.2), hI.2⟩

/-- The body of a block runs in a scope that tells the source of its file. -/
theorem tells_bodyScope {c : Closure} {defining s : Scope} (h : setting.Tells main (s :: outer))
    (hlevel : Scope.atLevel? outer c.level = some defining) :
    setting.Tells main (Runner.bodyScope c defining s :: s :: outer) :=
  h.cons (h.scopes defining (List.mem_cons_of_mem s (Scope.mem_of_atLevel? hlevel)))
    (h.blocks.body (fun _ _ => id) c defining)

/-- A call of a block obeys the law, if its body does where it is put down to the right file. -/
theorem errs_callFromFile {r : Runner} {c : Closure} {file : Option FilePath}
    (hc : setting.NamesSource main c.file c.source)
    (hbody : ∀ defining, Scope.atLevel? outer c.level = some defining →
      Result.Errs (setting.Credits main (if st.scope.file = c.file then file else c.file))
        (r.body ⟨setting, st.scope :: outer⟩ c.body
          { st with scope := Runner.bodyScope c defining st.scope })) :
    Result.Errs (setting.Credits main file) (r.callFromFile ⟨setting, outer⟩ c st) := by
  have hcall : Result.Errs (setting.Credits main (if st.scope.file = c.file then file else c.file))
      (r.call ⟨setting, outer⟩ c st) := by
    cases hlevel : Scope.atLevel? outer c.level with
    | none =>
      rw [Runner.call_of_none hlevel]
      exact fun _ _ he => by cases he
    | some defining =>
      rcases Nat.lt_or_ge st.scope.depth Runner.deepestCall with hlt | hge
      · rw [Runner.call_of_body hlevel hlt]
        refine (Result.errs_bind (hbody defining hlevel) fun _ st₁ _ => ?_).settle _
        have hresult : Primitive (fun _ => False) .expression .unplaced
            (Eval.scope >>= fun s => Step.ofExcept (Runner.resultOf s)) :=
          .scope_bind fun s => .ofExcept _
        intro e st' he
        have hwithin := (hresult.exit st₁ _ st' he).within
        exact .of_plain hwithin.1 fun r hr => (hwithin.2 r hr).elim
      · rw [Runner.call_of_deep hlevel hge]
        intro e st' he
        cases he
        exact .of_plain rfl nofun
  rw [Runner.callFromFile_apply]
  by_cases hfile : st.scope.file = c.file
  · simpa only [hfile, if_true] using hcall
  · simp only [hfile, if_false] at hcall ⊢
    refine hcall.inFile fun e he => ?_
    obtain ⟨text, p, hp, hsource⟩ := hc
    exact he.inFile fun text' p' hp' => .inr (hsource.trans (by rw [(hp.unique hp').2]))

/-- What a symbol builds obeys the law, if the body of a block that is called does where it is put
down to the right file. -/
theorem errs_construct {r : Runner} {symbol : Symbol} {name : String}
    (hname : Scope.symbol? outer name = some symbol)
    (hI : (crediting hplain main active).Holds .expression outer files st)
    (hbody : ∀ c defining, symbol = .closure c → Scope.atLevel? outer c.level = some defining →
      Result.Errs (setting.Credits main
          (blamed (⟨.build symbol, ⟨setting, outer⟩, st, false⟩ :: active) files))
        (r.body ⟨setting, st.scope :: outer⟩ c.body
          { st with scope := Runner.bodyScope c defining st.scope })) :
    Result.Errs (setting.Credits main (blamed active files))
      (r.construct ⟨setting, outer⟩ symbol st) := by
  obtain ⟨-, htells, rfl⟩ := hI
  cases symbol with
  | closure c =>
    have hc : setting.NamesSource main c.file c.source := by
      cases outer with
      | nil => cases hname
      | cons s below => exact Knows.of_symbol? (fun _ _ => id) htells.blocks.2 hname
    refine errs_callFromFile hc fun defining hlevel => ?_
    have hcredits := hbody c defining rfl hlevel
    rw [blamed, if_neg (Nat.lt_irrefl _)] at hcredits
    exact hcredits
  | shape shape =>
    have hshape : Primitive (fun _ => False) .expression .unplaced (shape.build setting) :=
      primitive_build setting shape
    intro e st' he
    have hwithin := (hshape.exit st _ st' he).within
    exact .of_plain hwithin.1 fun r hr => (hwithin.2 r hr).elim
  | _ => exact fun _ _ he => by cases he

/-- A task without fuel obeys the law. -/
theorem Law.good_exhausted {α : Type} {effect : Effect} {blame : Blame}
    (hI : (crediting hplain main active).Holds effect outer files st) (bad : Moment → Bool)
    (task : Task) (env : Env) :
    (crediting hplain main active).Good effect blame outer files st fun _ =>
      trap bad .cancelled task env (throw .exhausted : Eval α) st := by
  have hthrow : (crediting hplain main active).Good effect blame outer files st fun _ =>
      (throw .exhausted : Eval α) st :=
    ⟨fun _ => Frame.refl effect st, fun _ => hI, fun _ _ _ he => by cases he⟩
  exact hthrow.trap_cancelled hI bad task env

/-- What is written around a task that is no call is written inside of it. -/
theorem writes_inside {t task : Task} (htask : ∀ c, task ≠ .build (.closure c))
    (hfiles : st.world.importing = files) (ht : (crediting hplain main active).Writes files t) :
    (crediting hplain main
      (⟨task, ⟨setting, outer⟩, st, false⟩ :: active)).Writes files t := by
  subst hfiles
  obtain ⟨text, p, hp, hcontains⟩ := ht
  rw [← blamed_task htask ⟨setting, outer⟩ st false] at hp
  exact ⟨text, p, hp, hcontains⟩

/-- **A runner with an alarm for calls that are put down to another file obeys the law**, and so do
the bodies that it runs. -/
theorem agree_crediting (hbad : ∀ active m, ¬ bad active m → m.CallsInFile setting main active)
    (fuel : Nat) (active : List Moment) :
    ((crediting hplain main active).Agree fun _ => Runner.trapped bad .cancelled fuel active) ∧
    ∀ outer files block st,
      (∀ s ∈ block.statements, (crediting hplain main active).Writes files (.statement s)) →
      (crediting hplain main active).Holds .statement outer files st →
      (crediting hplain main active).Good .statement .placed outer files st fun _ =>
        (Runner.trapped bad .cancelled fuel active).body ⟨setting, outer⟩ block st := by
  induction fuel generalizing active with
  | zero =>
    refine ⟨⟨fun {outer files e st} _ hI => ?_, fun {outer files s st} _ hI => ?_,
      fun {outer files symbol name st} _ _ hI => ?_⟩, fun outer files block st _ hI => ?_⟩
    · exact Law.good_exhausted hI (bad active) (.expression e) ⟨setting, outer⟩
    · exact Law.good_exhausted hI (bad active) (.statement s) ⟨setting, outer⟩
    · exact Law.good_exhausted (Regime.expression _ hI) (bad active) (.build symbol)
        ⟨setting, outer⟩
    · exact Law.good_exhausted hI (bad active) (.body block) ⟨setting, outer⟩
  | succ fuel ih =>
    -- each task is run with itself active, so it obeys the law for one more active task
    refine ⟨⟨fun {outer files e st} he hI => ?_, fun {outer files s st} hs hI => ?_,
      fun {outer files symbol name st} hname hs hI => ?_⟩, fun outer files block st hblock hI => ?_⟩
    · let inner := ⟨.expression e, ⟨setting, outer⟩, st, false⟩ :: active
      have hgood := (ih inner).1.evaluate (Law.owns_of_writes _ (writes_inside nofun hI.2.2 he))
        (holds_inside _ hI)
      exact Law.Good.outside (.expression e)
        ((Runner.trapped bad .cancelled fuel inner).evaluate ⟨setting, outer⟩ e) nofun hgood hI
    · let inner := ⟨.statement s, ⟨setting, outer⟩, st, false⟩ :: active
      have hgood := (ih inner).1.execute (Law.owns_of_writes _ (writes_inside nofun hI.2.2 hs))
        (fun _ _ _ _ _ _ _ _ range _ _ =>
          Law.loops_of_turns (fun _ => rfl) (fun _ _ _ _ _ he => by cases he) range)
        (holds_inside _ hI)
      exact Law.Good.outside (.statement s)
        ((Runner.trapped bad .cancelled fuel inner).execute ⟨setting, outer⟩ s) nofun hgood hI
    · have hI' := Regime.expression _ hI
      have hframe : Frame .expression st (Result.state
          ((Runner.trapped bad .cancelled (fuel + 1) active).build ⟨setting, outer⟩ symbol
            st)) :=
        ((Accord.agree_trapped setting bad .cancelled (fuel + 1) active).build outer symbol st
          trivial hs).frame'
      refine ⟨fun _ => hframe, fun _ => Regime.keep _ hI' hframe hframe.definitions, fun _ => ?_⟩
      let inner : List Moment := ⟨.build symbol, ⟨setting, outer⟩, st, false⟩ :: active
      intro e st' he
      -- an alarm is no script error, and without one the call is put down to the right file
      obtain ⟨-, heq⟩ | ⟨hstart, heq | heq⟩ := trap_cases (bad active) .cancelled (.build symbol)
        ⟨setting, outer⟩
        ((Runner.trapped bad .cancelled fuel inner).construct ⟨setting, outer⟩ symbol) st
      · cases heq.symm.trans he
      · refine errs_construct hname hI' (fun c defining hc hlevel => ?_) e st' (heq.symm.trans he)
        obtain ⟨text, p, hp, hcontains⟩ := hbad _ _ hstart c (congrArg Task.build hc) rfl
        obtain ⟨-, htells, rfl⟩ := hI
        exact ((ih inner).2 (st.scope :: outer) st.world.importing c.body
          { st with scope := Runner.bodyScope c defining st.scope }
          (fun s hs => ⟨text, p, hp, hcontains s hs⟩)
          ⟨Nat.le_refl _, tells_bodyScope htells hlevel, rfl⟩).rel (Nat.le_refl _)
      · cases heq.symm.trans he
    · let inner := ⟨.body block, ⟨setting, outer⟩, st, false⟩ :: active
      have hgood := (ih inner).1.bodyStatements
        (fun s hs => writes_inside nofun hI.2.2 (hblock s hs)) (holds_inside _ hI)
      exact Law.Good.outside (.body block)
        ((Runner.trapped bad .cancelled fuel inner).bodyStatements ⟨setting, outer⟩
          block.statements) nofun hgood hI

end Crediting

/-! ### Programs -/

open Classical in
/-- **Every wrapper of an error that ends a run names the file that the wrapped error points into**,
for any nesting of imports and calls, if each block that is called stands in the file that its
errors are put down to.  The error itself points into the program. -/
theorem Program.wrappers_name_files {fuel : Nat} {setting : Setting} {p : Program}
    (hplain : setting.FailsPlainly)
    (hcalls : Throughout fuel (fun r => r.program { setting } p) p.start
      (Moment.CallsInFile setting p))
    {e : ScriptError} (he : (p.run fuel setting).result = .error (.error e)) :
    (∀ r, e.range = some r → p.Points r) ∧ ∀ w ∈ e.wrappers, setting.NamesFile p w := by
  have hagree : (crediting hplain p []).Agree fun _ =>
      Runner.trapped (fun active m => decide (¬ m.CallsInFile setting p active)) .cancelled fuel
        [] :=
    (agree_crediting (fun _ _ h => by simpa using h) fuel []).1
  have hstart : (crediting hplain p []).Holds .statement [] [] p.start :=
    ⟨Nat.le_refl _, ⟨List.forall_mem_singleton.mpr ⟨p.source, p, ⟨rfl, rfl⟩, rfl⟩,
      ⟨Bindings.blocks_empty _, Bindings.blocks_empty _⟩, trivial⟩, rfl⟩
  have hwrites : ∀ s ∈ p.statements, (crediting hplain p []).Writes [] (.statement s) :=
    fun s hs => ⟨p.source, p, ⟨rfl, rfl⟩, s, hs, .refl _⟩
  have hrun : Result.Errs (setting.Credits p none)
      ((Runner.trapped (fun active m => decide (¬ m.CallsInFile setting p active)) .cancelled fuel
        [])
        |>.program { setting } p p.start) :=
    ((hagree.statements hwrites hstart).rel (Nat.le_refl _)).settle _
  have hcredits := hrun e _ ((hcalls .cancelled).trans (finish_eq_of_run he).2)
  refine ⟨fun r hr => ?_, hcredits.wrappers⟩
  obtain ⟨_, _, ⟨-, rfl⟩, hpoints⟩ := hcredits.within r hr
  exact hpoints

/-! ### A block of another file -/

namespace Callback

/-- The file of the script that is imported. -/
def place : FilePath := ⟨"/", ["lib.shape"]⟩

/-- The body of the block in that script. -/
def body : Block := .mk ⟨1011, 1018⟩ [.command ⟨1013, 1016⟩ ⟨⟨1013, 1016⟩, "bar"⟩ none]

/-- A script whose block calls one that its importer has to define. -/
def library : Program where
  source := "define foo \x7b bar \x7d"
  statements := [.define ⟨1000, 1018⟩ ⟨⟨1007, 1010⟩, "foo"⟩ (.block body)]

/-- The setting with that script alone. -/
def setting : Setting := .ofScript place library

/-- A program that calls the block of the script, and does not define the one that it calls. -/
def caller : Program where
  source := "import \"lib.shape\"\nfoo"
  statements := [
    .importFile ⟨0, 18⟩ (.string ⟨7, 18⟩ "lib.shape"),
    .command ⟨19, 22⟩ ⟨⟨19, 22⟩, "foo"⟩ none]

/-- A program that defines it, but not without a fault. -/
def definer : Program where
  source := "import \"lib.shape\"\ndefine bar \x7b qube \x7d\nfoo"
  statements := [
    .importFile ⟨0, 18⟩ (.string ⟨7, 18⟩ "lib.shape"),
    .define ⟨19, 38⟩ ⟨⟨26, 29⟩, "bar"⟩ (.block (.mk ⟨30, 38⟩ [
      .command ⟨32, 36⟩ ⟨⟨32, 36⟩, "qube"⟩ none])),
    .command ⟨39, 42⟩ ⟨⟨39, 42⟩, "foo"⟩ none]

theorem failsPlainly : setting.FailsPlainly where
  geometry := by rintro _ p e ⟨⟩; exact nofun
  parse := by
    rintro _ text e ⟨⟩
    dsimp only
    split <;> exact nofun

/-- Whether a call is not put down to the file of the script, or not that of its block. -/
def isAstray (active : List Moment) (m : Moment) : Bool :=
  match m.task with
  | .build (.closure c) =>
    match c.body with
    | .mk _ [.command range callee none] =>
      !decide (blamed (m :: active) m.state.world.importing = some place ∧ range = ⟨1013, 1016⟩ ∧
        callee = ⟨⟨1013, 1016⟩, "bar"⟩)
    | _ => true
  | _ => false

theorem callsInFile_of_not_astray {active : List Moment} {m : Moment} (h : ¬ isAstray active m) :
    m.CallsInFile setting caller active := by
  intro c hc _
  unfold isAstray at h
  rw [hc] at h
  dsimp only at h
  split at h
  · rename_i range callee hbody
    simp only [Bool.not_eq_true, Bool.not_eq_false', decide_eq_true_eq] at h
    obtain ⟨hfile, rfl, rfl⟩ := h
    rw [hfile]
    refine ⟨library.source, library, ⟨rfl, ⟨_, rfl, rfl⟩, _, rfl, rfl⟩, fun s hs => ?_⟩
    rw [hbody] at hs
    rw [List.mem_singleton.mp hs]
    exact ⟨_, List.mem_cons_self, .part List.mem_cons_self (.refl _)⟩
  · exact absurd rfl h

/-- No call goes astray. -/
theorem caller_throughout : Throughout 8 (fun r => r.program { setting } caller) caller.start
    (Moment.CallsInFile setting caller) := by
  exact .of_check setting isAstray (fun _ _ => callsInFile_of_not_astray)
    (fun _ _ h => (h.program caller trivial).rel) rfl

/-- The error of the block in the script is put down to the script. -/
theorem caller_wrappers_name_files : ∃ e, (caller.run 8 setting).result = .error (.error e) ∧
    setting.FailsPlainly ∧
    Throughout 8 (fun r => r.program { setting } caller) caller.start
      (Moment.CallsInFile setting caller) ∧
    e.wrappers.map (fun w => (w.error.range, w.file)) = [(some ⟨1013, 1016⟩, "lib.shape")] ∧
    ∀ w ∈ e.wrappers, setting.NamesFile caller w := by
  obtain ⟨names, hrun⟩ : ∃ names, (caller.run 8 setting).result = .error (.error (.evaluation
      (.importedFileError (.evaluation (.unknownSymbol "bar" names) (some ⟨1013, 1016⟩))
        "lib.shape" library.source) (some ⟨19, 22⟩))) := ⟨_, rfl⟩
  exact ⟨_, hrun, failsPlainly, caller_throughout, rfl,
    (Program.wrappers_name_files failsPlainly caller_throughout hrun).2⟩

/-- All places that errors of a program can point at are in bounds that its ranges are in. -/
theorem bounds_of_points {p : Program} {lower upper : Int} (depth : Nat)
    (h : p.everywhere (fun t => t.ranges.all fun r =>
      decide (lower ≤ r.start ∧ r.start ≤ upper ∧ lower ≤ r.stop ∧ r.stop ≤ upper)) depth)
    {r : SourceRange} (hr : p.Points r) :
    lower ≤ r.start ∧ r.start ≤ upper ∧ lower ≤ r.stop ∧ r.stop ≤ upper := by
  induction hr with
  | own ht hr => exact of_decide_eq_true (List.all_eq_true.mp (ht.of_everywhere depth h) _ hr)
  | upperBound _ ih => exact ⟨ih.2.2.1, ih.2.2.2, ih.2.2.1, ih.2.2.2⟩
  | through _ _ ih ih' => exact ⟨ih.1, ih.2.1, ih'.2.2.1, ih'.2.2.2⟩

theorem library_bounds {r : SourceRange} (hr : library.Points r) :
    1000 ≤ r.start ∧ r.start ≤ 1018 ∧ 1000 ≤ r.stop ∧ r.stop ≤ 1018 :=
  bounds_of_points 3 rfl hr

theorem definer_bounds {r : SourceRange} (hr : definer.Points r) :
    0 ≤ r.start ∧ r.start ≤ 42 ∧ 0 ≤ r.stop ∧ r.stop ≤ 42 :=
  bounds_of_points 3 rfl hr

/-- **A wrapper can name another file than the one that the error points into.**  The block of the
script calls one of the importer, from a scope that names the importer as its file, so the error in
the latter is put down to the script.  No range occurs in both files. -/
theorem wrapper_names_other_file :
    (∀ r, library.Points r → ¬ definer.Points r) ∧
    ∃ e, (definer.run 8 setting).result = .error (.error e) ∧
      ∃ w ∈ e.wrappers, w.error.range = some ⟨32, 36⟩ ∧ definer.Points ⟨32, 36⟩ ∧
        w.file = "lib.shape" ∧ w.source = library.source ∧ ¬ setting.NamesFile definer w := by
  refine ⟨fun r hlibrary hdefiner => ?_, ?_⟩
  · have := library_bounds hlibrary
    have := definer_bounds hdefiner
    omega
  · obtain ⟨names, hrun⟩ : ∃ names, (definer.run 8 setting).result = .error (.error (.evaluation
        (.importedFileError (.evaluation (.unknownSymbol "qube" names) (some ⟨32, 36⟩))
          "lib.shape" library.source) (some ⟨39, 42⟩))) := ⟨_, rfl⟩
    refine ⟨_, hrun, _, List.mem_cons_self, rfl, ?_, rfl, rfl, fun hnames => ?_⟩
    · exact .own ⟨_, List.mem_cons_of_mem _ List.mem_cons_self, .part List.mem_cons_self (.refl _)⟩
        List.mem_cons_self
    · rcases hnames ⟨32, 36⟩ rfl with ⟨file, text, p, hp, hfile, -, hpoints⟩ |
        ⟨_, _, parse, -, -, -, hparse, herror⟩
      · cases file with
        | none =>
          have hname : "lib.shape" = "" := hfile
          exact absurd hname (by decide)
        | some place =>
          rw [Setting.eq_of_scriptAt_ofScript hp] at hpoints
          exact absurd (library_bounds hpoints).1 (by decide)
      · cases hparse
        cases herror

end Callback

end SceneLang
