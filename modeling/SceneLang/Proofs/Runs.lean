import SceneLang.Proofs.Layers

/-!
# Statements under a law

If runners obey a law in the parts of a statement, then so do the functions that run one layer of
it: commands, loops, definitions and imports.  A loop over a range goes on for as many turns as its
runner allows, so it needs a rule of its own (`Law.Loops`), which holds whenever all runners allow
the same number of turns, if it is not against the law to run out of them (`Law.loops_of_turns`).
-/

namespace SceneLang

namespace Runner

/-! ### The start of a turn -/

/-- **A turn is started before its scope is entered.** -/
theorem turn_eq (r : Runner) (env : Env) (binder? : Option Identifier) (body : Block)
    (element : Value) :
    r.turn env binder? body element = startTurn env.setting >>= fun _ => Eval.scope >>= fun s =>
      env.inside (s.pushLoop env.level) Env.leaveLoop fun inner => (do
        if let some name := binder? then
          Eval.modifyScope fun s => s.define name.name (.constant element)
        r.statements inner body.statements) := by
  show (poll env.setting >>= fun _ => Eval.modifyWorld _ >>= fun _ => _)
    = (poll env.setting >>= fun _ => Eval.modifyWorld _) >>= fun _ => _
  exact (bind_assoc _ _ _).symm

/-- A turn starts unless the host has had enough. -/
theorem startTurn_apply (setting : Setting) (st : State) :
    startTurn setting st =
      if setting.isCancelled st.world.polls then
        .error .cancelled { st with world := { st.world with polls := st.world.polls + 1 } }
      else
        .ok () { st with world := { st.world with
          polls := st.world.polls + 1
          turns := st.world.turns + 1 } } := by
  show ((if setting.isCancelled st.world.polls then throw .cancelled else pure ()) >>= fun _ =>
      Eval.modifyWorld fun w => { w with turns := w.turns + 1 } : Eval Unit)
    { st with world := { st.world with polls := st.world.polls + 1 } } = _
  cases setting.isCancelled st.world.polls <;> rfl

theorem startTurn_frame (effect : Effect) (setting : Setting) (st : State) :
    Frame effect st (Result.state (startTurn setting st)) := by
  rw [startTurn_apply]
  split
  · exact .of_world effect st ⟨List.prefix_rfl, List.prefix_rfl, rfl⟩
  · exact .of_world effect st ⟨List.prefix_rfl, List.prefix_rfl, rfl⟩

/-! ### Files -/

/-- A file that cannot be used gives an error of the script, or a fault. -/
theorem proper_fileExit (points : SourceRange → Prop) (path : String) (place : FilePath)
    (f : Fault) : (fileExit path place f).Proper points .unplaced := by
  unfold fileExit
  split
  · exact .unplaced points rfl
  · exact .unplaced points rfl
  · exact .unplaced points rfl
  · split
    · exact .unplaced points rfl
    · exact .fault points .unplaced f

/-- A file that is being imported cannot be imported again. -/
theorem importScript_circular {r : Runner} {env : Env} {host : Host} {path : String}
    {place : FilePath} {st : State} (hplace : place ∈ st.world.importing) :
    r.importScript env host path place st
      = .error (.unplaced (.assertionFailure s!"Circular import of '{place.name}'")) st := by
  have hcontains : st.world.importing.contains place := by simpa using hplace
  show (if st.world.importing.contains place then _ else _ : Eval Unit) st = _
  rw [if_pos hcontains]
  rfl

/-- The import of a file that is not being imported. -/
theorem importScript_fresh {r : Runner} {env : Env} {host : Host} {path : String} {place : FilePath}
    {st : State} (hplace : place ∉ st.world.importing) :
    r.importScript env host path place st = (match env.setting.parse with
      | none => throw (.unplaced (.fileTypeMismatch path place none))
      | some parse => do
        let source ← Step.ofExit ((host.readText place).mapError (fileExit path place))
        let file := (← Eval.scope).file
        Eval.modifyWorld fun w => w.enterFile place
        Step.settle (leaveScript file) (Step.mapExit (inFile place.name source) do
          let p ← Step.ofExit (parse source)
          Eval.modifyScope fun s => { s with file := some place }
          r.program env p) : Eval Unit) st := by
  have hcontains : ¬ st.world.importing.contains place := by simpa using hplace
  show (if st.world.importing.contains place then _ else _ : Eval Unit) st = _
  exact congrFun (if_neg hcontains) st

/-- A script whose text cannot be read as a program. -/
theorem importScript_unreadable {r : Runner} {env : Env} {host : Host} {place : FilePath}
    {parse : String → Except Exit Program} {text : String} {x : Exit} (path : String) (st : State)
    (hplace : place ∉ st.world.importing) (hparse : env.setting.parse = some parse)
    (hread : host.readText place = .ok text) (hx : parse text = .error x) :
    r.importScript env host path place st = .error (inFile place.name text x) st := by
  rw [importScript_fresh hplace, hparse]
  simp only [hread]
  show Result.settle _ (Result.mapExit _ ((Step.ofExit (parse text) >>= fun p => _) _)) = _
  rw [hx]
  rfl

/-- A script that is read and run in place of its import. -/
theorem importScript_readable {r : Runner} {env : Env} {host : Host} {place : FilePath}
    {parse : String → Except Exit Program} {text : String} {p : Program} (path : String)
    (st : State) (hplace : place ∉ st.world.importing) (hparse : env.setting.parse = some parse)
    (hread : host.readText place = .ok text) (hp : parse text = .ok p) :
    r.importScript env host path place st
      = Result.settle (leaveScript st.scope.file)
          (Result.mapExit (inFile place.name text) (r.program env p (st.entering place))) := by
  rw [importScript_fresh hplace, hparse]
  simp only [hread]
  show Result.settle _ (Result.mapExit _ ((Step.ofExit (parse text) >>= fun p => _) _)) = _
  rw [hp]
  rfl

/-- **What an import of a script comes to**, when some files are being imported: it fails at once,
for a reason that does not depend on the scopes, or the file is not among them and its text is read
as a program, which is run. -/
theorem importScript_cases (setting : Setting) (host : Host) (path : String) (place : FilePath)
    (files : List FilePath) :
    (∃ x, ∀ (r : Runner) (outer : List Scope) (st : State), st.world.importing = files →
      r.importScript ⟨setting, outer⟩ host path place st = .error x st) ∨
    (place ∉ files ∧ ∃ text p, host.readText place = .ok text ∧
      (∃ parse, setting.parse = some parse ∧ parse text = .ok p) ∧
      ∀ (r : Runner) (outer : List Scope) (st : State), place ∉ st.world.importing →
        r.importScript ⟨setting, outer⟩ host path place st
          = Result.settle (leaveScript st.scope.file) (Result.mapExit (inFile place.name text)
              (r.program ⟨setting, outer⟩ p (st.entering place)))) := by
  -- up to the first statement of the script, the stack is all that is read of the state
  by_cases hplace : place ∈ files
  · refine .inl ⟨_, fun r outer st hfiles => importScript_circular ?_⟩
    exact hfiles ▸ hplace
  have hfresh {st : State} (hfiles : st.world.importing = files) :
      place ∉ st.world.importing := hfiles ▸ hplace
  cases hparse : setting.parse with
  | none =>
    refine .inl ⟨.unplaced (.fileTypeMismatch path place none), fun r outer st hfiles => ?_⟩
    rw [importScript_fresh (hfresh hfiles), hparse]
    rfl
  | some parse =>
    cases hread : host.readText place with
    | error f =>
      refine .inl ⟨fileExit path place f, fun r outer st hfiles => ?_⟩
      rw [importScript_fresh (hfresh hfiles), hparse, hread]
      rfl
    | ok text =>
      cases hp : parse text with
      | error x =>
        refine .inl ⟨inFile place.name text x, fun r outer st hfiles => ?_⟩
        exact importScript_unreadable path st (hfresh hfiles) hparse hread hp
      | ok p =>
        refine .inr ⟨hplace, text, p, rfl, ⟨parse, rfl, hp⟩, fun r outer st hst => ?_⟩
        exact importScript_readable path st hst hparse hread hp

/-- A script whose import succeeds has run to its end. -/
theorem importScript_eq_ok {r : Runner} {env : Env} {st st' : State} {host : Host} {path : String}
    {place : FilePath} (hhost : env.setting.host = some host)
    (hsuffix : place.hasSuffix scriptSuffix)
    (h : r.importScript env host path place st = .ok () st') :
    ∃ text p st₁, env.setting.ScriptAt place text p ∧
      r.statements env p.statements (st.importing place p) = .ok () st₁ ∧
      st.resuming st₁ = st' := by
  obtain ⟨setting, outer⟩ := env
  rcases importScript_cases setting host path place st.world.importing with
    ⟨x, hx⟩ | ⟨hplace, text, p, hread, hparsed, hrun⟩
  · cases (hx r outer st rfl).symm.trans h
  · rw [hrun r outer st hplace] at h
    obtain ⟨st₂, hfile, rfl⟩ := Result.settle_eq_ok_iff.mp h
    obtain ⟨st₁, hrun, rfl⟩ := Result.settle_eq_ok_iff.mp (Result.mapExit_eq_ok_iff.mp hfile)
    exact ⟨text, p, st₁, ⟨hsuffix, ⟨host, hhost, hread⟩, hparsed⟩, hrun, rfl⟩

/-! ### Definitions -/

/-- **What a definition makes of a name** is a constant, or a block that is defined here and whose
body is the text of the definition. -/
theorem definition_made {r : Runner} {env : Env} {d : Definition} {symbol : Symbol}
    {st st₁ : State} (h : r.definition env d st = .ok symbol st₁) :
    Made env.enclosing st₁.scope symbol ∧ ∀ c, symbol = .closure c →
      ∀ s ∈ c.body.statements, .statement s ∈ d.parts := by
  cases d with
  | expression e =>
    rw [definition, Eval.scope_bind] at h
    cases hv : env.inside (st.scope.pushDefinition env.level) Env.leaveBlock
        (fun inner => r.expression inner e) st with
    | error x st₂ => rw [Step.bind_error _ hv] at h; cases h
    | ok v st₂ =>
      rw [Step.bind_ok _ hv] at h
      cases h
      have hnone (v : Value) (c : Closure) : Symbol.constant v ≠ .closure c := by
        intro heq
        cases heq
      unfold constantOf
      split <;> exact ⟨.constant _, fun c hc => absurd hc (hnone _ c)⟩
  | block body =>
    rw [definition] at h
    cases hoptions : r.optionKinds env .empty body.statements st with
    | error x st₂ => rw [Step.bind_error _ hoptions] at h; cases h
    | ok options st₂ =>
      rw [Step.bind_ok _ hoptions] at h
      cases h
      refine ⟨.closure body options, ?_⟩
      rintro c ⟨⟩ s hs
      exact List.mem_map_of_mem hs

/-! ### Calls of defined blocks -/

section Calls

variable {r : Runner} {setting : Setting} {outer : List Scope} {files : List FilePath}
  {c : Closure} {defining : Scope} {st : State}

/-- A block cannot be called where its definition is gone. -/
theorem call_of_none (h : Scope.atLevel? outer c.level = none) :
    r.call ⟨setting, outer⟩ c st = .error (.fault .outOfBounds) st := by
  rw [call, Eval.scope_bind, h]
  rfl

/-- A block cannot be called too deep. -/
theorem call_of_deep (h : Scope.atLevel? outer c.level = some defining)
    (hdepth : deepestCall ≤ st.scope.depth) :
    r.call ⟨setting, outer⟩ c st
      = .error (.unplaced (.assertionFailure "Too much recursion")) st := by
  have hdeep : deepestCall < (bodyScope c defining st.scope).depth := Nat.lt_succ_of_le hdepth
  rw [call, Eval.scope_bind, h]
  simp only [hdeep, if_true]
  rfl

/-- **A call runs the body of the block in a scope of its own** and makes a value of that scope. -/
theorem call_of_body (h : Scope.atLevel? outer c.level = some defining)
    (hdepth : st.scope.depth < deepestCall) :
    r.call ⟨setting, outer⟩ c st = Result.settle (fun st' => { st' with scope := st.scope })
      ((r.body ⟨setting, st.scope :: outer⟩ c.body >>= fun _ => Eval.scope >>= fun s =>
          Step.ofExcept (resultOf s))
        { st with scope := bodyScope c defining st.scope }) := by
  have hdeep : ¬ deepestCall < (bodyScope c defining st.scope).depth := Nat.not_lt_of_le hdepth
  rw [call, Eval.scope_bind, h]
  simp only [hdeep, if_false]
  rfl

/-- An error in a block of another file says so. -/
theorem callFromFile_apply (r : Runner) (env : Env) (c : Closure) (st : State) :
    r.callFromFile env c st = if st.scope.file = c.file then r.call env c st
      else Result.mapExit (inFile ((c.file.map FilePath.name).getD "") c.source)
        (r.call env c st) := by
  rw [callFromFile, Eval.scope_bind]
  split <;> rfl

end Calls

end Runner

/-- The range that a loop over a value goes through. -/
def Value.loopRange? : Value → Option (NumberRange Float)
  | .range r | .tuple [.range r] => some r
  | _ => none

theorem primitive_mark {points : SourceRange → Prop} {blame : Blame} (index : Int) :
    Primitive points .statement blame (Runner.mark index) :=
  .modifyScope (fun _ => Scope.Extends.of_eq rfl) fun _ => rfl

namespace Law

variable {base : Setting} {κ : Type} {L : Law base κ} {R : κ → Runner} {outer : List Scope}
  {files : List FilePath} {st : State}

/-- **A range that loops can go through**: if the turns obey the law, so does the loop. -/
def Loops (L : Law base κ) (R : κ → Runner) (range : NumberRange Float) : Prop :=
  ∀ (outer : List Scope) (files : List FilePath) (st : State) (act : κ → Value → Eval Unit),
    (∀ v st, L.Holds .statement outer files st →
      L.Good .statement .placed outer files st fun k => act k v st) →
    L.Holds .statement outer files st →
    L.Good .statement .placed outer files st fun k =>
      Runner.overRange (act k) range (R k).turns 0 st

theorem good_overRange {act : κ → Value → Eval Unit} (range : NumberRange Float) (turns i : Nat)
    (hexhausted : ∀ st, L.Rel files .placed st fun _ =>
      (.error .exhausted st : EStateM.Result Exit State Unit))
    (hact : ∀ v st, L.Holds .statement outer files st →
      L.Good .statement .placed outer files st fun k => act k v st)
    (hI : L.Holds .statement outer files st) :
    L.Good .statement .placed outer files st fun k =>
      Runner.overRange (act k) range turns i st := by
  induction turns generalizing st i with
  | zero => exact ⟨fun _ => Frame.refl .statement st, fun _ => hI, hexhausted st⟩
  | succ turns ih =>
    simp only [Runner.overRange]
    cases range.item? i with
    | none => exact .pure () hI
    | some x => exact (hact _ st hI).bind fun _ st₁ _ hI₁ => ih (i + 1) hI₁

theorem loops_of_turns {turns : Nat} (hturns : ∀ k, (R k).turns = turns)
    (hexhausted : ∀ files st, L.Rel files .placed st fun _ =>
      (.error .exhausted st : EStateM.Result Exit State Unit))
    (range : NumberRange Float) : L.Loops R range := by
  intro outer files st act hact hI
  simp only [hturns]
  exact good_overRange range turns 0 (hexhausted files) hact hI

theorem good_overList {act : κ → Value → Eval Unit} (vs : List Value)
    (hact : ∀ v st, L.Holds .statement outer files st →
      L.Good .statement .placed outer files st fun k => act k v st)
    (hI : L.Holds .statement outer files st) :
    L.Good .statement .placed outer files st fun k => Runner.overList (act k) vs st := by
  induction vs generalizing st with
  | nil => exact .pure () hI
  | cons v rest ih => exact (hact v st hI).bind fun _ st₁ _ hI₁ => ih hI₁

namespace Agree

/-! ### Commands -/

theorem blockCommand (h : L.Agree R) {callee : Identifier} {symbol : Symbol} {block : BlockType}
    {parameter : Option Expr} (hcallee : L.Points files callee.range)
    (hname : Scope.symbol? (st.scope :: outer) callee.name = some symbol)
    (hb : symbol.blockType? = some block)
    (hparameter : ∀ e ∈ parameter, L.Writes files (.expression e))
    (hI : L.Holds .statement outer files st) :
    L.Good .statement .placed outer files st fun k =>
      (R k).blockCommand ⟨L.setting k, outer⟩ callee symbol block parameter st := by
  refine .primitive_bind (primitive_mark _) hI fun _ st₁ hmark hdefinitions hI₁ => ?_
  have hname₁ : Scope.symbol? (st₁.scope :: outer) callee.name = some symbol := by
    rw [Scope.symbol?_congr outer callee.name hmark.scope hdefinitions, hname]
  cases parameter with
  | some e =>
    have he := hparameter e rfl
    refine ((h.expression he (L.expression hI₁)).statement hI₁).bind_of_ok ?_
    rintro v st₂ ⟨k, hk⟩ - hI₂
    have hmoves : st₁.scope.Moves st₂.scope := by
      have hframe := (h.expression he (L.expression hI₁)).frame k
      rw [hk] at hframe
      exact hframe.scope
    have hname₂ : Scope.symbol? (st₂.scope :: outer) callee.name = some symbol := by
      rw [Scope.symbol?_congr outer callee.name hmoves.extends (by rw [hmoves]), hname₁]
    by_cases hfits : v.unwrap.elements.all fun c => block.childKinds.contains c.kind
    · -- the children are added in the scope of the block, from which its value is built
      simp only [hfits, if_true]
      refine Good.locate ?_ hcallee
      simp only [Eval.scope_bind, Env.level]
      have hI₂' := L.expression hI₂
      refine Good.bind_primitive ((Good.block hI₂' ?_).statement hI₂) primitive_addValue
      have hinner := L.enter hI₂' (.block (Scope.Gains.refl (st₂.scope.push outer.length block)))
      refine .primitive_bind (primitive_onScope (Scope.added_addAll _)) hinner ?_
      intro _ st₃ hadd _ hI₃
      refine (h.build hname₂ ?_ hI₃).statement hI₃
      exact Scope.Extends.suits hadd.scope (Scope.suits_push st₂.scope outer.length hb)
    · simp only [hfits]
      exact .raise rfl (L.points_sourceRange he) hI₂
  | none =>
    by_cases hempty : block.childKinds.isEmpty
    · simp only [hempty, if_true]
      refine Good.locate ?_ hcallee
      simp only [Eval.scope_bind, Env.level]
      have hbuild := h.buildIn hname₁ hb (Scope.Gains.refl _) (L.expression hI₁)
      exact (hbuild.statement hI₁).bind_primitive primitive_addValue
    · simp only [hempty]
      exact .raise rfl hcallee hI₁

theorem command (h : L.Agree R) {callee : Identifier} {parameter : Option Expr}
    (hcallee : L.Points files callee.range)
    (hparameter : ∀ e ∈ parameter, L.Writes files (.expression e))
    (hI : L.Holds .statement outer files st) :
    L.Good .statement .placed outer files st fun k =>
      (R k).command ⟨L.setting k, outer⟩ callee parameter st := by
  simp only [Runner.command, Env.symbol?_bind]
  cases hname : Scope.symbol? (st.scope :: outer) callee.name with
  | none =>
    simp only [Env.stack_bind]
    exact .raise rfl hcallee hI
  | some symbol =>
    cases symbol with
    | command c =>
      have hargument := h.parameter hparameter hcallee c.parameter (L.expression hI)
      refine (hargument.statement hI).bind fun v st₁ _ hI₁ => Good.locate ?_ hcallee
      exact ((L.good_run c v (L.expression hI₁)).statement hI₁).bind_primitive primitive_addValue
    | property p =>
      have hargument := h.parameter hparameter hcallee p.kind (L.expression hI)
      exact (hargument.statement hI).bind_primitive fun v => .locate (primitive_set p v) hcallee
    | constant v => exact .primitive (.locate (primitive_addValue v) hcallee) hI
    | shape _ | closure _ => exact h.blockCommand hcallee hname rfl hparameter hI

/-! ### Loops -/

theorem turn (h : L.Agree R) (binder? : Option Identifier) {body : Block}
    (hbody : ∀ s ∈ body.statements, L.Writes files (.statement s)) (v : Value)
    (hI : L.Holds .statement outer files st) :
    L.Good .statement .placed outer files st fun k =>
      (R k).turn ⟨L.setting k, outer⟩ binder? body v st := by
  have hstart : L.Good .statement .placed outer files st fun k =>
      Runner.startTurn (L.setting k) st := by
    have hframe (k : κ) := Runner.startTurn_frame .statement (L.setting k) st
    refine ⟨hframe, fun k => L.keep hI (hframe k) ?_, L.startTurn files st⟩
    rw [Runner.startTurn_apply]
    split <;> rfl
  simp only [Runner.turn_eq]
  refine hstart.bind fun _ st₁ _ hI₁ => ?_
  simp only [Eval.scope_bind, Env.level]
  refine Good.turn hI₁ ?_
  have hinner := L.turn hI₁
  cases binder? with
  | none => exact h.statements hbody hinner
  | some name =>
    refine (L.good_constant name.name v hinner).bind fun _ st₂ _ hI₂ => ?_
    exact h.statements hbody hI₂

theorem loop (h : L.Agree R) (binder? : Option Identifier) {sequence : Expr} {body : Block}
    (hsequence : L.Writes files (.expression sequence))
    (hbody : ∀ s ∈ body.statements, L.Writes files (.statement s))
    (hloops : ∀ k v st₁ range,
      (R k).expression ⟨L.setting k, outer⟩ sequence st = .ok v st₁ →
      v.loopRange? = some range → L.Loops R range)
    (hI : L.Holds .statement outer files st) :
    L.Good .statement .placed outer files st fun k =>
      (R k).loop ⟨L.setting k, outer⟩ binder? sequence body st := by
  have hact (v : Value) (st : State) (hI : L.Holds .statement outer files st) :=
    h.turn binder? hbody v hI
  refine ((h.expression hsequence (L.expression hI)).statement hI).bind_of_ok ?_
  rintro v st₁ ⟨k, hk⟩ - hI₁
  have hrange : ∀ range, v.loopRange? = some range →
      L.Good .statement .placed outer files st₁ fun k => Runner.overRange
        ((R k).turn ⟨L.setting k, outer⟩ binder? body) range (R k).turns 0 st₁ :=
    fun range hv => hloops k v st₁ range hk hv outer files st₁ _ hact hI₁
  have hlist (vs : List Value) := good_overList vs hact hI₁
  cases v with
  | range range => exact hrange range rfl
  | tuple vs =>
    match vs with
    | [] => exact hlist []
    | [w] =>
      cases w with
      | range range => exact hrange range rfl
      | _ => exact hlist _
    | w :: next :: rest => cases w <;> exact hlist _
  | _ => exact .raise rfl (L.points_sourceRange hsequence) hI₁

/-! ### Definitions -/

theorem optionKinds (h : L.Agree R) (options : Bindings Kind) {ss : List Statement}
    (hss : ∀ s ∈ ss, L.Writes files (.statement s)) (hI : L.Holds .expression outer files st) :
    L.Good .expression .placed outer files st fun k =>
      (R k).optionKinds ⟨L.setting k, outer⟩ options ss st := by
  induction ss generalizing st options with
  | nil => exact .pure options hI
  | cons s rest ih =>
    obtain ⟨hs, hrest⟩ := List.forall_mem_cons.mp hss
    cases s with
    | option range name default =>
      refine (h.expression (L.part hs List.mem_cons_self) hI).bind fun v st₁ _ hI₁ => ?_
      exact ih _ hrest hI₁
    | _ => exact ih options hrest hI

theorem definition (h : L.Agree R) {d : Definition}
    (hd : ∀ t ∈ d.parts, L.Writes files t)
    (hI : L.Holds .expression outer files st) :
    L.Good .expression .placed outer files st fun k =>
      (R k).definition ⟨L.setting k, outer⟩ d st := by
  cases d with
  | expression e =>
    simp only [Runner.definition, Eval.scope_bind, Env.level]
    refine Good.bind_primitive (Good.block hI ?_) fun v => .pure _
    have hinner := L.enter hI .definition
    exact (h.expression (hd _ List.mem_cons_self) (L.expression hinner)).statement hinner
  | block body =>
    have hss : ∀ s ∈ body.statements, L.Writes files (.statement s) :=
      fun s hs => hd _ (List.mem_map_of_mem hs)
    simp only [Runner.definition, Env.level]
    refine (h.optionKinds _ hss hI).bind_primitive fun options => ?_
    exact .scope_bind fun s => .pure _

/-! ### Imports -/

/-- A script that is run in place of its import. -/
theorem script (h : L.Agree R) {place : FilePath} {text : String} {p : Program}
    (hplace : place ∉ files) (hscript : base.ScriptAt place text p)
    (hI : L.Holds .statement outer files st) :
    L.Good .statement .unplaced outer files st fun k =>
      Result.settle (Runner.leaveScript st.scope.file)
        (Result.mapExit (Runner.inFile place.name text)
          ((R k).program ⟨L.setting k, outer⟩ p (st.entering place))) := by
  obtain ⟨hinner, hss⟩ := L.script hI hplace hscript
  have hrun := h.statements hss hinner
  have hstate (k : κ) : Result.state (Result.settle (Runner.leaveScript st.scope.file)
      (Result.mapExit (Runner.inFile place.name text)
        ((R k).program ⟨L.setting k, outer⟩ p (st.entering place))))
      = st.resuming (Result.state ((R k).statements ⟨L.setting k, outer⟩
          p.statements (st.importing place p))) := by
    rw [Result.state_settle, Result.state_mapExit]
    exact congrArg (Runner.leaveScript st.scope.file) (Result.state_settle _ _)
  have hframe (k : κ) : Frame .statement st (st.resuming (Result.state
      ((R k).statements ⟨L.setting k, outer⟩ p.statements (st.importing place p)))) :=
    (Detour.file place).frame ((Detour.source p.source).frame (hrun.frame k))
  refine ⟨fun k => ?_, fun k => ?_, ?_⟩
  · rw [hstate]
    exact hframe k
  · rw [hstate]
    exact L.resume hI (hrun.holds k) (hframe k)
  · exact L.settle (.file place)
      (L.imported hplace hscript (L.settle (.source p.source) hrun.rel))

theorem importScript (h : L.Agree R) {host : Host} {place : FilePath}
    (hhost : base.host = some host) (hsuffix : place.hasSuffix Runner.scriptSuffix)
    (path : String) (hI : L.Holds .statement outer files st) :
    L.Good .statement .unplaced outer files st fun k =>
      (R k).importScript ⟨L.setting k, outer⟩ host path place st := by
  have hstack : st.world.importing = files := L.importing_eq hI
  by_cases hplace : place ∈ files
  · simp only [Runner.importScript_circular (hstack ▸ hplace)]
    exact .primitive (.throw (.unplaced _ rfl)) hI
  have hfresh : place ∉ st.world.importing := hstack ▸ hplace
  cases hparse : base.parse with
  | none =>
    simp only [Runner.importScript_fresh hfresh, (L.similar _).parse_eq, hparse]
    exact .primitive (.throw (.unplaced _ rfl)) hI
  | some parse =>
    have hparse' (k : κ) : (L.setting k).parse = some parse := (L.similar k).parse_eq.trans hparse
    cases hread : host.readText place with
    | error f =>
      simp only [Runner.importScript_fresh hfresh, hparse', hread]
      exact .primitive (.throw (Runner.proper_fileExit _ path place f)) hI
    | ok text =>
      cases hprogram : parse text with
      | error x =>
        have heq (k : κ) : (R k).importScript ⟨L.setting k, outer⟩ host path place st
            = .error (Runner.inFile place.name text x) st :=
          Runner.importScript_unreadable path st hfresh (hparse' k) hread hprogram
        simp only [heq]
        exact ⟨fun _ => Frame.refl .statement st, fun _ => hI,
          L.unreadable files st hhost hread hparse hprogram⟩
      | ok p =>
        have heq (k : κ) : (R k).importScript ⟨L.setting k, outer⟩ host path place st = _ :=
          Runner.importScript_readable path st hfresh (hparse' k) hread hprogram
        simp only [heq]
        exact h.script hplace ⟨hsuffix, ⟨host, hhost, hread⟩, parse, hparse, hprogram⟩ hI

theorem importFile (h : L.Agree R) (path : String) (hI : L.Holds .statement outer files st) :
    L.Good .statement .unplaced outer files st fun k =>
      (R k).importFile ⟨L.setting k, outer⟩ path st := by
  refine ((L.good_resolve path (L.expression hI)).statement hI).bind fun place st₁ _ hI₁ => ?_
  simp only [(L.similar _).host_eq]
  cases hhost : base.host with
  | none => exact .primitive (.throw (.unplaced _ rfl)) hI₁
  | some host =>
    by_cases hsuffix : place.hasSuffix Runner.scriptSuffix
    · simp only [hsuffix, if_true]
      exact h.importScript hhost hsuffix path hI₁
    · simp only [hsuffix]
      cases hnode : host.importNode place with
      | error x =>
        exact ⟨fun _ => Frame.refl .statement st₁, fun _ => hI₁,
          L.geometry files path st₁ hhost hnode⟩
      | ok node =>
        cases node with
        | none => exact .pure () hI₁
        | some node => exact .primitive (primitive_addValue (.mesh node)) hI₁

theorem importStatement (h : L.Agree R) {e : Expr} (he : L.Writes files (.expression e))
    (hI : L.Holds .statement outer files st) :
    L.Good .statement .placed outer files st fun k =>
      (R k).importStatement ⟨L.setting k, outer⟩ e st := by
  have hrange := L.points_sourceRange he
  refine ((h.expression he (L.expression hI)).statement hI).bind fun v st₁ _ hI₁ => ?_
  cases v with
  | string path? =>
    cases path? with
    | none => exact .raise rfl hrange hI₁
    | some path =>
      refine .primitive_bind (primitive_mark _) hI₁ fun _ st₂ _ _ hI₂ => ?_
      exact (h.importFile path hI₂).locate hrange
  | _ => exact .raise rfl hrange hI₁

/-! ### All statements -/

/-- **What a statement does.** -/
theorem execute (h : L.Agree R) {s : Statement} (hs : L.Owns files (.statement s))
    (hloops : ∀ range binder? sequence body, s = .loop range binder? sequence body →
      ∀ k v st₁ range, (R k).expression ⟨L.setting k, outer⟩ sequence st = .ok v st₁ →
        v.loopRange? = some range → L.Loops R range)
    (hI : L.Holds .statement outer files st) :
    L.Good .statement .placed outer files st fun k =>
      (R k).execute ⟨L.setting k, outer⟩ s st := by
  obtain ⟨hparts, hranges⟩ := hs
  cases s with
  | command range callee parameter =>
    refine h.command (hranges _ (List.mem_cons_of_mem _ List.mem_cons_self)) ?_ hI
    exact fun e he => hparts _ (List.mem_map_of_mem (Option.mem_toList.mpr he))
  | block range callee body =>
    refine .primitive_bind (primitive_mark _) hI fun _ st₁ _ _ hI₁ => ?_
    have hvalue := h.expression (hparts _ List.mem_cons_self) (L.expression hI₁)
    exact (hvalue.statement hI₁).bind_primitive fun v =>
      .locate (primitive_addValue v) (hranges _ List.mem_cons_self)
  | expression range e =>
    have hvalue := h.expression (hparts _ List.mem_cons_self) (L.expression hI)
    exact (hvalue.statement hI).bind_primitive fun v =>
      .locate (primitive_addValue v) (hranges _ List.mem_cons_self)
  | define range name d =>
    have hsymbol := h.definition hparts (L.expression hI)
    refine (hsymbol.statement hI).bind_of_ok ?_
    rintro symbol st₁ ⟨k, hk⟩ - hI₁
    refine L.good_define name.name hI₁ (Runner.definition_made hk).1 ?_
    rintro c rfl s hs
    exact hparts _ ((Runner.definition_made hk).2 c rfl s hs)
  | option range name default => exact .raise rfl (hranges _ List.mem_cons_self) hI
  | loop range binder? sequence body =>
    refine h.loop binder? (hparts _ List.mem_cons_self) ?_ (hloops _ _ _ _ rfl) hI
    exact fun s hs => hparts _ (List.mem_cons_of_mem _ (List.mem_map_of_mem hs))
  | importFile range e => exact h.importStatement (hparts _ List.mem_cons_self) hI

end Agree

end Law

/-! ### One layer more -/

/-- **The runner that runs one layer more.** -/
def Runner.next (r : Runner) : Runner where
  turns := r.turns + 1
  expression := r.evaluate
  statement := r.execute
  build := r.construct
  body env block := r.bodyStatements env block.statements

theorem Runner.ofFuel_succ (fuel : Nat) : ofFuel (fuel + 1) = (ofFuel fuel).next := by
  simp only [ofFuel, next]
  congr

/-! ### Runs of programs -/

namespace Program

/-- **How the statements of a program end**, before it is decided what the host gets. -/
def finish (fuel : Nat) (setting : Setting) (p : Program) : EStateM.Result Exit State Unit :=
  (Runner.ofFuel fuel).program { setting } p p.start

/-- The state that a run of a program leaves. -/
def final (fuel : Nat) (setting : Setting) (p : Program) : State :=
  Result.state (p.finish fuel setting)

variable {fuel : Nat} {setting : Setting} {p : Program}

/-- The outcome depends only on how the statements end. -/
theorem run_eq_of_finish {fuel' : Nat} {setting' : Setting}
    (h : p.finish fuel setting = p.finish fuel' setting') :
    p.run fuel setting = p.run fuel' setting' := by
  unfold finish at h
  unfold run
  rw [h]

theorem run_world : (p.run fuel setting).world = (p.final fuel setting).world := by
  unfold run final finish
  split <;> rename_i hres <;> rw [hres] <;> rfl

/-- A scene is what the outermost scope describes in the end. -/
theorem scene_eq_of_run {scene : Scene} (h : (p.run fuel setting).result = .ok scene) :
    scene = (p.final fuel setting).scope.scene := by
  unfold run at h
  unfold final finish
  split at h <;> rename_i hres <;> rw [hres] <;> cases h <;> rfl

/-- A run that gives no scene ends with what its statements stopped with. -/
theorem finish_eq_of_run {x : Exit} (h : (p.run fuel setting).result = .error x) :
    x ≠ .cancelled ∧ p.finish fuel setting = .error x (p.final fuel setting) := by
  unfold run at h
  unfold final finish
  split at h
  · cases h
  · cases h
  · rename_i y st hne hres
    cases h
    refine ⟨hne, ?_⟩
    rw [hres]
    rfl

end Program

end SceneLang
