import SceneLang.Proofs.Simulation
import SceneLang.Proofs.Throughout

/-!
# Statements and blocks in different places

The lemmas of `Proofs.Simulation` for the functions that run one layer of a statement or of a block:
commands, loops, definitions, imports and calls.  A script that is imported runs in another place
than its import in both runs, and in that place both leave the same behind.

A block that is called is found where it was defined (`Orderly`), and an error in it is reported for
its own file, which may be that of the caller in one run only.
-/

namespace SceneLang

namespace Simulates

variable {alone : Prop} {setting : Setting} {r r' : Runner} {outer outer' : List Scope}
  {st st' : State}

/-! ### Commands -/

theorem blockCommand (h : Simulates alone setting r r') (callee : Identifier)
    {symbol symbol' : Symbol} (hsymbol : Symbol.Akin alone outer.length symbol symbol')
    (hblock : symbol.blockType?.isSome) (block : BlockType) (parameter : Option Expr)
    (hM : Akin alone outer outer' st st') :
    Refines alone (Akin alone outer outer') Eq
      (r.blockCommand ⟨setting, outer⟩ callee symbol block parameter st)
      (r'.blockCommand ⟨setting, outer'⟩ callee symbol' block parameter st') := by
  refine (hM.sourceIndex _ _).bind_eq fun _ st₁ st₁' hM₁ => ?_
  cases parameter with
  | some e =>
    refine (h.expression e hM₁).bind fun v v' st₂ st₂' hv hM₂ => ?_
    have hchildren := hv.unwrap.elements
    have hall : (v'.unwrap.elements.all fun c => block.childKinds.contains c.kind)
        = v.unwrap.elements.all fun c => block.childKinds.contains c.kind := by
      have hkinds := congrArg (List.map Value.kind) hchildren.bare
      simp only [List.map_map, Function.comp_def, Value.kind_bare] at hkinds
      have hmap (vs : List Value) : (vs.all fun c => block.childKinds.contains c.kind)
          = (vs.map Value.kind).all block.childKinds.contains := by
        rw [List.all_map]
        rfl
      rw [hmap, hmap]
      exact congrArg (List.all · _) hkinds
    dsimp only
    rw [hall]
    split
    · refine Refines.locate ?_ callee.range
      simp only [Eval.scope_bind]
      refine (hM₂.block ?_).bind fun w w' _ _ hw hM₃ => hM₃.addValue hw
      refine ((hM₂.push block).addAll hchildren).bind_eq fun _ _ _ hM₃ => ?_
      exact h.build hsymbol hblock hM₃
    · exact .raise _ _
  | none =>
    dsimp only
    split
    · refine Refines.locate ?_ callee.range
      simp only [Eval.scope_bind]
      refine (h.buildIn hsymbol hblock hM₁ (hM₁.push block)).bind fun w w' _ _ hw hM₂ => ?_
      exact hM₂.addValue hw
    · exact .raise _ _

theorem command (h : Simulates alone setting r r') (callee : Identifier) (parameter : Option Expr)
    (hM : Akin alone outer outer' st st') :
    Refines alone (Akin alone outer outer') Eq
      (r.command ⟨setting, outer⟩ callee parameter st)
      (r'.command ⟨setting, outer'⟩ callee parameter st') := by
  simp only [Runner.command, Env.symbol?_bind]
  rcases hM.symbol callee.name with ⟨hnone, hnone'⟩ | ⟨y, y', hy, hy', hsymbol⟩
  · rw [hnone, hnone']
    exact .raise _ _
  · rw [hy, hy']
    have hblock (hblock : y.blockType?.isSome) (block : BlockType) :=
      h.blockCommand callee hsymbol hblock block parameter hM
    cases hsymbol with
    | command c =>
      refine (h.parameter parameter c.parameter callee hM).bind ?_
      rintro v v' _ _ ⟨hv, harg⟩ hM₁
      refine Refines.locate ?_ callee.range
      exact (hM₁.run c hv harg).bind fun w w' _ _ hw hM₂ => hM₂.addValue hw
    | property p =>
      refine (h.parameter parameter p.kind callee hM).bind ?_
      rintro v v' _ _ ⟨hv, harg⟩ hM₁
      exact (hM₁.set p hv harg).locate callee.range
    | constant hv => exact (hM.addValue hv).locate callee.range
    | shape s => exact hblock rfl _
    | closure hbare _ =>
      simp only [Symbol.blockType?, Closure.blockType_of_bare hbare]
      exact hblock rfl _

/-! ### Loops -/

theorem turn (h : Simulates alone setting r r') (binder? : Option Identifier) (body : Block)
    {v v' : Value} (hv : v.Akin alone v') (hM : Akin alone outer outer' st st') :
    Refines alone (Akin alone outer outer') Eq
      (r.turn ⟨setting, outer⟩ binder? body v st)
      (r'.turn ⟨setting, outer'⟩ binder? body v' st') := by
  simp only [Runner.turn_eq]
  refine hM.startTurn.bind_eq fun _ st₁ st₁' hM₁ => ?_
  simp only [Eval.scope_bind]
  refine hM₁.turn ?_
  cases binder? with
  | none => exact h.statements _ hM₁.pushLoop
  | some name =>
    refine (hM₁.pushLoop.define name.name (.constant hv)).bind_eq fun _ _ _ hM₂ => ?_
    exact h.statements _ hM₂

theorem overList {M : State → State → Prop} {act act' : Value → Eval Unit}
    (hact : ∀ v v' st st', v.Akin alone v' → M st st' →
      Refines alone M Eq (act v st) (act' v' st'))
    {vs vs' : List Value} (hvs : Value.AllAkin alone vs vs') (hM : M st st') :
    Refines alone M Eq (Runner.overList act vs st) (Runner.overList act' vs' st') := by
  induction vs generalizing vs' st st' with
  | nil =>
    obtain rfl := hvs.eq_nil
    exact .pure rfl hM
  | cons v rest ih =>
    obtain ⟨v', rest', rfl, hv, hrest⟩ := hvs.exists_cons
    exact (hact v v' st st' hv hM).bind_eq fun _ _ _ hM₁ => ih hrest hM₁

theorem overRange {M : State → State → Prop} {act act' : Value → Eval Unit}
    (hact : ∀ v v' st st', v.Akin alone v' → M st st' →
      Refines alone M Eq (act v st) (act' v' st'))
    (range : NumberRange Float) (turns i : Nat) (hM : M st st') :
    Refines alone M Eq (Runner.overRange act range turns i st)
      (Runner.overRange act' range turns i st') := by
  induction turns generalizing st st' i with
  | zero => exact .throw (x := .exhausted) (fun _ => trivial) _
  | succ turns ih =>
    simp only [Runner.overRange]
    cases range.item? i with
    | none => exact .pure rfl hM
    | some x =>
      have hfirst := hact (.number x) (.number x) st st' (.flat _ rfl) hM
      exact hfirst.bind_eq fun _ _ _ hM₁ => ih (i + 1) hM₁

theorem loop (h : Simulates alone setting r r') (binder? : Option Identifier) (sequence : Expr)
    (body : Block) (hM : Akin alone outer outer' st st') :
    Refines alone (Akin alone outer outer') Eq
      (r.loop ⟨setting, outer⟩ binder? sequence body st)
      (r'.loop ⟨setting, outer'⟩ binder? sequence body st') := by
  have hact (v v' : Value) (st st' : State) (hv : v.Akin alone v')
      (hM : Akin alone outer outer' st st') :=
    h.turn binder? body hv hM
  refine (h.expression sequence hM).bind fun v v' st₁ st₁' hv hM₁ => ?_
  have hrange (range : NumberRange Float) := overRange hact range r.turns 0 hM₁
  have hlist {vs vs' : List Value} (hvs : Value.AllAkin alone vs vs') := overList hact hvs hM₁
  rw [h.turns]
  split
  · obtain rfl := hv.eq rfl
    exact hrange _
  · obtain ⟨vs', rfl, hvs⟩ := hv.exists_tuple
    obtain ⟨w', rest', rfl, hw, hrest⟩ := hvs.exists_cons
    obtain rfl := hrest.eq_nil
    obtain rfl := hw.eq rfl
    exact hrange _
  · next vs hne =>
    obtain ⟨vs', rfl, hvs⟩ := hv.exists_tuple
    match vs' with
    | [] => exact hlist hvs
    | [w'] =>
      cases w' with
      | range range =>
        -- a range has no places, so the first run goes through it as well
        have hrange : vs = [.range range] := Value.eq_of_map_bare hvs.bare.symm fun w hw => by
          rw [List.mem_singleton.mp hw]
          rfl
        exact (hne range hrange).elim
      | _ => exact hlist hvs
    | w' :: next' :: rest' => cases w' <;> exact hlist hvs
  · exact .raise _ _

/-! ### Definitions -/

theorem optionKinds (h : Simulates alone setting r r') (options : Bindings Kind)
    (ss : List Statement) (hM : Akin alone outer outer' st st') :
    Refines alone (Akin alone outer outer') Eq
      (r.optionKinds ⟨setting, outer⟩ options ss st)
      (r'.optionKinds ⟨setting, outer'⟩ options ss st') := by
  induction ss generalizing st st' options with
  | nil => exact .pure rfl hM
  | cons s rest ih =>
    cases s with
    | option range name default =>
      refine (h.expression default hM).bind fun v v' _ _ hv hM₁ => ?_
      rw [hv.kind]
      exact ih _ hM₁
    | _ => exact ih options hM

theorem definition (h : Simulates alone setting r r') (d : Definition)
    (hM : Akin alone outer outer' st st') :
    Refines alone (Akin alone outer outer') (Symbol.Akin alone outer.length)
      (r.definition ⟨setting, outer⟩ d st)
      (r'.definition ⟨setting, outer'⟩ d st') := by
  cases d with
  | expression e =>
    simp only [Runner.definition, Eval.scope_bind]
    refine (hM.block (h.expression e hM.pushDefinition)).bind fun v v' _ _ hv hM₁ => ?_
    refine .pure ?_ hM₁
    have hone : Symbol.Akin alone outer.length (.constant (.tuple [v])) (.constant (.tuple [v'])) :=
      .constant (Value.AllAkin.singleton hv).tuple
    cases v with
    | tuple vs =>
      obtain ⟨vs', rfl, -⟩ := hv.exists_tuple
      exact .constant hv
    | mesh n =>
      obtain ⟨n', rfl, -⟩ := Value.exists_of_bare_mesh hv.bare
      exact hone
    | _ =>
      obtain rfl := hv.eq rfl
      exact hone
  | block body =>
    simp only [Runner.definition]
    refine (h.optionKinds _ body.statements hM).bind_eq fun options st₁ st₁' hM₁ => ?_
    simp only [Eval.scope_bind, Env.level]
    rw [hM₁.length_eq]
    exact .pure (.closure rfl fun _ => Nat.le_refl _) hM₁

/-! ### Imports -/

/-- Another source and another file do not matter. -/
theorem moved (hM : Akin alone outer outer' st st') {s s' : Scope}
    (hs : s = { st.scope with source := s.source, file := s.file })
    (hs' : s' = { st'.scope with source := s'.source, file := s'.file }) :
    Akin alone outer outer' { st with scope := s } { st' with scope := s' } := by
  have hbare {s t : Scope} (h : t = { s with source := t.source, file := t.file }) :
      t.bare = s.bare := by
    rw [h]
    rfl
  refine hM.keep ((hbare hs').trans (hM.scope.trans (hbare hs).symm)) fun halone => ?_
  have htop := (hM.orderly halone).top
  rw [hs]
  exact (hM.orderly halone).keep rfl rfl htop.transform htop.childTransform htop.children

/-- The same file is put on both stacks of imports. -/
theorem entering (hM : Akin alone outer outer' st st') (place : FilePath) :
    Akin alone outer outer' (st.entering place) (st'.entering place) :=
  have hmoved : Akin alone outer outer' _ _ := moved hM rfl rfl
  ⟨hmoved.scope, hM.below, hM.world, hM.importing.cons_cons place, hmoved.orderly⟩

/-- Of both stacks of imports the top is taken off. -/
theorem leaving (hM : Akin alone outer outer' st st') (file file' : Option FilePath) :
    Akin alone outer outer' (Runner.leaveScript file st) (Runner.leaveScript file' st') :=
  have hmoved : Akin alone outer outer' _ _ := moved hM rfl rfl
  ⟨hmoved.scope, hM.below, hM.world, hM.importing.tail, hmoved.orderly⟩

theorem program (h : Simulates alone setting r r') (p : Program)
    (hM : Akin alone outer outer' st st') :
    Refines alone (Akin alone outer outer') Eq (r.program ⟨setting, outer⟩ p st)
      (r'.program ⟨setting, outer'⟩ p st') := by
  simp only [Runner.program, Eval.scope_bind]
  exact (h.statements _ (moved hM rfl rfl)).settle fun _ _ hM₁ => moved hM₁ rfl rfl

theorem importScript (h : Simulates alone setting r r') (host : Host)
    (hhost : setting.host = some host) (path : String) (place : FilePath)
    (hM : Akin alone outer outer' st st') :
    Refines alone (Akin alone outer outer') Eq
      (r.importScript ⟨setting, outer⟩ host path place st)
      (r'.importScript ⟨setting, outer'⟩ host path place st') := by
  have hnot (halone : alone) : False := by
    rw [h.noHost halone] at hhost
    cases hhost
  rcases Runner.importScript_cases setting host path place st.world.importing with
    ⟨x, hx⟩ | ⟨hplace, text, p, -, -, hrun⟩
  · rw [hx r outer st rfl]
    exact .error (fun halone => (hnot halone).elim) _ _
  · have hplace' : place ∉ st'.world.importing := fun hmem => hplace (hM.importing.subset hmem)
    rw [hrun r outer st hplace, hrun r' outer' st' hplace']
    refine Refines.settle (Refines.mapExit _ _ (h.program p (entering hM place)) ?_) ?_
    · exact fun _ hx => hx.inFile _ _
    · exact fun _ _ hM₁ => leaving hM₁ _ _

theorem importFile (h : Simulates alone setting r r') (path : String)
    (hM : Akin alone outer outer' st st') :
    Refines alone (Akin alone outer outer') Eq (r.importFile ⟨setting, outer⟩ path st)
      (r'.importFile ⟨setting, outer'⟩ path st') := by
  refine (hM.resolve h.noHost path).bind_eq fun place _ _ hM₁ => ?_
  dsimp only
  cases hhost : setting.host with
  | none => exact .raise _ _
  | some host =>
    have hnot (halone : alone) : False := by
      rw [h.noHost halone] at hhost
      cases hhost
    dsimp only
    split
    · exact h.importScript host hhost path place hM₁
    · cases host.importNode place with
      | error x => exact .error (fun halone => (hnot halone).elim) _ _
      | ok node =>
        cases node with
        | none => exact .pure rfl hM₁
        | some node => exact hM₁.addValue ⟨rfl, fun halone => (hnot halone).elim⟩

theorem importStatement (h : Simulates alone setting r r') (e : Expr)
    (hM : Akin alone outer outer' st st') :
    Refines alone (Akin alone outer outer') Eq
      (r.importStatement ⟨setting, outer⟩ e st)
      (r'.importStatement ⟨setting, outer'⟩ e st') := by
  refine (h.expression e hM).bind fun v v' _ _ hv hM₁ => ?_
  cases v with
  | string path? =>
    obtain rfl := hv.eq rfl
    cases path? with
    | none => exact .raise _ _
    | some path =>
      refine (hM₁.sourceIndex _ _).bind_eq fun _ _ _ hM₂ => ?_
      exact (h.importFile path hM₂).locate _
  | _ => exact .raise _ _

/-! ### All statements and blocks -/

/-- **What a statement does.** -/
theorem execute (h : Simulates alone setting r r') (s : Statement)
    (hM : Akin alone outer outer' st st') :
    Refines alone (Akin alone outer outer') Eq (r.execute ⟨setting, outer⟩ s st)
      (r'.execute ⟨setting, outer'⟩ s st') := by
  cases s with
  | command range callee parameter => exact h.command callee parameter hM
  | block range callee body =>
    refine (hM.sourceIndex _ _).bind_eq fun _ _ _ hM₁ => ?_
    refine (h.expression _ hM₁).bind fun v v' _ _ hv hM₂ => ?_
    exact (hM₂.addValue hv).locate range
  | expression range e =>
    refine (h.expression e hM).bind fun v v' _ _ hv hM₁ => ?_
    exact (hM₁.addValue hv).locate range
  | define range name d =>
    exact (h.definition d hM).bind fun y y' _ _ hy hM₁ => hM₁.define name.name hy
  | option range name default => exact .raise _ _
  | loop range binder? sequence body => exact h.loop binder? sequence body hM
  | importFile range e => exact h.importStatement e hM

/-- The scope of a body, without places. -/
theorem bodyScope_bare (c : Closure) (defining caller : Scope) :
    (Runner.bodyScope c defining caller).bare
      = Runner.bodyScope c.bare defining.bare caller.bare := by
  simp only [Runner.bodyScope, Scope.bare, Bindings.bare_update]
  rfl

/-- **A call of a defined block.** -/
theorem call (h : Simulates alone setting r r') {s s' : Scope} {below below' : List Scope}
    {c c' : Closure} (hbare : c'.bare = c.bare) (hlevel : alone → c.level ≤ below.length)
    (hM : Akin alone (s :: below) (s' :: below') st st') :
    Refines alone (Akin alone (s :: below) (s' :: below')) (Value.Akin alone)
      (r.call ⟨setting, s :: below⟩ c st)
      (r'.call ⟨setting, s' :: below'⟩ c' st') := by
  obtain ⟨hbody, -, hlevel'⟩ := Closure.parts_of_bare hbare
  have hat : (Scope.atLevel? (s' :: below') c.level).map Scope.bare
      = (Scope.atLevel? (s :: below) c.level).map Scope.bare := by
    rw [← Scope.atLevel?_bare, ← Scope.atLevel?_bare, hM.below]
  cases hdefining : Scope.atLevel? (s :: below) c.level with
  | none =>
    rw [Runner.call_of_none hdefining]
    refine .error (fun halone => ?_) _ _
    have hlt : c.level < (s :: below).length := Nat.lt_succ_of_le (hlevel halone)
    obtain ⟨defining, hsome⟩ := Scope.exists_atLevel? hlt
    rw [hdefining] at hsome
    cases hsome
  | some defining =>
    rw [hdefining, Option.map_some, Option.map_eq_some_iff] at hat
    obtain ⟨defining', hdefining', hscope⟩ := hat
    rw [← hlevel'] at hdefining'
    have hdepth := hM.read Scope.depth fun _ => rfl
    rcases Nat.lt_or_ge st.scope.depth Runner.deepestCall with hlt | hge
    · rw [Runner.call_of_body hdefining hlt, Runner.call_of_body hdefining' (hdepth ▸ hlt), hbody]
      have hinner : Akin alone (st.scope :: s :: below) (st'.scope :: s' :: below')
          { st with scope := Runner.bodyScope c defining st.scope }
          { st' with scope := Runner.bodyScope c' defining' st'.scope } := by
        refine hM.enter ?_ fun ho => ho.body c defining
        rw [bodyScope_bare, bodyScope_bare, hbare, hscope, hM.scope]
      refine Refines.settle ((h.body c.body hinner).bind_eq fun _ _ _ hM₁ => hM₁.result) ?_
      exact fun _ _ hM₁ => ⟨hM.scope, hM.below, hM₁.world, hM₁.importing, hM.orderly⟩
    · rw [Runner.call_of_deep hdefining hge]
      exact .error (x := .unplaced _) (fun _ => trivial) _ _

/-- A call may say whose file an error is in. -/
theorem callFromFile_eq (r : Runner) (env : Env) (c : Closure) (st : State) :
    ∃ f : Exit → Exit, (∀ x : Exit, x.IsUsual → (f x).IsUsual) ∧
      r.callFromFile env c st = Result.mapExit f (r.call env c st) := by
  rw [Runner.callFromFile_apply]
  split
  · refine ⟨id, fun _ hx => hx, ?_⟩
    cases r.call env c st <;> rfl
  · exact ⟨_, fun _ hx => hx.inFile _ _, rfl⟩

/-- **What a block builds.** -/
theorem construct (h : Simulates alone setting r r') {s s' : Scope} {below below' : List Scope}
    {symbol symbol' : Symbol} (hsymbol : Symbol.Akin alone below.length symbol symbol')
    (hblock : symbol.blockType?.isSome)
    (hsides : alone → symbol = .shape .polygon → st.scope.CountsSides)
    (hM : Akin alone (s :: below) (s' :: below') st st') :
    Refines alone (Akin alone (s :: below) (s' :: below')) (Value.Akin alone)
      (r.construct ⟨setting, s :: below⟩ symbol st)
      (r'.construct ⟨setting, s' :: below'⟩ symbol' st') := by
  cases hsymbol with
  | shape shape => exact hM.build shape fun halone hshape => hsides halone (hshape ▸ rfl)
  | @closure c c' hbare hlevel =>
    obtain ⟨f, hf, hcall⟩ := callFromFile_eq r ⟨setting, s :: below⟩ c st
    obtain ⟨f', -, hcall'⟩ := callFromFile_eq r' ⟨setting, s' :: below'⟩ c' st'
    show Refines _ _ _ (r.callFromFile _ c st) (r'.callFromFile _ c' st')
    rw [hcall, hcall']
    exact (h.call hbare hlevel hM).mapExit f f' hf
  | _ => cases hblock

end Simulates

/-! ### Runners of every depth -/

/-- **The number of sides of a polygon is no number** where the polygon is built. -/
def Moment.BuildsOddPolygon (m : Moment) : Prop :=
  m.task = .build (.shape .polygon) ∧ m.isOver = false ∧ ¬ m.state.scope.CountsSides

section Trapped

variable {alone : Prop} {setting : Setting} {bad : List Moment → Moment → Bool}

/-- A run that may be stopped does what the run without stops does. -/
theorem Refines.trap {α β : Type} {M : State → State → Prop} {V : α → β → Prop} {task : Task}
    {env : Env} {act : Eval α} {st : State} {res' : EStateM.Result Exit State β}
    {active : List Moment} (h : ¬ bad active ⟨task, env, st, false⟩ →
      Refines alone M V (act st) res') :
    Refines alone M V (SceneLang.trap (bad active) .cancelled task env act st) res' := by
  obtain ⟨-, heq⟩ | ⟨hstart, heq | heq⟩ := trap_cases (bad active) .cancelled task env act st
  · rw [heq]
    exact .error (x := .cancelled) (fun _ => trivial) _ _
  · rw [heq]
    exact h hstart
  · rw [heq]
    exact .error (x := .cancelled) (fun _ => trivial) _ _

/-- **A run that is stopped at odd polygons, if it has no host**, and the run without stops. -/
theorem simulates_trapped (hnoHost : alone → setting.host = none)
    (hbad : alone → ∀ active m, m.BuildsOddPolygon → bad active m) (fuel : Nat)
    (active : List Moment) :
    Simulates alone setting (Runner.trapped bad .cancelled fuel active)
      (Runner.ofFuel fuel) := by
  induction fuel generalizing active with
  | zero =>
    have hexhausted {α : Type} {M : State → State → Prop} {V : α → α → Prop} {st : State}
        (res' : EStateM.Result Exit State α) :
        Refines alone M V ((throw .exhausted : Eval α) st) res' :=
      .throw (x := .exhausted) (fun _ => trivial) res'
    exact ⟨hnoHost, rfl, fun _ _ => .trap fun _ => hexhausted _,
      fun _ _ => .trap fun _ => hexhausted _, fun _ _ _ => .trap fun _ => hexhausted _,
      fun _ _ => .trap fun _ => hexhausted _⟩
  | succ fuel ih =>
    rw [Runner.ofFuel_succ]
    refine ⟨hnoHost, rfl, fun e hM => .trap fun _ => (ih _).evaluate e hM,
      fun s hM => .trap fun _ => (ih _).execute s hM,
      fun hsymbol hblock hM => .trap fun hstart => ?_,
      fun block hM => .trap fun _ => (ih _).bodyStatements block.statements hM⟩
    refine (ih _).construct hsymbol hblock (fun halone hpolygon => ?_) hM
    subst hpolygon
    refine Classical.byContradiction fun hodd => hstart ?_
    exact hbad halone active _ ⟨rfl, rfl, hodd⟩

/-- **Runs of the same depth**, if it does not matter how they stop. -/
theorem simulates_ofFuel (setting : Setting) (fuel : Nat) :
    Simulates False setting (Runner.ofFuel fuel) (Runner.ofFuel fuel) := by
  rw [← Runner.trapped_never .cancelled fuel []]
  have h : Simulates False setting (Runner.trapped (fun _ _ => false) .cancelled fuel [])
      (Runner.ofFuel fuel) := simulates_trapped False.elim False.elim fuel []
  rwa [Runner.trapped_never] at h ⊢

end Trapped

end SceneLang
