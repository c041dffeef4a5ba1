import SceneLang.Proofs.Mirror

/-!
# Statements with and without the scope of a turn

The lemmas of `Proofs.Mirror` for the functions that run one layer of a statement or of a block:
commands, loops, definitions, imports and calls.  A loop that stands in the turn is itself mirrored
turn by turn, if the host never wants to stop.
-/

namespace SceneLang

namespace Mirrors

variable {level : Nat} {setting : Setting} {r r' : Runner} {outer outer' : List Scope}
  {st st' : State}

/-! ### Commands -/

theorem blockCommand (h : Mirrors level setting r r') (callee : Identifier) (symbol : Symbol)
    (block : BlockType) (parameter : Option Expr) (hM : Mirror level outer outer' st st') :
    Follows (Mirror level outer outer') Eq
      (r.blockCommand ⟨setting, outer⟩ callee symbol block parameter st)
      (r'.blockCommand ⟨setting, outer'⟩ callee (symbol.lower level) block parameter
        st') := by
  refine (hM.sourceIndex _).bind_eq fun _ st₁ st₁' hM₁ => ?_
  cases parameter with
  | some e =>
    refine (h.expression e hM₁).bind_eq fun v st₂ st₂' hM₂ => ?_
    dsimp only
    split
    · refine Follows.locate ?_ callee.range
      simp only [Eval.scope_bind, Env.level, hM₂.stack.push]
      refine (hM₂.block ?_).bind_eq fun w _ _ hM₃ => hM₃.addValue w
      refine ((hM₂.enter _).step (fun _ => commutes_onScope (Scope.commutes_addAll _))
        (primitive_onScope (Scope.added_addAll _))).bind_eq fun _ _ _ hM₃ => ?_
      exact h.build symbol hM₂.above hM₃
    · exact .throw _ hM₂
  | none =>
    dsimp only
    split
    · refine Follows.locate ?_ callee.range
      simp only [Eval.scope_bind, Env.level, hM₁.stack.push]
      exact (h.buildIn _ symbol hM₁).bind_eq fun w _ _ hM₂ => hM₂.addValue w
    · exact .throw _ hM₁

theorem command (h : Mirrors level setting r r') (callee : Identifier) (parameter : Option Expr)
    (hM : Mirror level outer outer' st st') :
    Follows (Mirror level outer outer') Eq (r.command ⟨setting, outer⟩ callee parameter st)
      (r'.command ⟨setting, outer'⟩ callee parameter st') := by
  simp only [Runner.command, Env.symbol?_bind, hM.stack.symbol?]
  cases Scope.symbol? (st.scope :: outer) callee.name with
  | none =>
    simp only [Option.map_none, Env.stack_bind, Scope.commandNames, hM.stack.visibleNames]
    exact .throw _ hM
  | some symbol =>
    cases symbol with
    | command c =>
      refine (h.parameter parameter c.parameter callee hM).bind_eq fun v _ _ hM₁ => ?_
      exact Follows.locate ((hM₁.run c v).bind_eq fun w _ _ hM₂ => hM₂.addValue w) _
    | property p =>
      refine (h.parameter parameter p.kind callee hM).bind_eq fun v _ _ hM₁ => ?_
      exact (hM₁.step (fun _ => commutes_set p v) (primitive_set p v)).locate _
    | constant v => exact (hM.addValue v).locate _
    | shape s => exact h.blockCommand callee (.shape s) s.blockType parameter hM
    | closure c => exact h.blockCommand callee (.closure c) c.blockType parameter hM

/-! ### Loops -/

theorem turn (h : Mirrors level setting r r') (hgoes : ∀ k, setting.isCancelled k = false)
    (binder? : Option Identifier) (body : Block) (v : Value)
    (hM : Mirror level outer outer' st st') :
    Follows (Mirror level outer outer') Eq (r.turn ⟨setting, outer⟩ binder? body v st)
      (r'.turn ⟨setting, outer'⟩ binder? body v st') := by
  simp only [Runner.turn_eq]
  refine (hM.startTurn hgoes).bind_eq fun _ st₁ st₁' hM₁ => ?_
  simp only [Eval.scope_bind, Env.level, hM₁.stack.pushLoop]
  refine hM₁.turn ?_
  have hbody : ∀ s ∈ body.statements,
      s.definesHere = false ∨ level + 1 < (st₁.scope :: outer).length :=
    fun _ _ => .inr hM₁.above
  cases binder? with
  | none => exact h.statements hbody (hM₁.enter _)
  | some name =>
    refine ((hM₁.enter _).define hM₁.above name.name (.constant v)).bind_eq fun _ _ _ hM₂ => ?_
    exact h.statements hbody hM₂

theorem overList {M : State → State → Prop} {act act' : Value → Eval Unit}
    (hact : ∀ v st st', M st st' → Follows M Eq (act v st) (act' v st')) (vs : List Value)
    (hM : M st st') : Follows M Eq (Runner.overList act vs st) (Runner.overList act' vs st') := by
  induction vs generalizing st st' with
  | nil => exact .pure rfl hM
  | cons v rest ih => exact (hact v st st' hM).bind_eq fun _ _ _ hM₁ => ih hM₁

theorem overRange {M : State → State → Prop} {act act' : Value → Eval Unit}
    (hact : ∀ v st st', M st st' → Follows M Eq (act v st) (act' v st'))
    (range : NumberRange Float) (turns i : Nat) (hM : M st st') :
    Follows M Eq (Runner.overRange act range turns i st)
      (Runner.overRange act' range turns i st') := by
  induction turns generalizing st st' i with
  | zero => exact .throw _ hM
  | succ turns ih =>
    simp only [Runner.overRange]
    cases range.item? i with
    | none => exact .pure rfl hM
    | some x => exact (hact _ st st' hM).bind_eq fun _ _ _ hM₁ => ih (i + 1) hM₁

theorem loop (h : Mirrors level setting r r') (hgoes : ∀ k, setting.isCancelled k = false)
    (binder? : Option Identifier) (sequence : Expr) (body : Block)
    (hM : Mirror level outer outer' st st') :
    Follows (Mirror level outer outer') Eq (r.loop ⟨setting, outer⟩ binder? sequence body st)
      (r'.loop ⟨setting, outer'⟩ binder? sequence body st') := by
  have hact (v : Value) (st st' : State) (hM : Mirror level outer outer' st st') :=
    h.turn hgoes binder? body v hM
  refine (h.expression sequence hM).bind_eq fun v st₁ st₁' hM₁ => ?_
  rw [h.turns]
  split
  · exact overRange hact _ _ _ hM₁
  · exact overRange hact _ _ _ hM₁
  · exact overList hact _ hM₁
  · exact .throw _ hM₁

/-! ### Definitions -/

theorem optionKinds (h : Mirrors level setting r r') (options : Bindings Kind)
    (ss : List Statement) (hM : Mirror level outer outer' st st') :
    Follows (Mirror level outer outer') Eq (r.optionKinds ⟨setting, outer⟩ options ss st)
      (r'.optionKinds ⟨setting, outer'⟩ options ss st') := by
  induction ss generalizing st st' options with
  | nil => exact .pure rfl hM
  | cons s rest ih =>
    cases s with
    | option range name default =>
      exact (h.expression default hM).bind_eq fun v _ _ hM₁ => ih _ hM₁
    | _ => exact ih options hM

theorem definition (h : Mirrors level setting r r') (d : Definition)
    (hM : Mirror level outer outer' st st') :
    Follows (Mirror level outer outer') (fun symbol symbol' => symbol' = symbol.lower level)
      (r.definition ⟨setting, outer⟩ d st)
      (r'.definition ⟨setting, outer'⟩ d st') := by
  cases d with
  | expression e =>
    simp only [Runner.definition, Eval.scope_bind, Env.level]
    have hscope : st'.scope.pushDefinition outer'.length
        = (st.scope.pushDefinition outer.length).lower level := by
      rw [Scope.pushDefinition, hM.stack.push]
      rfl
    rw [hscope]
    refine (hM.block (h.expression e (hM.enter _))).bind_eq fun v _ _ hM₁ => .pure ?_ hM₁
    unfold Runner.constantOf
    split <;> rfl
  | block body =>
    simp only [Runner.definition]
    refine (h.optionKinds _ body.statements hM).bind_eq fun options st₁ st₁' hM₁ => ?_
    simp only [Eval.scope_bind, Env.level]
    refine .pure ?_ hM₁
    rw [← hM₁.stack.lowered_length, hM₁.eq_seated]
    rfl

/-! ### Imports -/

/-- Another file for a scope above the turn. -/
theorem inFile (habove : level + 1 < outer.length) (file : Option FilePath)
    (hM : Mirror level outer outer' st st') :
    Mirror level outer outer' { st with scope := { st.scope with file } }
      { st' with scope := { st'.scope with file } } :=
  hM.modify habove (fun s => { s with file }) (fun s => { s with file }) fun _ => rfl

/-- Both runs put the file on the stack of imports. -/
theorem entering (habove : level + 1 < outer.length) (place : FilePath)
    (hM : Mirror level outer outer' st st') :
    Mirror level outer outer' (st.entering place) (st'.entering place) where
  stack := (inFile habove (some place) hM).stack
  world := congrArg (World.enterFile · place) hM.world

/-- Both runs take off the top of the stack of imports. -/
theorem leaving (habove : level + 1 < outer.length) (file : Option FilePath)
    (hM : Mirror level outer outer' st st') :
    Mirror level outer outer' (Runner.leaveScript file st) (Runner.leaveScript file st') where
  stack := (inFile habove file hM).stack
  world := congrArg World.leaveFile hM.world

theorem program (h : Mirrors level setting r r') (habove : level + 1 < outer.length) (p : Program)
    (hM : Mirror level outer outer' st st') :
    Follows (Mirror level outer outer') Eq (r.program ⟨setting, outer⟩ p st)
      (r'.program ⟨setting, outer'⟩ p st') := by
  have hsource := hM.read Scope.source fun _ _ => rfl
  have hset (text : String) {st st' : State} (hM : Mirror level outer outer' st st') :=
    hM.modify habove (fun s => { s with source := text }) (fun s => { s with source := text })
      fun _ => rfl
  simp only [Runner.program, Eval.scope_bind, hsource]
  exact (h.statements (fun _ _ => .inr habove) (hset p.source hM)).settle fun _ _ hM₁ =>
    hset st.scope.source hM₁

theorem importScript (h : Mirrors level setting r r') (habove : level + 1 < outer.length)
    (host : Host) (path : String) (place : FilePath) (hM : Mirror level outer outer' st st') :
    Follows (Mirror level outer outer') Eq
      (r.importScript ⟨setting, outer⟩ host path place st)
      (r'.importScript ⟨setting, outer'⟩ host path place st') := by
  rcases Runner.importScript_cases setting host path place st.world.importing with
    ⟨x, hx⟩ | ⟨hplace, text, p, -, -, hrun⟩
  · rw [hx r outer st rfl, hx r' outer' st' hM.importing]
    exact .error x hM
  · have hplace' : place ∉ st'.world.importing := hM.importing ▸ hplace
    rw [hrun r outer st hplace, hrun r' outer' st' hplace', hM.read Scope.file fun _ _ => rfl]
    exact Follows.settle (Follows.mapExit (h.program habove p (entering habove place hM)) rfl)
      fun _ _ hM₁ => leaving habove st.scope.file hM₁

theorem importFile (h : Mirrors level setting r r') (habove : level + 1 < outer.length)
    (path : String) (hM : Mirror level outer outer' st st') :
    Follows (Mirror level outer outer') Eq (r.importFile ⟨setting, outer⟩ path st)
      (r'.importFile ⟨setting, outer'⟩ path st') := by
  refine (hM.step (fun _ => commutes_resolve setting path)
    (primitive_resolve setting path)).bind_eq fun place _ _ hM₁ => ?_
  dsimp only
  cases setting.host with
  | none => exact .throw _ hM₁
  | some host =>
    dsimp only
    split
    · exact h.importScript habove host path place hM₁
    · cases host.importNode place with
      | error x => exact .error _ hM₁
      | ok node =>
        cases node with
        | none => exact .pure rfl hM₁
        | some node => exact hM₁.addValue (.mesh node)

theorem importStatement (h : Mirrors level setting r r') (habove : level + 1 < outer.length)
    (e : Expr) (hM : Mirror level outer outer' st st') :
    Follows (Mirror level outer outer') Eq (r.importStatement ⟨setting, outer⟩ e st)
      (r'.importStatement ⟨setting, outer'⟩ e st') := by
  refine (h.expression e hM).bind_eq fun v _ _ hM₁ => ?_
  cases v with
  | string path? =>
    cases path? with
    | none => exact .throw _ hM₁
    | some path =>
      refine (hM₁.sourceIndex _).bind_eq fun _ _ _ hM₂ => ?_
      exact (h.importFile habove path hM₂).locate _
  | _ => exact .throw _ hM₁

/-! ### All statements and blocks -/

/-- **What a statement does.** -/
theorem execute (h : Mirrors level setting r r') (hgoes : ∀ k, setting.isCancelled k = false)
    {s : Statement} (hs : s.definesHere = false ∨ level + 1 < outer.length)
    (hM : Mirror level outer outer' st st') :
    Follows (Mirror level outer outer') Eq (r.execute ⟨setting, outer⟩ s st)
      (r'.execute ⟨setting, outer'⟩ s st') := by
  cases s with
  | command range callee parameter => exact h.command callee parameter hM
  | block range callee body =>
    refine (hM.sourceIndex _).bind_eq fun _ _ _ hM₁ => ?_
    exact (h.expression _ hM₁).bind_eq fun v _ _ hM₂ => (hM₂.addValue v).locate range
  | expression range e =>
    exact (h.expression e hM).bind_eq fun v _ _ hM₁ => (hM₁.addValue v).locate range
  | define range name d =>
    -- directly in the turn the name would outlive it in the second run
    have habove := hs.resolve_left nofun
    refine (h.definition d hM).bind fun symbol symbol' _ _ hsymbol hM₁ => ?_
    subst hsymbol
    exact hM₁.define habove name.name symbol
  | option range name default => exact .throw _ hM
  | loop range binder? sequence body => exact h.loop hgoes binder? sequence body hM
  | importFile range e => exact h.importStatement (hs.resolve_left nofun) e hM

/-- A call of a defined block, whose body starts where that of the second run does. -/
theorem call (h : Mirrors level setting r r') (habove : level + 1 < outer.length) (c : Closure)
    (hM : Mirror level outer outer' st st') :
    Follows (Mirror level outer outer') Eq (r.call ⟨setting, outer⟩ c st)
      (r'.call ⟨setting, outer'⟩ (c.lower level) st') := by
  cases hlevel : Scope.atLevel? outer c.level with
  | none =>
    rw [Runner.call_of_none hlevel,
      Runner.call_of_none ((hM.stack.above_inv habove).2.atLevel?_none hlevel)]
    exact .error _ hM
  | some defining =>
    obtain ⟨defining', hlevel', hscope⟩ := hM.stack.bodyScope habove c hlevel
    have hdepth := hM.read Scope.depth fun _ _ => rfl
    rcases Nat.lt_or_ge st.scope.depth Runner.deepestCall with hlt | hge
    · rw [Runner.call_of_body hlevel hlt, Runner.call_of_body hlevel' (hdepth ▸ hlt), hscope]
      have hbody : Follows (Mirror level (st.scope :: outer) (st'.scope :: outer')) Eq
          (r.body ⟨setting, st.scope :: outer⟩ c.body
            { st with scope := Runner.bodyScope c defining st.scope })
          (r'.body ⟨setting, st'.scope :: outer'⟩ c.body
            { st' with scope := ((Runner.bodyScope c defining st.scope).inTurn level
                (st.scope :: outer)).lower level }) :=
        h.body c.body hM.above (hM.enter _)
      have hleave (st₁ st₁' : State)
          (hM₁ : Mirror level (st.scope :: outer) (st'.scope :: outer') st₁ st₁') :
          Mirror level outer outer' { st₁ with scope := st.scope }
            { st₁' with scope := st'.scope } :=
        ⟨hM.stack, hM₁.world⟩
      refine Follows.settle (hbody.bind_eq fun _ st₁ st₁' hM₁ => ?_) hleave
      have hresult := hM₁.read Runner.resultOf fun _ => resultOf_seated
      simp only [Eval.scope_bind, hresult]
      cases Runner.resultOf st₁.scope with
      | ok v => exact .pure rfl hM₁
      | error f => exact .throw _ hM₁
    · rw [Runner.call_of_deep hlevel hge, Runner.call_of_deep hlevel' (hdepth ▸ hge)]
      exact .error _ hM

/-- A standard block, which is built above the turn and so has its options in both runs. -/
theorem shape (habove : level + 1 < outer.length) (s : Shape)
    (hM : Mirror level outer outer' st st') :
    Follows (Mirror level outer outer') Eq (s.build setting st) (s.build setting st') := by
  refine hM.step_of_seated (primitive_build setting s) (build_seated setting s ?_)
  obtain ⟨hscope, -⟩ := hM.stack.above_inv habove
  have hoption : (st.scope.lower level).option? "sides" = st.scope.option? "sides" := by
    unfold Scope.option? Scope.lower
    rw [Bindings.get?_lower]
    cases st.scope.definitions.get? "sides" with
    | none => rfl
    | some symbol => cases symbol <;> rfl
  have hseat : st.scope.seated st'.seat = st'.scope := congrArg State.scope hM.eq_seated.symm
  rw [hseat, hscope, hoption]

/-- **What a block builds.** -/
theorem construct (h : Mirrors level setting r r') (habove : level + 1 < outer.length)
    (symbol : Symbol) (hM : Mirror level outer outer' st st') :
    Follows (Mirror level outer outer') Eq (r.construct ⟨setting, outer⟩ symbol st)
      (r'.construct ⟨setting, outer'⟩ (symbol.lower level) st') := by
  cases symbol with
  | shape s => exact shape habove s hM
  | closure c =>
    have hcall : Follows (Mirror level outer outer') Eq (r.call ⟨setting, outer⟩ c st)
        (r'.call ⟨setting, outer'⟩ (c.lower level) st') :=
      h.call habove c hM
    show Follows _ _ (r.callFromFile _ c st) (r'.callFromFile _ (c.lower level) st')
    rw [Runner.callFromFile_apply, Runner.callFromFile_apply, hM.read Scope.file fun _ _ => rfl]
    show Follows _ _ (if st.scope.file = c.file then _ else _)
      (if st.scope.file = c.file then _ else _)
    split
    · exact hcall
    · exact hcall.mapExit rfl
  | _ => exact .throw _ hM

end Mirrors

end SceneLang
