import SceneLang.Proofs.RaisedRuns

/-!
# Statements above a gap

The lemmas of `Proofs.RaisedRuns` for the functions that run one layer of a statement or of a block:
commands, loops, definitions, imports and calls.  With them all runners overlook a gap
(`overlooks_ofFuel`).
-/

namespace SceneLang

namespace Overlooks

variable {g : Gap} {setting : Setting} {r : Runner} {outer outer' : List Scope} {st st' : State}

/-! ### Commands -/

theorem blockCommand (h : Overlooks g setting r) (callee : Identifier) {y y' : Symbol}
    (hy : y.Raised g y') (block : BlockType) (parameter : Option Expr)
    (hM : Lifted g outer outer' st st') :
    Matches (Lifted g outer outer') Eq
      (r.blockCommand ⟨setting, outer⟩ callee y block parameter st)
      (r.blockCommand ⟨setting, outer'⟩ callee y' block parameter st') := by
  refine (hM.sourceIndex _ _).bind_eq fun _ st₁ st₁' hM₁ => ?_
  cases parameter with
  | some e =>
    refine (h.expression e hM₁).bind fun v v' st₂ st₂' hv hM₂ => ?_
    have hkinds : v'.unwrap.elements.all (fun c => block.childKinds.contains c.kind)
        = v.unwrap.elements.all fun c => block.childKinds.contains c.kind := by
      have hbare (vs : List Value) : vs.all (fun c => block.childKinds.contains c.kind)
          = (vs.map Value.bare).all fun c => block.childKinds.contains c.kind := by
        simp [List.all_map, Function.comp_def]
      rw [hbare, hv.unwrap.elements.bare, ← hbare]
    dsimp only
    rw [hkinds]
    split
    · refine Matches.locate ?_ callee.range
      simp only [Eval.scope_bind, Env.level]
      have hpush := hM₂.scope.push outer.length outer'.length block
      refine (hM₂.block ?_).bind fun w w' _ _ hw hM₃ => hM₃.addValue hw
      refine ((hM₂.inner hpush rfl rfl).addAll hv.unwrap.elements).bind_eq fun _ _ _ hM₃ => ?_
      exact h.build hy hM₃
    · rw [hv.unwrap.kind]
      exact .throw _ hM₂
  | none =>
    dsimp only
    split
    · refine Matches.locate ?_ callee.range
      simp only [Eval.scope_bind, Env.level]
      have hpush := hM₁.scope.push outer.length outer'.length block
      refine (h.buildIn hy (hM₁.inner hpush rfl rfl) hM₁).bind fun w w' _ _ hw hM₂ => ?_
      exact hM₂.addValue hw
    · exact .throw _ hM₁

theorem command (h : Overlooks g setting r) (callee : Identifier) (parameter : Option Expr)
    (hM : Lifted g outer outer' st st') :
    Matches (Lifted g outer outer') Eq (r.command ⟨setting, outer⟩ callee parameter st)
      (r.command ⟨setting, outer'⟩ callee parameter st') := by
  simp only [Runner.command, Env.symbol?_bind]
  rcases hM.symbol callee.name with ⟨hnone, hnone'⟩ | ⟨y, y', hy, hy', hsymbol⟩
  · rw [hnone, hnone']
    simp only [Env.stack_bind, Scope.commandNames, hM.visibleNames]
    exact .throw _ hM
  · rw [hy, hy']
    have hblock (block : BlockType) :=
      h.blockCommand callee hsymbol block parameter hM
    cases hsymbol with
    | command c =>
      refine (h.parameter parameter c.parameter callee hM).bind fun v v' _ _ hv hM₁ => ?_
      refine Matches.locate ?_ callee.range
      exact (hM₁.run c hv).bind fun w w' _ _ hw hM₂ => hM₂.addValue hw
    | property p =>
      refine (h.parameter parameter p.kind callee hM).bind fun v v' _ _ hv hM₁ => ?_
      refine Matches.locate ?_ callee.range
      exact hM₁.step (primitive_set p v) (primitive_set p v') (hM₁.resembles.set p hv)
    | constant hv => exact (hM.addValue hv).locate _
    | shape s => exact hblock s.blockType
    | closure c => exact hblock c.blockType

/-! ### Loops -/

theorem turn (h : Overlooks g setting r) (binder? : Option Identifier) (body : Block) {v v' : Value}
    (hv : v.Akin False v') (hM : Lifted g outer outer' st st') :
    Matches (Lifted g outer outer') Eq (r.turn ⟨setting, outer⟩ binder? body v st)
      (r.turn ⟨setting, outer'⟩ binder? body v' st') := by
  simp only [Runner.turn_eq]
  refine hM.startTurn.bind_eq fun _ st₁ st₁' hM₁ => ?_
  simp only [Eval.scope_bind, Env.level]
  have hloop := hM₁.inner (hM₁.scope.pushLoop outer.length outer'.length) rfl rfl
  refine hM₁.turn ?_
  cases binder? with
  | none => exact h.statements _ hloop
  | some name =>
    refine (hloop.define name.name (.constant hv)).bind_eq fun _ _ _ hM₂ => ?_
    exact h.statements _ hM₂

theorem overList {M : State → State → Prop} {act act' : Value → Eval Unit}
    (hact : ∀ v v' st st', v.Akin False v' → M st st' → Matches M Eq (act v st) (act' v' st'))
    {vs vs' : List Value} (hvs : Value.AllAkin False vs vs') (hM : M st st') :
    Matches M Eq (Runner.overList act vs st) (Runner.overList act' vs' st') := by
  induction vs generalizing vs' st st' with
  | nil =>
    obtain rfl := hvs.eq_nil
    exact .pure rfl hM
  | cons v rest ih =>
    obtain ⟨v', rest', rfl, hv, hrest⟩ := hvs.exists_cons
    exact (hact v v' st st' hv hM).bind_eq fun _ _ _ hM₁ => ih hrest hM₁

theorem overRange {M : State → State → Prop} {act act' : Value → Eval Unit}
    (hact : ∀ v v' st st', v.Akin False v' → M st st' → Matches M Eq (act v st) (act' v' st'))
    (range : NumberRange Float) (turns i : Nat) (hM : M st st') :
    Matches M Eq (Runner.overRange act range turns i st)
      (Runner.overRange act' range turns i st') := by
  induction turns generalizing st st' i with
  | zero => exact .throw _ hM
  | succ turns ih =>
    simp only [Runner.overRange]
    cases range.item? i with
    | none => exact .pure rfl hM
    | some x =>
      have hx : (Value.number x).Akin False (.number x) := .flat _ rfl
      exact (hact _ _ st st' hx hM).bind_eq fun _ _ _ hM₁ => ih (i + 1) hM₁

theorem loop (h : Overlooks g setting r) (binder? : Option Identifier) (sequence : Expr)
    (body : Block) (hM : Lifted g outer outer' st st') :
    Matches (Lifted g outer outer') Eq (r.loop ⟨setting, outer⟩ binder? sequence body st)
      (r.loop ⟨setting, outer'⟩ binder? sequence body st') := by
  have hact (v v' : Value) (st st' : State) (hv : v.Akin False v')
      (hM : Lifted g outer outer' st st') := h.turn binder? body hv hM
  refine (h.expression sequence hM).bind fun v v' st₁ st₁' hv hM₁ => ?_
  have hrange (range : NumberRange Float) := overRange hact range r.turns 0 hM₁
  have hlist {vs vs' : List Value} (hvs : Value.AllAkin False vs vs') := overList hact hvs hM₁
  split
  · obtain rfl := hv.eq rfl
    exact hrange _
  · obtain ⟨vs', rfl, hvs⟩ := hv.exists_tuple
    obtain ⟨w', rest', rfl, hw, hrest⟩ := hvs.exists_cons
    obtain rfl := hrest.eq_nil
    obtain rfl := hw.eq rfl
    exact hrange _
  · next vs hne =>
    obtain ⟨vs', rfl, hvs⟩ := hv.exists_tuple
    match vs' with
    | [] => exact hlist hvs
    | [w'] =>
      cases w' with
      | range range =>
        -- a range has no places, so the first run goes through it as well
        have hrange : vs = [.range range] := Value.eq_of_map_bare hvs.bare.symm fun w hw => by
          rw [List.mem_singleton.mp hw]
          rfl
        exact (hne range hrange).elim
      | _ => exact hlist hvs
    | w' :: next' :: rest' => cases w' <;> exact hlist hvs
  · next hnoRange _ hnoTuple =>
    cases v with
    | range range => exact (hnoRange range rfl).elim
    | tuple vs => exact (hnoTuple vs rfl).elim
    | mesh n =>
      obtain ⟨n', rfl, -⟩ := Value.exists_of_bare_mesh hv.bare
      exact .throw _ hM₁
    | _ =>
      obtain rfl := hv.eq rfl
      exact .throw _ hM₁

/-! ### Definitions -/

theorem optionKinds (h : Overlooks g setting r) (options : Bindings Kind) (ss : List Statement)
    (hM : Lifted g outer outer' st st') :
    Matches (Lifted g outer outer') Eq (r.optionKinds ⟨setting, outer⟩ options ss st)
      (r.optionKinds ⟨setting, outer'⟩ options ss st') := by
  induction ss generalizing st st' options with
  | nil => exact .pure rfl hM
  | cons s rest ih =>
    cases s with
    | option range name default =>
      refine (h.expression default hM).bind fun v v' _ _ hv hM₁ => ?_
      rw [hv.kind]
      exact ih _ hM₁
    | _ => exact ih options hM

theorem definition (h : Overlooks g setting r) (d : Definition)
    (hM : Lifted g outer outer' st st') :
    Matches (Lifted g outer outer') (Symbol.Raised g) (r.definition ⟨setting, outer⟩ d st)
      (r.definition ⟨setting, outer'⟩ d st') := by
  cases d with
  | expression e =>
    simp only [Runner.definition, Eval.scope_bind, Env.level]
    have hinner := hM.inner (hM.scope.pushDefinition outer.length outer'.length) rfl rfl
    refine (hM.block (h.expression e hinner)).bind fun v v' _ _ hv hM₁ => .pure ?_ hM₁
    cases v with
    | tuple vs =>
      obtain ⟨vs', rfl, hvs⟩ := hv.exists_tuple
      exact .constant hvs.tuple
    | mesh n =>
      obtain ⟨n', rfl, -⟩ := Value.exists_of_bare_mesh hv.bare
      exact .constant (Value.AllAkin.singleton hv).tuple
    | _ =>
      obtain rfl := hv.eq rfl
      exact .constant (Value.AllAkin.singleton hv).tuple
  | block body =>
    simp only [Runner.definition]
    refine (h.optionKinds _ body.statements hM).bind_eq fun options st₁ st₁' hM₁ => ?_
    simp only [Eval.scope_bind, Env.level]
    refine .pure ?_ hM₁
    -- the block remembers its height, which the gap has raised
    rw [← hM₁.below.raise_length, hM₁.scope.seen.source, hM₁.scope.seen.file]
    exact .closure ⟨body, options, outer.length, st₁.scope.source, st₁.scope.file⟩

/-! ### Imports -/

theorem program (h : Overlooks g setting r) (p : Program) (hM : Lifted g outer outer' st st') :
    Matches (Lifted g outer outer') Eq (r.program ⟨setting, outer⟩ p st)
      (r.program ⟨setting, outer'⟩ p st') := by
  simp only [Runner.program, Eval.scope_bind, hM.scope.seen.source]
  exact (h.statements _ (hM.source p.source)).settle fun _ _ hM₁ => hM₁.source _

theorem importScript (h : Overlooks g setting r) (host : Host) (path : String) (place : FilePath)
    (hM : Lifted g outer outer' st st') :
    Matches (Lifted g outer outer') Eq
      (r.importScript ⟨setting, outer⟩ host path place st)
      (r.importScript ⟨setting, outer'⟩ host path place st') := by
  rcases Runner.importScript_cases setting host path place st.world.importing with
    ⟨x, hx⟩ | ⟨hplace, text, p, -, -, hrun⟩
  · rw [hx r outer st rfl, hx r outer' st' hM.importing]
    exact .error x hM
  · have hplace' : place ∉ st'.world.importing := hM.importing ▸ hplace
    rw [hrun r outer st hplace, hrun r outer' st' hplace', hM.scope.seen.file]
    exact Matches.settle ((h.program p (hM.entering place)).mapExit _)
      fun _ _ hM₁ => hM₁.leaving _

theorem importFile (h : Overlooks g setting r) (path : String)
    (hM : Lifted g outer outer' st st') :
    Matches (Lifted g outer outer') Eq (r.importFile ⟨setting, outer⟩ path st)
      (r.importFile ⟨setting, outer'⟩ path st') := by
  refine (hM.blind (primitive_resolve setting path) (blind_resolve setting path)).bind_eq
    fun place _ _ hM₁ => ?_
  dsimp only
  cases setting.host with
  | none => exact .throw _ hM₁
  | some host =>
    dsimp only
    split
    · exact h.importScript host path place hM₁
    · cases host.importNode place with
      | error x => exact .error _ hM₁
      | ok node =>
        cases node with
        | none => exact .pure rfl hM₁
        | some node => exact hM₁.addValue (.of_bare rfl)

theorem importStatement (h : Overlooks g setting r) (e : Expr)
    (hM : Lifted g outer outer' st st') :
    Matches (Lifted g outer outer') Eq (r.importStatement ⟨setting, outer⟩ e st)
      (r.importStatement ⟨setting, outer'⟩ e st') := by
  refine (h.expression e hM).bind fun v v' _ _ hv hM₁ => ?_
  cases v with
  | string path? =>
    obtain rfl := hv.eq rfl
    cases path? with
    | none => exact .throw _ hM₁
    | some path =>
      refine (hM₁.sourceIndex _ _).bind_eq fun _ _ _ hM₂ => ?_
      exact (h.importFile path hM₂).locate _
  | mesh n =>
    obtain ⟨n', rfl, -⟩ := Value.exists_of_bare_mesh hv.bare
    exact .throw _ hM₁
  | tuple vs =>
    obtain ⟨vs', rfl, -⟩ := hv.exists_tuple
    exact .throw _ hM₁
  | _ =>
    obtain rfl := hv.eq rfl
    exact .throw _ hM₁

/-! ### All statements and blocks -/

/-- **What a statement does.** -/
theorem execute (h : Overlooks g setting r) (s : Statement) (hM : Lifted g outer outer' st st') :
    Matches (Lifted g outer outer') Eq (r.execute ⟨setting, outer⟩ s st)
      (r.execute ⟨setting, outer'⟩ s st') := by
  cases s with
  | command range callee parameter => exact h.command callee parameter hM
  | block range callee body =>
    refine (hM.sourceIndex _ _).bind_eq fun _ _ _ hM₁ => ?_
    refine (h.expression _ hM₁).bind fun v v' _ _ hv hM₂ => ?_
    exact (hM₂.addValue hv).locate range
  | expression range e =>
    exact (h.expression e hM).bind fun v v' _ _ hv hM₁ => (hM₁.addValue hv).locate range
  | define range name d =>
    exact (h.definition d hM).bind fun y y' _ _ hy hM₁ => hM₁.define name.name hy
  | option range name default => exact .throw _ hM
  | loop range binder? sequence body => exact h.loop binder? sequence body hM
  | importFile range e => exact h.importStatement e hM

/-- **The value of a body**, made of the scope that it leaves. -/
theorem bodyValue (h : Overlooks g setting r) (block : Block) (hM : Lifted g outer outer' st st') :
    Matches (Lifted g outer outer') (Value.Akin False)
      ((r.body ⟨setting, outer⟩ block >>= fun _ => Eval.scope >>= fun s =>
        Step.ofExcept (Runner.resultOf s)) st)
      ((r.body ⟨setting, outer'⟩ block >>= fun _ => Eval.scope >>= fun s =>
        Step.ofExcept (Runner.resultOf s)) st') := by
  have hresult : Primitive (fun _ => True) .expression .unplaced
      (Eval.scope >>= fun s => Step.ofExcept (Runner.resultOf s)) :=
    .scope_bind fun _ => .ofExcept _
  refine (h.body block hM).bind_eq fun _ _ _ hM₁ => ?_
  exact hM₁.step hresult hresult hM₁.resembles.result

/-- **A call of a defined block**, whose body starts from the same scope in both runs. -/
theorem call (h : Overlooks g setting r) (c : Closure) (hM : Lifted g outer outer' st st') :
    Matches (Lifted g outer outer') (Value.Akin False) (r.call ⟨setting, outer⟩ c st)
      (r.call ⟨setting, outer'⟩ (c.raise g) st') := by
  rcases Lifted.atLevel hM.below c.level with
    ⟨hnone, hnone'⟩ | ⟨defining, defining', hlevel, hlevel', hdefining⟩
  · rw [Runner.call_of_none hnone, Runner.call_of_none hnone']
    exact .error _ hM
  -- both are stopped at the same depth
  have hdepth := hM.scope.seen.read Scope.depth (fun _ => rfl) fun _ _ => rfl
  rcases Nat.lt_or_ge st.scope.depth Runner.deepestCall with hlt | hge
  · rw [Runner.call_of_body hlevel hlt, Runner.call_of_body hlevel' (hdepth ▸ hlt)]
    have hbody := hM.enter (hdefining.body hM.scope c) rfl
    refine (h.bodyValue c.body hbody).settle fun _ _ hM₁ => ?_
    exact ⟨hM.scope, hM.parent, hM.below, hM₁.world⟩
  · rw [Runner.call_of_deep hlevel hge, Runner.call_of_deep hlevel' (hdepth ▸ hge)]
    exact .error _ hM

/-- **What a block builds.** -/
theorem construct (h : Overlooks g setting r) {y y' : Symbol} (hy : y.Raised g y')
    (hM : Lifted g outer outer' st st') :
    Matches (Lifted g outer outer') (Value.Akin False)
      (r.construct ⟨setting, outer⟩ y st) (r.construct ⟨setting, outer'⟩ y' st') := by
  cases hy with
  | shape s =>
    exact hM.step (primitive_build setting s) (primitive_build setting s)
      (hM.resembles.build s hM.scope.sides)
  | closure c =>
    have hcall := h.call c hM
    show Matches _ _ (r.callFromFile _ c st) (r.callFromFile _ (c.raise g) st')
    rw [Runner.callFromFile_apply, Runner.callFromFile_apply, hM.scope.seen.file]
    show Matches _ _ (if st.scope.file = c.file then _ else _)
      (if st.scope.file = c.file then _ else _)
    split
    · exact hcall
    · exact hcall.mapExit _
  | _ => exact .throw _ hM

end Overlooks

/-- **Everything that a script does, it does above a gap as without it.** -/
theorem overlooks_ofFuel (g : Gap) (setting : Setting) (fuel : Nat) :
    Overlooks g setting (Runner.ofFuel fuel) := by
  induction fuel with
  | zero =>
    exact ⟨fun _ hM => .error .exhausted hM, fun _ hM => .error .exhausted hM,
      fun _ hM => .error .exhausted hM, fun _ hM => .error .exhausted hM⟩
  | succ fuel ih =>
    rw [Runner.ofFuel_succ]
    exact ⟨fun e hM => ih.evaluate e hM, fun s hM => ih.execute s hM,
      fun hy hM => ih.construct hy hM, fun block hM => ih.bodyStatements block.statements hM⟩

end SceneLang
