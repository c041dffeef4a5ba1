import SceneLang.Proofs.LocalBindings
import SceneLang.Proofs.Tables

/-!
# What names stand for in the body of a block

The body of a defined block runs in a scope of its own below the scope of the definition, and takes
over the names of its caller.  So a name stands for what the block of the call last bound it to, or
else for what it stands for among the definitions that the caller sees, or else among those that the
scope of the definition sees, or else for its standard meaning (`BlockCall.resolve?`).  This holds
of every call at every moment of every run (`Program.calls_resolve_names`).

The body can bind names itself.  An option in it is given its default exactly if its name stands for
nothing when the body starts and no earlier statement of the body has bound it.
-/

namespace SceneLang

/-- **What a statement of the block of a call does.**  A command that is named like an option binds
the value of its argument, coerced to the kind of the option. -/
inductive CallStep (fuel : Nat) (env : Env) (options : Bindings Kind) :
    Statement → State → List Binding → State → Prop
  /-- A command sets an option. -/
  | option {range : SourceRange} {callee : Identifier} {e : Option Expr} {kind : Kind} {v : Value}
    {st st₁ : State} (hkind : options.get? callee.name = some kind)
    (hv : (Runner.ofFuel fuel).parameter env e kind callee st = .ok v st₁) :
    CallStep fuel env options (.command range callee e) st [(callee.name, .constant v)]
      { st₁ with scope := st₁.scope.define callee.name (.constant v) }
  /-- Anything else is run as anywhere else. -/
  | other {s : Statement} {st st₁ : State} {made : List Binding}
    (hs : ∀ range callee e, s = .command range callee e → options.get? callee.name = none)
    (hmade : Makes fuel env s st made st₁) : CallStep fuel env options s st made st₁

/-- **What a statement of the body of a block does.**  An option binds the value of its default if
its name stands for nothing. -/
inductive BodyStep (fuel : Nat) (env : Env) : Statement → State → List Binding → State → Prop
  /-- The name stands for something, and the default is not evaluated. -/
  | given {range : SourceRange} {name : Identifier} {default : Expr} {st : State}
    (hname : (Scope.symbol? (st.scope :: env.enclosing) name.name).isSome) :
    BodyStep fuel env (.option range name default) st [] st
  /-- The name stands for nothing. -/
  | default {range : SourceRange} {name : Identifier} {default : Expr} {v : Value} {st st₁ : State}
    (hname : Scope.symbol? (st.scope :: env.enclosing) name.name = none)
    (hv : runExpression fuel env default st = .ok v st₁) :
    BodyStep fuel env (.option range name default) st [(name.name, .constant v)]
      { st₁ with scope := st₁.scope.define name.name (.constant v) }
  /-- Anything else is run as anywhere else. -/
  | other {s : Statement} {st st₁ : State} {made : List Binding}
    (hs : ∀ range name default, s ≠ .option range name default)
    (hmade : Makes fuel env s st made st₁) : BodyStep fuel env s st made st₁

/-! ### The statements of calls and of bodies -/

namespace Runner

variable {r : Runner} {env : Env} {st : State}

theorem bodyStatements_append (before after : List Statement) :
    r.bodyStatements env (before ++ after)
      = r.bodyStatements env before >>= fun _ => r.bodyStatements env after := by
  induction before with
  | nil => rfl
  | cons s rest ih =>
    cases s with
    | option range name default =>
      simp only [List.cons_append, bodyStatements, ih, bind_assoc]
      congr 1
      funext found
      split
      · simp only [bind_assoc]
      · rfl
    | _ => simp only [List.cons_append, bodyStatements, ih, bind_assoc]

/-- **An option in a body** is given its default if its name stands for nothing. -/
theorem bodyStatements_option (range : SourceRange) (name : Identifier) (default : Expr)
    (rest : List Statement) :
    r.bodyStatements env (.option range name default :: rest) st
      = if (Scope.symbol? (st.scope :: env.enclosing) name.name).isNone then
          (do
            let v ← r.expression env default
            Eval.modifyScope fun s => s.define name.name (.constant v)
            r.bodyStatements env rest) st
        else r.bodyStatements env rest st := by
  rw [bodyStatements, Env.symbol?_bind]
  split <;> rfl

end Runner

section Steps

variable {fuel : Nat} {env : Env} {ss : List Statement} {st st' : State}

/-- **The block of a call that runs to its end makes bindings.** -/
theorem exists_chained_callBody {options : Bindings Kind}
    (h : (Runner.ofFuel fuel).callBody env options ss st = .ok () st') :
    ∃ made, Chained (CallStep fuel env options) ss st made st' ∧
      st'.scope.definitions = st.scope.definitions.update ⟨made⟩ := by
  refine exists_chained (fun st st' hrun => ?_) (fun s rest st st' hrun => ?_) h
  · cases hrun
    rfl
  cases s with
  | option range name default => cases hrun
  | command range callee e =>
    rw [Runner.callBody] at hrun
    cases hkind : options.get? callee.name with
    | none =>
      rw [hkind] at hrun
      obtain ⟨made, st₁, hmade, hdefinitions, hrest⟩ := exists_makes_of_bind hrun
      refine ⟨made, st₁, .other ?_ hmade, hdefinitions, hrest⟩
      rintro _ _ _ ⟨⟩
      exact hkind
    | some kind =>
      rw [hkind] at hrun
      obtain ⟨v, st₁, hv, hrun⟩ := Step.bind_eq_ok_iff.mp hrun
      refine ⟨_, _, .option hkind hv, ?_, hrun⟩
      have hkeeps := (keepsNames_parameter e kind callee).of_ok hv
      exact congrArg (Bindings.set · callee.name (.constant v)) hkeeps
  | _ =>
    obtain ⟨made, st₁, hmade, hdefinitions, hrest⟩ := exists_makes_of_bind hrun
    refine ⟨made, st₁, .other ?_ hmade, hdefinitions, hrest⟩
    rintro _ _ _ ⟨⟩

/-- **Statements of a body that run to their end make bindings.** -/
theorem exists_chained_bodyStatements
    (h : (Runner.ofFuel fuel).bodyStatements env ss st = .ok () st') :
    ∃ made, Chained (BodyStep fuel env) ss st made st' ∧
      st'.scope.definitions = st.scope.definitions.update ⟨made⟩ := by
  refine exists_chained (fun st st' hrun => ?_) (fun s rest st st' hrun => ?_) h
  · cases hrun
    rfl
  cases s with
  | option range name default =>
    rw [Runner.bodyStatements_option] at hrun
    cases hname : Scope.symbol? (st.scope :: env.enclosing) name.name with
    | some symbol =>
      rw [hname] at hrun
      exact ⟨[], st, .given (by rw [hname]; rfl), rfl, hrun⟩
    | none =>
      rw [hname] at hrun
      obtain ⟨v, st₁, hv, hrun⟩ := Step.bind_eq_ok_iff.mp hrun
      refine ⟨_, _, .default hname hv, ?_, hrun⟩
      have hkeeps := (keepsNames_expression default).of_ok hv
      exact congrArg (Bindings.set · name.name (.constant v)) hkeeps
  | _ =>
    obtain ⟨made, st₁, hmade, hdefinitions, hrest⟩ := exists_makes_of_bind hrun
    refine ⟨made, st₁, .other ?_ hmade, hdefinitions, hrest⟩
    rintro _ _ _ ⟨⟩

/-- The block of a call changes nothing of its scope but what statements can change. -/
theorem extends_callBody {options : Bindings Kind}
    (h : (Runner.ofFuel fuel).callBody env options ss st = .ok () st') :
    st.scope.Extends st'.scope := by
  obtain ⟨setting, outer⟩ := env
  have hagree := (Runner.agree_self setting fuel).law
  have hframe : Frame .statement st (Result.state ((Runner.ofFuel fuel).callBody
      ⟨setting, outer⟩ options ss st)) :=
    (hagree.callBody options (fun _ _ => trivial) ⟨trivial, rfl⟩).frame false
  exact (hframe.of_ok h).scope

/-- So does the body of a block. -/
theorem extends_bodyStatements (h : (Runner.ofFuel fuel).bodyStatements env ss st = .ok () st') :
    st.scope.Extends st'.scope := by
  obtain ⟨setting, outer⟩ := env
  have hagree := (Runner.agree_self setting fuel).law
  have hframe : Frame .statement st (Result.state ((Runner.ofFuel fuel).bodyStatements
      ⟨setting, outer⟩ ss st)) :=
    (hagree.bodyStatements (fun _ _ => trivial) ⟨trivial, rfl⟩).frame false
  exact (hframe.of_ok h).scope

end Steps

/-! ### Calls -/

/-- **A call of a block with a block of its own**, where it is evaluated. -/
structure BlockCall where
  env : Env
  state : State
  callee : Identifier
  block : Block

namespace BlockCall

variable (call : BlockCall) (c : Closure)

/-- The scopes at the call, that of the caller first. -/
def stack : List Scope := call.state.scope :: call.env.enclosing

/-- The surroundings of the block of the call. -/
def inner : Env := call.env.below call.state.scope

/-- The state in which the block of the call starts. -/
def entered : State :=
  { call.state with
    scope := { call.state.scope.push call.env.level c.blockType with
      callerDefinitions := Scope.visibleDefinitions call.stack } }

/-- **The callee is a defined block, and the block of the call runs to its end.**  The layers are
those that are left for the body of the callee. -/
structure Ends (layers : Nat) (st : State) : Prop where
  callee : Scope.symbol? call.stack call.callee.name = some (.closure c)
  block : (Runner.ofFuel (layers + 2)).callBody call.inner c.options call.block.statements
    (call.entered c) = .ok () st

/-- The scope from which the callee is called: that of the block of the call, at the place of the
caller. -/
def called (st : State) : Scope := { st.scope with sourceIndex := call.state.scope.sourceIndex }

/-- The surroundings of the body of the callee. -/
def bodyEnv (st : State) : Env := call.inner.below (call.called st)

/-- **The state in which the body of the callee starts.** -/
def bodyStart (defining : Scope) (st : State) : State :=
  { st with scope := Runner.bodyScope c defining (call.called st) }

/-- **What a name stands for when the body of the callee starts**: what the block of the call last
bound it to, or else what it stands for among the definitions that the caller sees, or else among
those that the scope of the definition sees, or else its standard meaning. -/
def resolve? (made : List Binding) (name : String) : Option Symbol :=
  (lastBound? made name).or <|
    (Scope.findDefinition? (Scope.chain call.stack) name).or <|
      (Scope.findDefinition? (Scope.chainFrom call.stack c.level) name).or <|
        SymbolTable.definition.symbols.get? name

/-- **How a call ends** whose body runs like this: with the value of the scope that the body leaves,
or with an error, and with the scope of the caller as it was. -/
def endOf (body : Eval Unit) (defining : Scope) (st : State) : EStateM.Result Exit State Value :=
  let value := Result.settle (fun st' => { st' with scope := call.called st })
    ((body >>= fun _ => Eval.scope >>= fun s => Step.ofExcept (Runner.resultOf s))
      (call.bodyStart c defining st))
  let placed := if st.scope.file = c.file then value
    else Result.mapExit (Runner.inFile ((c.file.map FilePath.name).getD "") c.source) value
  Result.settle (fun st' => { st' with scope := call.state.scope })
    (Result.mapExit (Exit.located call.callee.range) placed)

/-- **How the names in the body of a callee are resolved** after the block of the call has made some
bindings and ended in a state. -/
structure Resolves (layers : Nat) (st : State) (defining : Scope) (made : List Binding) : Prop where
  /-- The scope of the definition is there. -/
  defined : Scope.atLevel? call.stack c.level = some defining
  /-- These are the bindings that the block of the call has made. -/
  bindings : Chained (CallStep (layers + 2) call.inner c.options) call.block.statements
    (call.entered c) made st
  /-- A name stands for what the bindings, the caller and the definition say, in this order. -/
  names (name : String) :
    Scope.symbol? ((call.bodyStart c defining st).scope :: (call.bodyEnv st).enclosing) name
      = call.resolve? c made name
  /-- A call that is not too deep runs the body from there. -/
  run : call.state.scope.depth < Runner.deepestCall →
    (Runner.ofFuel (layers + 2)).block call.env call.callee call.block call.state
      = call.endOf c ((Runner.ofFuel layers).bodyStatements (call.bodyEnv st) c.body.statements)
          defining st
  /-- An option that the body comes to is given its default if its name stands for nothing when the
  body starts and was not bound since. -/
  default {before after : List Statement} {range : SourceRange} {name : Identifier}
    {default : Expr} {st' : State} :
    c.body.statements = before ++ .option range name default :: after →
    (Runner.ofFuel layers).bodyStatements (call.bodyEnv st) before (call.bodyStart c defining st)
      = .ok () st' →
    ∃ bound, Chained (BodyStep layers (call.bodyEnv st)) before (call.bodyStart c defining st)
        bound st' ∧
      (Runner.ofFuel layers).bodyStatements (call.bodyEnv st) c.body.statements
          (call.bodyStart c defining st)
        = if call.resolve? c made name.name = none ∧ name.name ∉ bound.map Prod.fst then
            (do
              let v ← runExpression layers (call.bodyEnv st) default
              Eval.modifyScope fun s => s.define name.name (.constant v)
              (Runner.ofFuel layers).bodyStatements (call.bodyEnv st) after) st'
          else (Runner.ofFuel layers).bodyStatements (call.bodyEnv st) after st'

section Proofs

variable {call : BlockCall} {c : Closure} {layers : Nat} {st : State} {defining : Scope}
  {made : List Binding}

theorem Ends.extends (h : call.Ends c layers st) : (call.entered c).scope.Extends st.scope :=
  extends_callBody h.block

/-- A callee was defined no further in than where it is called. -/
theorem Ends.level_le (h : call.Ends c layers st) (htables : Tables call.stack) :
    c.level ≤ call.env.enclosing.length :=
  htables.levels.of_symbol? (fun _ _ => Nat.le_succ_of_le) h.callee

/-- The scopes around the body of a callee are those around its definition. -/
theorem chain_bodyStart (hlevel : c.level ≤ call.env.enclosing.length) :
    Scope.chain ((call.bodyStart c defining st).scope :: (call.bodyEnv st).enclosing)
      = (call.bodyStart c defining st).scope :: Scope.chainFrom call.stack c.level := by
  have hbelow : call.stack.length ≠ c.level := Nat.ne_of_gt (Nat.lt_succ_of_le hlevel)
  have hcalled : Scope.chainFrom (call.bodyEnv st).enclosing c.level
      = Scope.chainFrom call.stack c.level := by
    show Scope.chainFrom (call.called st :: call.stack) c.level = _
    rw [Scope.chainFrom, if_neg hbelow]
  rw [← hcalled, Scope.chain_cons]
  rfl

/-- **The names when the body of a callee starts.** -/
theorem Ends.symbol?_bodyStart (h : call.Ends c layers st) (htables : Tables call.stack)
    (hmade : st.scope.definitions = (call.entered c).scope.definitions.update ⟨made⟩)
    (name : String) :
    Scope.symbol? ((call.bodyStart c defining st).scope :: (call.bodyEnv st).enclosing) name
      = call.resolve? c made name := by
  have hdefinitions : (call.bodyStart c defining st).scope.definitions
      = (Scope.visibleDefinitions call.stack).update st.scope.definitions :=
    congrArg (Bindings.update · st.scope.definitions) h.extends.callerDefinitions
  -- the block of the call starts without names of its own
  have hown : st.scope.definitions.get? name = lastBound? made name := by
    rw [hmade, Bindings.get?_update_made]
    exact Option.or_none
  have hdistinct : st.scope.definitions.Distinct :=
    hmade ▸ Bindings.distinct_empty.update ⟨made⟩
  have hcaller : (Scope.visibleDefinitions call.stack).get? name
      = Scope.findDefinition? (Scope.chain call.stack) name :=
    Scope.get?_visibleDefinitions
      (fun s hs => (htables.once s (Scope.mem_of_mem_chainFrom hs)).definitions) name
  rw [Scope.symbol?_eq, chain_bodyStart (h.level_le htables), Scope.findDefinition?_cons,
    hdefinitions, Bindings.get?_update hdistinct, hown, hcaller, Option.or_assoc, Option.or_assoc]
  rfl

/-- **A call that is not too deep runs the body of the callee.** -/
theorem Ends.block_eq (h : call.Ends c layers st)
    (hdefined : Scope.atLevel? call.stack c.level = some defining)
    (hdepth : call.state.scope.depth < Runner.deepestCall) :
    (Runner.ofFuel (layers + 2)).block call.env call.callee call.block call.state
      = call.endOf c ((Runner.ofFuel layers).bodyStatements (call.bodyEnv st) c.body.statements)
          defining st := by
  have hlookup : Scope.symbol? (call.state.scope :: call.env.enclosing) call.callee.name
      = some (.closure c) := h.callee
  -- the block of the call runs no deeper than its caller
  have hcalled : (call.called st).depth < Runner.deepestCall := by
    have hsame : st.scope.depth = call.state.scope.depth := h.extends.depth
    exact hsame ▸ hdepth
  have hvalue : (Runner.ofFuel (layers + 1)).call call.inner c ⟨call.called st, st.world⟩
      = Result.settle (fun st' => { st' with scope := call.called st })
          (((Runner.ofFuel layers).bodyStatements (call.bodyEnv st) c.body.statements >>= fun _ =>
            Eval.scope >>= fun s => Step.ofExcept (Runner.resultOf s))
              (call.bodyStart c defining st)) := Runner.call_of_body hdefined hcalled
  have hbuild : (Runner.ofFuel (layers + 2)).build call.inner (.closure c)
      ⟨call.called st, st.world⟩
        = (Runner.ofFuel (layers + 1)).callFromFile call.inner c ⟨call.called st, st.world⟩ := rfl
  rw [Runner.callFromFile_apply, hvalue] at hbuild
  -- what is left is to follow the call: its block has ended, and the callee is built next
  rw [Runner.block, Env.symbol?_bind, hlookup]
  show Result.settle (fun st' => { st' with scope := call.state.scope })
    (((Runner.ofFuel (layers + 2)).callBody call.inner c.options call.block.statements >>= fun _ =>
      Eval.modifyScope (fun s => { s with sourceIndex := call.state.scope.sourceIndex }) >>=
        fun _ => Step.locate call.callee.range ((Runner.ofFuel (layers + 2)).build call.inner (.closure c)))
      (call.entered c)) = _
  rw [Step.bind_ok _ h.block]
  show Result.settle _ (Result.mapExit _ ((Runner.ofFuel (layers + 2)).build call.inner
    (.closure c) ⟨call.called st, st.world⟩)) = _
  rw [hbuild]
  rfl

/-- **An option that the body comes to.** -/
theorem Ends.default_eq (h : call.Ends c layers st) (htables : Tables call.stack)
    (hmade : st.scope.definitions = (call.entered c).scope.definitions.update ⟨made⟩)
    {before after : List Statement} {range : SourceRange} {name : Identifier} {default : Expr}
    {st' : State} (hbody : c.body.statements = before ++ .option range name default :: after)
    (hbefore : (Runner.ofFuel layers).bodyStatements (call.bodyEnv st) before
      (call.bodyStart c defining st) = .ok () st') :
    ∃ bound, Chained (BodyStep layers (call.bodyEnv st)) before (call.bodyStart c defining st)
        bound st' ∧
      (Runner.ofFuel layers).bodyStatements (call.bodyEnv st) c.body.statements
          (call.bodyStart c defining st)
        = if call.resolve? c made name.name = none ∧ name.name ∉ bound.map Prod.fst then
            (do
              let v ← runExpression layers (call.bodyEnv st) default
              Eval.modifyScope fun s => s.define name.name (.constant v)
              (Runner.ofFuel layers).bodyStatements (call.bodyEnv st) after) st'
          else (Runner.ofFuel layers).bodyStatements (call.bodyEnv st) after st' := by
  obtain ⟨bound, hbound, hdefinitions⟩ := exists_chained_bodyStatements hbefore
  refine ⟨bound, hbound, ?_⟩
  have hname : Scope.symbol? (st'.scope :: (call.bodyEnv st).enclosing) name.name
      = (lastBound? bound name.name).or (call.resolve? c made name.name) := by
    rw [Scope.symbol?_of_update _ _ (extends_bodyStatements hbefore) hdefinitions,
      h.symbol?_bodyStart htables hmade]
  have hnothing : (Scope.symbol? (st'.scope :: (call.bodyEnv st).enclosing) name.name).isNone ↔
      call.resolve? c made name.name = none ∧ name.name ∉ bound.map Prod.fst := by
    rw [hname, Option.isNone_iff_eq_none, Option.or_eq_none_iff, lastBound?_eq_none_iff, and_comm]
  rw [hbody, Runner.bodyStatements_append, Step.bind_ok _ hbefore, Runner.bodyStatements_option]
  exact if_congr hnothing rfl rfl

/-- **The names in the body of a callee** are resolved as they should be. -/
theorem Ends.exists_resolves (h : call.Ends c layers st) (htables : Tables call.stack) :
    ∃ defining made, call.Resolves c layers st defining made := by
  have hlevel : c.level < call.stack.length := Nat.lt_succ_of_le (h.level_le htables)
  obtain ⟨defining, hdefined⟩ := Scope.exists_atLevel? hlevel
  obtain ⟨made, hbindings, hmade⟩ := exists_chained_callBody h.block
  exact ⟨defining, made, hdefined, hbindings, h.symbol?_bodyStart htables hmade,
    h.block_eq hdefined, fun hbody hbefore => h.default_eq htables hmade hbody hbefore⟩

end Proofs

end BlockCall

/-- **Calls resolve names.**  Whenever a defined block is called with a block of its own that runs
to its end, in a stack whose tables are as they should be, the names in the body are resolved by
what the block of the call has bound, what the caller sees, what the scope of the definition sees
and the standard names, in this order, and options are given their defaults accordingly.  The tables
are as they should be at every moment of every run of every program, so this is how names are
resolved wherever a run comes to such a call. -/
theorem Program.calls_resolve_names :
    (∀ (call : BlockCall) (c : Closure) (layers : Nat) (st : State), Tables call.stack →
      call.Ends c layers st → ∃ defining made, call.Resolves c layers st defining made) ∧
    ∀ (fuel : Nat) (setting : Setting) (p : Program),
      Throughout fuel (fun r => r.program { setting } p) p.start fun _ m =>
        ∀ range callee block, m.task = .expression (.block range callee block) →
          ∀ c layers st, (BlockCall.mk m.env m.state callee block).Ends c layers st →
            ∃ defining made,
              (BlockCall.mk m.env m.state callee block).Resolves c layers st defining made := by
  refine ⟨fun call c layers st htables h => h.exists_resolves htables, fun fuel setting p => ?_⟩
  refine p.throughout_of_tables fuel fun _ m htables => ?_
  intro range callee block _ c layers st h
  exact h.exists_resolves htables

namespace Ring

/-- A block with two options. -/
def ring : Closure where
  body := .mk ⟨27, 66⟩ [
    .option ⟨29, 44⟩ ⟨⟨36, 42⟩, "radius"⟩ (.number ⟨43, 44⟩ 1),
    .option ⟨45, 59⟩ ⟨⟨52, 57⟩, "width"⟩ (.number ⟨58, 59⟩ 1),
    .command ⟨60, 64⟩ ⟨⟨60, 64⟩, "cube"⟩ none]
  options := (Bindings.empty.set "radius" .number).set "width" .number
  level := 0
  source := "define width 3\ndefine ring \x7b option radius 1 option width 1 cube \x7d\n"
    ++ "ring \x7b radius 2 \x7d"
  file := none

/-- The scope in which the block is defined and called, where one of the options has a meaning. -/
def caller : Scope where
  source := ring.source
  definitions := (Bindings.empty.set "width" (.constant (.tuple [.number 3]))).set "ring"
    (.closure ring)

/-- A call that sets the other option. -/
def call : BlockCall where
  env := ⟨{}, []⟩
  state := ⟨caller, {}⟩
  callee := ⟨⟨67, 71⟩, "ring"⟩
  block := .mk ⟨72, 84⟩ [.command ⟨74, 82⟩ ⟨⟨74, 80⟩, "radius"⟩ (some (.number ⟨81, 82⟩ 2))]

/-- The state in which the block of the call ends. -/
def ended : State := Result.state
  ((Runner.ofFuel 2).callBody call.inner ring.options call.block.statements (call.entered ring))

/-- One option is what the call sets it to, and the other is what its name means to the caller. -/
theorem calls_resolve_names_ring :
    Tables call.stack ∧ call.Ends ring 0 ended ∧
      ∃ defining made, call.Resolves ring 0 ended defining made ∧
        call.resolve? ring made "radius" = some (.constant (.number 2)) ∧
        call.resolve? ring made "width" = some (.constant (.tuple [.number 3])) := by
  have hblocks : caller.definitions.Blocks fun c => c.level ≤ 0 := by
    refine ((Bindings.blocks_empty _).set "width" nofun).set "ring" ?_
    rintro c ⟨⟩
    exact Nat.le_refl 0
  have htables : Tables call.stack :=
    ⟨List.forall_mem_cons.mpr ⟨⟨by decide, by decide⟩, fun _ h => absurd h List.not_mem_nil⟩,
      ⟨hblocks, Bindings.blocks_empty _⟩, trivial⟩
  have hends : call.Ends ring 0 ended := ⟨rfl, rfl⟩
  obtain ⟨defining, made, hresolves⟩ :=
    Program.calls_resolve_names.1 call ring 0 ended htables hends
  refine ⟨htables, hends, defining, made, hresolves, ?_, ?_⟩
  · exact (hresolves.names "radius").symm
  · exact (hresolves.names "width").symm

end Ring

end SceneLang
