import SceneLang.Proofs.Raised

/-!
# Runs above a gap

A script that runs above a gap of a stack does what it does without the gap: it gives the same
values up to where nodes were written, it stops for the very same reasons, the host hears the same,
and the random numbers go on from the same place.  Each function of the evaluator has one lemma,
which follows its text: if the runner of the next layer overlooks the gap (`Overlooks`), so does the
layer itself.  By induction over the fuel all runners do (`overlooks_ofFuel`).
-/

namespace SceneLang

variable {g : Gap} {outer outer' : List Scope} {st st' : State} {setting : Setting}

/-! ### Steps that run no script -/

namespace Lifted

variable {v v' : Value} {values values' : List Value}

theorem coerce (h : Lifted g outer outer' st st') (a : Argument) (kind : Kind)
    (hvalues : Value.AllAkin False values values') :
    Matches (Lifted g outer outer') (Value.Akin False) (a.coerce setting kind values st)
      (a.coerce setting kind values' st') := by
  have ha : a.Within fun _ => True :=
    ⟨trivial, fun _ _ => trivial, fun _ _ => trivial, fun _ _ _ => trivial⟩
  exact h.step (ha.primitive_coerce setting kind values) (ha.primitive_coerce setting kind values')
    (h.resembles.coerce a kind hvalues)

theorem run (h : Lifted g outer outer' st st') (c : Command) (hv : v.Akin False v') :
    Matches (Lifted g outer outer') (Value.Akin False) (c.run setting v st)
      (c.run setting v' st') :=
  h.step (primitive_run setting c v) (primitive_run setting c v') (h.resembles.run c hv)

theorem addValue (h : Lifted g outer outer' st st') (hv : v.Akin False v') :
    Matches (Lifted g outer outer') Eq (Eval.addValue v st) (Eval.addValue v' st') :=
  h.step (primitive_addValue v) (primitive_addValue v') (h.resembles.addValue hv)

theorem addAll (h : Lifted g outer outer' st st') (hvalues : Value.AllAkin False values values') :
    Matches (Lifted g outer outer') Eq (Eval.onScope (Scope.addAll values) st)
      (Eval.onScope (Scope.addAll values') st') :=
  h.step (primitive_onScope (Scope.added_addAll values))
    (primitive_onScope (Scope.added_addAll values')) (h.resembles.addAll hvalues)

/-- A step that gives the same value in states that look the same. -/
theorem blind {α : Type} (h : Lifted g outer outer' st st') {effect : Effect} {blame : Blame}
    {act : Eval α} (hprimitive : Primitive (fun _ => True) effect blame act)
    (hblind : Step.Blind act) : Matches (Lifted g outer outer') Eq (act st) (act st') :=
  h.step hprimitive hprimitive (hblind st st' h.resembles)

/-- Saying where the node being built was written: the two runs may stand in different places. -/
theorem sourceIndex (h : Lifted g outer outer' st st') (index index' : Option Int) :
    Matches (Lifted g outer outer') Eq
      (Eval.modifyScope (fun s => { s with sourceIndex := index }) st)
      (Eval.modifyScope (fun s => { s with sourceIndex := index' }) st') :=
  .ok rfl ⟨⟨h.scope.seen, h.scope.definitions, h.scope.callerDefinitions⟩, h.parent, h.below,
    h.world⟩

/-- Defining a name. -/
theorem define (h : Lifted g outer outer' st st') (name : String) {y y' : Symbol}
    (hy : y.Raised g y') : Matches (Lifted g outer outer') Eq
      (Eval.modifyScope (fun s => s.define name y) st)
      (Eval.modifyScope (fun s => s.define name y') st') :=
  .ok rfl ⟨⟨h.scope.seen, h.scope.definitions.set name hy, h.scope.callerDefinitions⟩, h.parent,
    h.below, h.world⟩

/-- A turn of a loop starts, if the host lets it. -/
theorem startTurn (h : Lifted g outer outer' st st') :
    Matches (Lifted g outer outer') Eq (Runner.startTurn setting st)
      (Runner.startTurn setting st') := by
  have hpolls := h.resembles.readWorld World.polls fun _ => rfl
  rw [Runner.startTurn_apply, Runner.startTurn_apply, hpolls]
  split
  · refine .error .cancelled ⟨h.scope, h.parent, h.below, ?_⟩
    exact congrArg (fun w : World => { w with polls := st.world.polls + 1 }) h.world
  · refine .ok rfl ⟨h.scope, h.parent, h.below, ?_⟩
    exact congrArg (fun w : World =>
      { w with polls := st.world.polls + 1, turns := w.turns + 1 }) h.world

/-- Statements that stand in another text. -/
theorem source (h : Lifted g outer outer' st st') (text : String) :
    Lifted g outer outer' { st with scope := { st.scope with source := text } }
      { st' with scope := { st'.scope with source := text } } := by
  have hseen : st'.scope.seen = st.scope.seen := h.scope.seen
  have htext := congrArg (fun t : Scope => { t with source := text }) hseen
  exact ⟨⟨htext, h.scope.definitions, h.scope.callerDefinitions⟩, h.parent, h.below, h.world⟩

/-- Statements that stand in another file. -/
theorem file (h : Lifted g outer outer' st st') (place : Option FilePath) :
    Lifted g outer outer' { st with scope := { st.scope with file := place } }
      { st' with scope := { st'.scope with file := place } } := by
  have hseen : st'.scope.seen = st.scope.seen := h.scope.seen
  have hplace := congrArg (fun t : Scope => { t with file := place }) hseen
  exact ⟨⟨hplace, h.scope.definitions, h.scope.callerDefinitions⟩, h.parent, h.below, h.world⟩

/-- Both runs put the file on the stack of imports. -/
theorem entering (h : Lifted g outer outer' st st') (place : FilePath) :
    Lifted g outer outer' (st.entering place) (st'.entering place) :=
  have hfile := h.file (some place)
  ⟨hfile.scope, hfile.parent, hfile.below, congrArg (World.enterFile · place) h.world⟩

/-- Both runs take off the top of the stack of imports. -/
theorem leaving (h : Lifted g outer outer' st st') (place : Option FilePath) :
    Lifted g outer outer' (Runner.leaveScript place st) (Runner.leaveScript place st') :=
  have hfile := h.file place
  ⟨hfile.scope, hfile.parent, hfile.below, congrArg World.leaveFile h.world⟩

/-- The same files are being imported in both runs. -/
theorem importing (h : Lifted g outer outer' st st') :
    st'.world.importing = st.world.importing :=
  h.resembles.readWorld World.importing fun _ => rfl

end Lifted

/-! ### Members -/

/-- The members of a tuple: its positions, and those of its numbers or of its only element. -/
theorem Value.members_tuple (vs : List Value) :
    (tuple vs).members =
      match numbers? vs with
      | some _ =>
        ordinals.take vs.length ++ (if vs.length < 5 then colorMembers else [])
          ++ (if vs.length < 4 then vectorMembers ++ sizeMembers else [])
      | none =>
        match vs with
        | [v] => ordinals.take vs.length ++ v.members
        | _ => ordinals.take vs.length :=
  members.eq_def (tuple vs)

/-- The members of a value do not depend on places. -/
theorem Value.members_bare (v : Value) : v.bare.members = v.members := by
  fun_induction members v with
  | case1 | case2 | case3 | case4 => rfl
  | case5 vs positions xs hxs =>
    simp only [bare_tuple, members_tuple, numbers?_bare, hxs, List.length_map]
    rfl
  | case6 v positions hnumbers ih =>
    have hbare := numbers?_bare [v]
    rw [hnumbers, List.map_cons, List.map_nil] at hbare
    rw [bare_tuple, members_tuple, List.map_cons, List.map_nil, hbare]
    exact congrArg (ordinals.take 1 ++ ·) ih
  | case7 vs positions hnumbers hone =>
    simp only [bare_tuple, members_tuple, numbers?_bare, hnumbers, List.length_map]
    split
    · next w heq =>
      obtain ⟨v, rfl, -⟩ := List.map_eq_singleton_iff.mp heq
      exact absurd rfl (hone v)
    · rfl
  | case8 v hvector hsize hcolor hrange htuple =>
    cases v with
    | vector v => exact absurd rfl (hvector v)
    | size v => exact absurd rfl (hsize v)
    | color c => exact absurd rfl (hcolor c)
    | range r => exact absurd rfl (hrange r)
    | tuple vs => exact absurd rfl (htuple vs)
    | _ => rfl

/-! ### Runners -/

/-- **A runner overlooks a gap**: what it runs above the gap is what it runs without it. -/
structure Overlooks (g : Gap) (setting : Setting) (r : Runner) : Prop where
  expression {outer outer' : List Scope} {st st' : State} (e : Expr) :
    Lifted g outer outer' st st' →
    Matches (Lifted g outer outer') (Value.Akin False) (r.expression ⟨setting, outer⟩ e st)
      (r.expression ⟨setting, outer'⟩ e st')
  statement {outer outer' : List Scope} {st st' : State} (s : Statement) :
    Lifted g outer outer' st st' →
    Matches (Lifted g outer outer') Eq (r.statement ⟨setting, outer⟩ s st)
      (r.statement ⟨setting, outer'⟩ s st')
  build {outer outer' : List Scope} {st st' : State} {y y' : Symbol} :
    y.Raised g y' → Lifted g outer outer' st st' →
    Matches (Lifted g outer outer') (Value.Akin False) (r.build ⟨setting, outer⟩ y st)
      (r.build ⟨setting, outer'⟩ y' st')
  body {outer outer' : List Scope} {st st' : State} (block : Block) :
    Lifted g outer outer' st st' →
    Matches (Lifted g outer outer') Eq (r.body ⟨setting, outer⟩ block st)
      (r.body ⟨setting, outer'⟩ block st')

namespace Overlooks

variable {r : Runner}

theorem statements (h : Overlooks g setting r) (ss : List Statement)
    (hM : Lifted g outer outer' st st') :
    Matches (Lifted g outer outer') Eq (r.statements ⟨setting, outer⟩ ss st)
      (r.statements ⟨setting, outer'⟩ ss st') := by
  induction ss generalizing st st' with
  | nil => exact .pure rfl hM
  | cons s rest ih => exact (h.statement s hM).bind_eq fun _ _ _ hM₁ => ih hM₁

theorem bodyStatements (h : Overlooks g setting r) (ss : List Statement)
    (hM : Lifted g outer outer' st st') :
    Matches (Lifted g outer outer') Eq (r.bodyStatements ⟨setting, outer⟩ ss st)
      (r.bodyStatements ⟨setting, outer'⟩ ss st') := by
  induction ss generalizing st st' with
  | nil => exact .pure rfl hM
  | cons s rest ih =>
    cases s with
    | option range name default =>
      simp only [Runner.bodyStatements, Env.symbol?_bind]
      rcases hM.symbol name.name with ⟨hnone, hnone'⟩ | ⟨y, y', hy, hy', -⟩
      · simp only [hnone, hnone', Option.isNone_none, if_true]
        refine (h.expression default hM).bind fun v v' _ _ hv hM₁ => ?_
        exact (hM₁.define name.name (.constant hv)).bind_eq fun _ _ _ hM₂ => ih hM₂
      · simp only [hy, hy', Option.isNone_some]
        exact ih hM
    | _ => exact (h.statement _ hM).bind_eq fun _ _ _ hM₁ => ih hM₁

/-- A block that is built in a scope of its own. -/
theorem buildIn (h : Overlooks g setting r) {s s' : Scope} {y y' : Symbol} (hy : y.Raised g y')
    (hinner : Lifted g (st.scope :: outer) (st'.scope :: outer') { st with scope := s }
      { st' with scope := s' }) (hM : Lifted g outer outer' st st') :
    Matches (Lifted g outer outer') (Value.Akin False)
      (r.buildIn ⟨setting, outer⟩ s y st) (r.buildIn ⟨setting, outer'⟩ s' y' st') :=
  hM.block (h.build hy hinner)

/-! ### Arguments -/

/-- The children of a block that is called with expressions. -/
theorem gatherAll (h : Overlooks g setting r) (name : String) (es : List Expr) {s s' : Scope}
    (hs : s.Raised g s') (hM : Lifted g outer outer' st st') :
    Matches (Lifted g outer outer')
      (fun t t' => t.Raised g t' ∧ t.parent = s.parent ∧ t'.parent = s'.parent)
      (r.gatherAll ⟨setting, outer⟩ name es s st)
      (r.gatherAll ⟨setting, outer'⟩ name es s' st') := by
  induction es generalizing st st' s s' with
  | nil => exact .pure ⟨hs, rfl, rfl⟩ hM
  | cons e rest ih =>
    refine (h.expression e hM).bind fun v v' st₁ st₁' hv hM₁ => ?_
    rcases hs.gather hv.elements name e.sourceRange with
      ⟨x, hx, hx'⟩ | ⟨t, t', ht, ht', hraised, hparent, hparent'⟩
    · rw [hx, hx']
      exact .error x hM₁
    · rw [ht, ht', ← hparent, ← hparent']
      exact ih hraised hM₁

/-- What a name takes, in both runs. -/
inductive AppetiteRaised (g : Gap) : Runner.Appetite → Runner.Appetite → Prop
  | argument (c : Command) : AppetiteRaised g (.argument c) (.argument c)
  | children {y y' : Symbol} (block : BlockType) (h : y.Raised g y') :
    AppetiteRaised g (.children y block) (.children y' block)
  | nothing : AppetiteRaised g .nothing .nothing

theorem appetite_raised {y y' : Symbol} (h : y.Raised g y') :
    AppetiteRaised g (Runner.appetite (some y)) (Runner.appetite (some y')) := by
  cases h with
  | command c =>
    simp only [Runner.appetite]
    split
    · exact .nothing
    · exact .argument c
  | shape s =>
    simp only [Runner.appetite]
    split
    · exact .nothing
    · exact .children _ (.shape s)
  | closure c =>
    have hblock : (c.raise g).blockType = c.blockType := rfl
    simp only [Runner.appetite, hblock]
    split
    · exact .nothing
    · exact .children _ (.closure c)
  | property p => exact .nothing
  | constant h => exact .nothing

/-- What an expression takes is read off the stack, in both runs. -/
theorem appetiteOf_read (setting : Setting) (e : Expr) (hM : Lifted g outer outer' st st') :
    ∃ a a' : Runner.Appetite, AppetiteRaised g a a' ∧
      (∀ {β : Type} (f : Runner.Appetite → Eval β),
        (Runner.appetiteOf ⟨setting, outer⟩ e >>= f) st = f a st) ∧
      ∀ {β : Type} (f : Runner.Appetite → Eval β),
        (Runner.appetiteOf ⟨setting, outer'⟩ e >>= f) st' = f a' st' := by
  cases e with
  | identifier range name =>
    refine ⟨_, _, ?_, fun _ => rfl, fun _ => rfl⟩
    show AppetiteRaised g (Runner.appetite (Scope.symbol? (st.scope :: outer) name))
      (Runner.appetite (Scope.symbol? (st'.scope :: outer') name))
    rcases hM.symbol name with ⟨hnone, hnone'⟩ | ⟨y, y', hy, hy', hsymbol⟩
    · rw [hnone, hnone']
      exact .nothing
    · rw [hy, hy']
      exact appetite_raised hsymbol
  | _ => exact ⟨.nothing, .nothing, .nothing, fun _ => rfl, fun _ => rfl⟩

/-- **The values of expressions in a row.** -/
theorem row (h : Overlooks g setting r) (es : List Expr) (hM : Lifted g outer outer' st st') :
    Matches (Lifted g outer outer') (Value.AllAkin False) (r.row ⟨setting, outer⟩ es st)
      (r.row ⟨setting, outer'⟩ es st') := by
  induction es generalizing st st' with
  | nil => exact .pure .nil hM
  | cons e rest ih =>
    cases rest with
    | nil =>
      exact (h.expression e hM).bind fun v v' _ _ hv hM₁ => .pure (.singleton hv) hM₁
    | cons next rest =>
      obtain ⟨a, a', ha, hread, hread'⟩ := appetiteOf_read setting e hM
      simp only [Runner.row, hread, hread']
      cases ha with
      | argument c =>
        refine (ih hM).bind fun vs vs' _ _ hvs hM₁ => ?_
        refine (hM₁.coerce _ c.parameter hvs.unwrap).bind fun v v' _ _ hv hM₂ => ?_
        exact ((hM₂.run c hv).locate _).bind fun w w' _ _ hw hM₃ => .pure (.singleton hw) hM₃
      | children block hy =>
        simp only [Eval.scope_bind, Env.level]
        have hpush := hM.scope.push outer.length outer'.length block
        refine (h.gatherAll _ (next :: rest) hpush hM).bind ?_
        rintro t t' st₁ st₁' ⟨ht, hparent, hparent'⟩ hM₁
        have hinner := hM₁.inner ht hparent hparent'
        exact ((h.buildIn hy hinner hM₁).locate _).bind fun w w' _ _ hw hM₂ =>
          .pure (.singleton hw) hM₂
      | nothing =>
        refine (h.expression e hM).bind fun v v' _ _ hv hM₁ => ?_
        exact (ih hM₁).bind fun vs vs' _ _ hvs hM₂ => .pure (.cons hv hvs) hM₂

theorem valueAs (h : Overlooks g setting r) (e : Expr) (kind : Kind) (name : String) (index : Int)
    (hM : Lifted g outer outer' st st') :
    Matches (Lifted g outer outer') (Value.Akin False)
      (r.valueAs ⟨setting, outer⟩ e kind name index st)
      (r.valueAs ⟨setting, outer'⟩ e kind name index st') :=
  (h.row _ hM).bind fun _ _ _ _ hvs hM₁ => hM₁.coerce _ kind hvs.unwrap

theorem numberAs (h : Overlooks g setting r) (e : Expr) (name : String) (index : Int)
    (hM : Lifted g outer outer' st st') :
    Matches (Lifted g outer outer') Eq (r.numberAs ⟨setting, outer⟩ e name index st)
      (r.numberAs ⟨setting, outer'⟩ e name index st') := by
  refine (h.valueAs e .number name index hM).bind fun v v' _ _ hv hM₁ => ?_
  cases v with
  | mesh n =>
    obtain ⟨n', rfl, -⟩ := Value.exists_of_bare_mesh hv.bare
    exact .throw _ hM₁
  | tuple vs =>
    obtain ⟨vs', rfl, -⟩ := hv.exists_tuple
    exact .throw _ hM₁
  | number x =>
    obtain rfl := hv.eq rfl
    exact .pure rfl hM₁
  | _ =>
    obtain rfl := hv.eq rfl
    exact .throw _ hM₁

theorem parameter (h : Overlooks g setting r) (e : Option Expr) (kind : Kind)
    (callee : Identifier) (hM : Lifted g outer outer' st st') :
    Matches (Lifted g outer outer') (Value.Akin False)
      (r.parameter ⟨setting, outer⟩ e kind callee st)
      (r.parameter ⟨setting, outer'⟩ e kind callee st') := by
  cases e with
  | some e => exact h.valueAs e kind callee.name 0 hM
  | none =>
    simp only [Runner.parameter]
    split
    · exact .pure Value.AllAkin.nil.tuple hM
    · exact .throw _ hM

/-! ### Expressions -/

/-- An unknown name is reported with the names that are known, which are the same. -/
theorem unknown (name : String) (range : SourceRange) (hM : Lifted g outer outer' st st') :
    Matches (Lifted g outer outer') (Value.Akin False)
      (Runner.unknown ⟨setting, outer⟩ name range st)
      (Runner.unknown ⟨setting, outer'⟩ name range st') := by
  simp only [Runner.unknown, Env.stack_bind, Scope.expressionNames, hM.visibleNames]
  exact .throw _ hM

/-- A block that takes no children is built from an empty scope. -/
theorem bareBlock (h : Overlooks g setting r) (range : SourceRange) (name : String) {y y' : Symbol}
    (hy : y.Raised g y') (hM : Lifted g outer outer' st st') :
    Matches (Lifted g outer outer') (Value.Akin False)
      ((if (y.blockType?.getD .primitive).childKinds.isEmpty then do
        let scope := (← Eval.scope).push outer.length (y.blockType?.getD .primitive)
        Step.locate range (r.buildIn ⟨setting, outer⟩ scope y)
      else throw (.raise (.missingArgument name 0 "block") range.upperBound) : Eval Value) st)
      ((if (y'.blockType?.getD .primitive).childKinds.isEmpty then do
        let scope := (← Eval.scope).push outer'.length (y'.blockType?.getD .primitive)
        Step.locate range (r.buildIn ⟨setting, outer'⟩ scope y')
      else throw (.raise (.missingArgument name 0 "block") range.upperBound) : Eval Value)
        st') := by
  rw [hy.blockType?]
  split
  · simp only [Eval.scope_bind]
    have hpush := hM.scope.push outer.length outer'.length (y.blockType?.getD .primitive)
    exact (h.buildIn hy (hM.inner hpush rfl rfl) hM).locate range
  · exact .throw _ hM

theorem identifier (h : Overlooks g setting r) (range : SourceRange) (name : String)
    (hM : Lifted g outer outer' st st') :
    Matches (Lifted g outer outer') (Value.Akin False)
      (r.identifier ⟨setting, outer⟩ range name st)
      (r.identifier ⟨setting, outer'⟩ range name st') := by
  simp only [Runner.identifier, Env.symbol?_bind]
  rcases hM.symbol name with ⟨hnone, hnone'⟩ | ⟨y, y', hy, hy', hsymbol⟩
  · rw [hnone, hnone']
    exact unknown name range hM
  · rw [hy, hy']
    have hblock := h.bareBlock range name hsymbol hM
    cases hsymbol with
    | command c =>
      dsimp only
      split
      · exact (hM.run c Value.AllAkin.nil.tuple).locate range
      · exact .throw _ hM
    | property p =>
      refine ((hM.blind (primitive_get p) (blind_get p)).mono (fun _ _ => id) ?_).locate range
      rintro w _ rfl
      exact .of_bare rfl
    | constant hv => exact .pure hv hM
    | shape s => exact hblock
    | closure c => exact hblock

theorem callBody (h : Overlooks g setting r) (options : Bindings Kind) (ss : List Statement)
    (hM : Lifted g outer outer' st st') :
    Matches (Lifted g outer outer') Eq (r.callBody ⟨setting, outer⟩ options ss st)
      (r.callBody ⟨setting, outer'⟩ options ss st') := by
  induction ss generalizing st st' with
  | nil => exact .pure rfl hM
  | cons s rest ih =>
    cases s with
    | option range name default => exact .throw _ hM
    | command range callee e =>
      simp only [Runner.callBody]
      cases options.get? callee.name with
      | none => exact (h.statement _ hM).bind_eq fun _ _ _ hM₁ => ih hM₁
      | some kind =>
        refine (h.parameter e kind callee hM).bind fun v v' _ _ hv hM₁ => ?_
        exact (hM₁.define callee.name (.constant hv)).bind_eq fun _ _ _ hM₂ => ih hM₂
    | _ => exact (h.statement _ hM).bind_eq fun _ _ _ hM₁ => ih hM₁

/-- A block that is called with a body, once it is known which. -/
theorem blockCall (h : Overlooks g setting r) (callee : Identifier) (body : Block) {y y' : Symbol}
    (hy : y.Raised g y') (block : BlockType) (hM : Lifted g outer outer' st st') :
    Matches (Lifted g outer outer') (Value.Akin False)
      (Env.inside ⟨setting, outer⟩ { st.scope.push outer.length block with
          callerDefinitions := Scope.visibleDefinitions (st.scope :: outer) } Env.leaveBlock
        (fun inner => do
          r.callBody inner block.options body.statements
          Eval.modifyScope fun s => { s with sourceIndex := st.scope.sourceIndex }
          Step.locate callee.range (r.build inner y)) st)
      (Env.inside ⟨setting, outer'⟩ { st'.scope.push outer'.length block with
          callerDefinitions := Scope.visibleDefinitions (st'.scope :: outer') } Env.leaveBlock
        (fun inner => do
          r.callBody inner block.options body.statements
          Eval.modifyScope fun s => { s with sourceIndex := st'.scope.sourceIndex }
          Step.locate callee.range (r.build inner y')) st') := by
  have hpush := hM.scope.push outer.length outer'.length block
  -- the names that the caller sees go with the scope of the call
  have hcall : Scope.Raised g { st.scope.push outer.length block with
        callerDefinitions := Scope.visibleDefinitions (st.scope :: outer) }
      { st'.scope.push outer'.length block with
        callerDefinitions := Scope.visibleDefinitions (st'.scope :: outer') } :=
    ⟨hpush.seen, .empty, hM.visibleDefinitions⟩
  refine hM.block ?_
  refine (h.callBody _ _ (hM.inner hcall rfl rfl)).bind_eq fun _ _ _ hM₁ => ?_
  refine (hM₁.sourceIndex _ _).bind_eq fun _ _ _ hM₂ => ?_
  exact (h.build hy hM₂).locate _

theorem block (h : Overlooks g setting r) (callee : Identifier) (body : Block)
    (hM : Lifted g outer outer' st st') :
    Matches (Lifted g outer outer') (Value.Akin False)
      (r.block ⟨setting, outer⟩ callee body st)
      (r.block ⟨setting, outer'⟩ callee body st') := by
  simp only [Runner.block, Env.symbol?_bind]
  rcases hM.symbol callee.name with ⟨hnone, hnone'⟩ | ⟨y, y', hy, hy', hsymbol⟩
  · rw [hnone, hnone']
    exact unknown callee.name callee.range hM
  · rw [hy, hy']
    have hcall (block : BlockType) := h.blockCall callee body hsymbol block hM
    cases hsymbol with
    | command c => exact .throw _ hM
    | property p => exact .throw _ hM
    | constant hv => exact .throw _ hM
    | shape s => exact hcall s.blockType
    | closure c => exact hcall c.blockType

theorem range (h : Overlooks g setting r) (first last : Expr) (step : Option Expr)
    (hM : Lifted g outer outer' st st') :
    Matches (Lifted g outer outer') (Value.Akin False)
      (r.range ⟨setting, outer⟩ first last step st)
      (r.range ⟨setting, outer'⟩ first last step st') := by
  refine (h.numberAs first _ _ hM).bind_eq fun start _ _ hM₁ => ?_
  refine (h.numberAs last _ _ hM₁).bind_eq fun stop _ _ hM₂ => ?_
  cases step with
  | none => exact .pure (.flat _ rfl) hM₂
  | some e =>
    refine (h.numberAs e _ _ hM₂).bind_eq fun step _ _ hM₃ => ?_
    cases NumberRange.ofBounds start stop step with
    | ok range => exact .pure (.flat _ rfl) hM₃
    | error x => exact .throw _ hM₃

/-- The member of a value; a missing one is reported with those that there are. -/
theorem member {v v' : Value} (hv : v.Akin False v') (name : Identifier) :
    (Runner.member v' name).map Value.bare = (Runner.member v name).map Value.bare := by
  have hmember : (v'.member? name.name).map Value.bare = (v.member? name.name).map Value.bare := by
    rw [← Value.member?_bare, ← Value.member?_bare, hv.bare]
  have howner (v : Value) : (Runner.memberOwner v).bare = Runner.memberOwner v.bare := by
    cases v with
    | tuple vs =>
      rw [Value.bare_tuple]
      match vs with
      | [] | [_] => rfl
      | v :: w :: rest => exact Value.bare_tuple _
    | _ => rfl
  unfold Runner.member
  -- a tuple of one value is reported as that value
  rcases option_of_map_eq hmember with ⟨hm, hm'⟩ | ⟨m, m', hm, hm', hbare⟩
  · have hsame : (Runner.memberOwner v').bare = (Runner.memberOwner v).bare := by
      rw [howner, howner, hv.bare]
    rw [hm, hm']
    dsimp only
    rw [Value.kind_eq_of_bare hsame, ← Value.members_bare (Runner.memberOwner v'), hsame,
      Value.members_bare]
  · rw [hm, hm']
    exact congrArg Except.ok hbare

/-- **The value of an expression.** -/
theorem evaluate (h : Overlooks g setting r) (e : Expr) (hM : Lifted g outer outer' st st') :
    Matches (Lifted g outer outer') (Value.Akin False)
      (r.evaluate ⟨setting, outer⟩ e st) (r.evaluate ⟨setting, outer'⟩ e st') := by
  cases e with
  | number range x => exact .pure (.flat _ rfl) hM
  | string range s => exact .pure (.flat _ rfl) hM
  | color range c => exact .pure (.flat _ rfl) hM
  | identifier range name => exact h.identifier range name hM
  | block range callee body => exact h.block callee body hM
  | tuple range items =>
    exact (h.row items hM).bind fun vs vs' _ _ hvs hM₁ => .pure hvs.tuple hM₁
  | prefixed range operator operand =>
    refine (h.numberAs operand _ _ hM).bind_eq fun x _ _ hM₁ => ?_
    cases operator <;> exact .pure (.flat _ rfl) hM₁
  | infixed range left operator right =>
    refine (h.numberAs left _ _ hM).bind_eq fun x _ _ hM₁ => ?_
    refine (h.numberAs right _ _ hM₁).bind_eq fun y _ _ hM₂ => ?_
    exact .pure (.flat _ rfl) hM₂
  | range range first last step => exact h.range first last step hM
  | member range object name =>
    refine (h.expression object hM).bind fun v v' _ _ hv hM₁ => ?_
    exact (Matches.ofExit (member hv name) hM₁).mono (fun _ _ => id) fun _ _ hw => .of_bare hw
  | sub range inner => exact h.expression inner hM

end Overlooks

end SceneLang
