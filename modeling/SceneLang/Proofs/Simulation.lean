import SceneLang.Proofs.AkinSteps

/-!
# Runs in different places

Two runs of the same script from states that differ in places only go the same way: the second does
what the first does, as long as the first succeeds.  Each function of the evaluator has one lemma,
which follows its text: if the next layer of the second run does what that of the first does
(`Simulates`), so does the layer itself.  Here this is done for expressions, and in
`Proofs.SimulationStatements` for statements and blocks.

The second run may be inside of fewer imports than the first.  Then fewer files are refused as
circular, which only turns errors into values.
-/

namespace SceneLang

/-- **The second runner does what the first does**, in states that differ in places only.  Only
blocks are built, and one that is built has been named below. -/
structure Simulates (alone : Prop) (setting : Setting) (r r' : Runner) : Prop where
  noHost : alone → setting.host = none
  turns : r'.turns = r.turns
  expression {outer outer' : List Scope} {st st' : State} (e : Expr) :
    Akin alone outer outer' st st' →
    Refines alone (Akin alone outer outer') (Value.Akin alone)
      (r.expression ⟨setting, outer⟩ e st) (r'.expression ⟨setting, outer'⟩ e st')
  statement {outer outer' : List Scope} {st st' : State} (s : Statement) :
    Akin alone outer outer' st st' →
    Refines alone (Akin alone outer outer') Eq
      (r.statement ⟨setting, outer⟩ s st) (r'.statement ⟨setting, outer'⟩ s st')
  build {s s' : Scope} {below below' : List Scope} {st st' : State} {symbol symbol' : Symbol} :
    Symbol.Akin alone below.length symbol symbol' → symbol.blockType?.isSome →
    Akin alone (s :: below) (s' :: below') st st' →
    Refines alone (Akin alone (s :: below) (s' :: below')) (Value.Akin alone)
      (r.build ⟨setting, s :: below⟩ symbol st) (r'.build ⟨setting, s' :: below'⟩ symbol' st')
  body {outer outer' : List Scope} {st st' : State} (block : Block) :
    Akin alone outer outer' st st' →
    Refines alone (Akin alone outer outer') Eq
      (r.body ⟨setting, outer⟩ block st) (r'.body ⟨setting, outer'⟩ block st')

namespace Simulates

variable {alone : Prop} {setting : Setting} {r r' : Runner} {outer outer' : List Scope}
  {st st' : State}

theorem statements (h : Simulates alone setting r r') (ss : List Statement)
    (hM : Akin alone outer outer' st st') :
    Refines alone (Akin alone outer outer') Eq (r.statements ⟨setting, outer⟩ ss st)
      (r'.statements ⟨setting, outer'⟩ ss st') := by
  induction ss generalizing st st' with
  | nil => exact .pure rfl hM
  | cons s rest ih => exact (h.statement s hM).bind_eq fun _ _ _ hM₁ => ih hM₁

theorem bodyStatements (h : Simulates alone setting r r') (ss : List Statement)
    (hM : Akin alone outer outer' st st') :
    Refines alone (Akin alone outer outer') Eq (r.bodyStatements ⟨setting, outer⟩ ss st)
      (r'.bodyStatements ⟨setting, outer'⟩ ss st') := by
  induction ss generalizing st st' with
  | nil => exact .pure rfl hM
  | cons s rest ih =>
    cases s with
    | option range name default =>
      simp only [Runner.bodyStatements, Env.symbol?_bind]
      rcases hM.symbol name.name with ⟨hnone, hnone'⟩ | ⟨y, y', hy, hy', -⟩
      · simp only [hnone, hnone', Option.isNone_none, if_true]
        refine (h.expression default hM).bind fun v v' _ _ hv hM₁ => ?_
        exact (hM₁.define name.name (.constant hv)).bind_eq fun _ _ _ hM₂ => ih hM₂
      · simp only [hy, hy', Option.isNone_some]
        exact ih hM
    | _ => exact (h.statement _ hM).bind_eq fun _ _ _ hM₁ => ih hM₁

/-! ### Arguments -/

/-- The children of a block that is called with expressions. -/
theorem gatherAll (h : Simulates alone setting r r') (name : String) (es : List Expr) {s s' : Scope}
    (hs : s.Akin alone s') (hM : Akin alone outer outer' st st') :
    Refines alone (Akin alone outer outer') (fun t t' => t.Akin alone t' ∧ s.Gains t)
      (r.gatherAll ⟨setting, outer⟩ name es s st)
      (r'.gatherAll ⟨setting, outer'⟩ name es s' st') := by
  induction es generalizing st st' s s' with
  | nil => exact .pure ⟨hs, Scope.Gains.refl s⟩ hM
  | cons e rest ih =>
    refine (h.expression e hM).bind fun v v' _ _ hv hM₁ => ?_
    refine (Refines.ofExit (hs.gather hv.elements name e.sourceRange) hM₁).bind ?_
    intro t t' _ _ ht hM₂
    exact (ih ht.1 hM₂).mono fun u u' hu => ⟨hu.1, ht.2.trans hu.2⟩

/-- A block that is built in a scope of its own. -/
theorem buildIn (h : Simulates alone setting r r') {s s' : Scope}
    {symbol symbol' : Symbol} (hsymbol : Symbol.Akin alone outer.length symbol symbol')
    (hblock : symbol.blockType?.isSome) (hM : Akin alone outer outer' st st')
    (hinner : Akin alone (st.scope :: outer) (st'.scope :: outer') { st with scope := s }
      { st' with scope := s' }) :
    Refines alone (Akin alone outer outer') (Value.Akin alone)
      (r.buildIn ⟨setting, outer⟩ s symbol st)
      (r'.buildIn ⟨setting, outer'⟩ s' symbol' st') :=
  hM.block (h.build hsymbol hblock hinner)

/-- What a name takes, in both runs. -/
inductive AppetiteAkin (alone : Prop) (height : Nat) : Runner.Appetite → Runner.Appetite → Prop
  | argument (c : Command) : AppetiteAkin alone height (.argument c) (.argument c)
  | children {symbol symbol' : Symbol} (block : BlockType)
    (h : Symbol.Akin alone height symbol symbol') (hblock : symbol.blockType?.isSome) :
    AppetiteAkin alone height (.children symbol block) (.children symbol' block)
  | nothing : AppetiteAkin alone height .nothing .nothing

theorem appetite_akin {height : Nat} {y y' : Symbol} (h : Symbol.Akin alone height y y') :
    AppetiteAkin alone height (Runner.appetite (some y)) (Runner.appetite (some y')) := by
  cases h with
  | command c =>
    simp only [Runner.appetite]
    split
    · exact .nothing
    · exact .argument c
  | shape s =>
    simp only [Runner.appetite]
    split
    · exact .nothing
    · exact .children _ (.shape s) rfl
  | closure hbare hlevel =>
    simp only [Runner.appetite, Closure.blockType_of_bare hbare]
    split
    · exact .nothing
    · exact .children _ (.closure hbare hlevel) rfl
  | property p => exact .nothing
  | constant h => exact .nothing

/-- What an expression takes is read off the stack, in both runs. -/
theorem appetiteOf_read (setting : Setting) (e : Expr) (hM : Akin alone outer outer' st st') :
    ∃ a a' : Runner.Appetite, AppetiteAkin alone outer.length a a' ∧
      (∀ {β : Type} (f : Runner.Appetite → Eval β),
        (Runner.appetiteOf ⟨setting, outer⟩ e >>= f) st = f a st) ∧
      ∀ {β : Type} (f : Runner.Appetite → Eval β),
        (Runner.appetiteOf ⟨setting, outer'⟩ e >>= f) st' = f a' st' := by
  cases e with
  | identifier range name =>
    refine ⟨_, _, ?_, fun _ => rfl, fun _ => rfl⟩
    show AppetiteAkin alone outer.length (Runner.appetite (Scope.symbol? (st.scope :: outer) name))
      (Runner.appetite (Scope.symbol? (st'.scope :: outer') name))
    rcases hM.symbol name with ⟨hnone, hnone'⟩ | ⟨y, y', hy, hy', hsymbol⟩
    · rw [hnone, hnone']
      exact .nothing
    · rw [hy, hy']
      exact appetite_akin hsymbol
  | _ => exact ⟨.nothing, .nothing, .nothing, fun _ => rfl, fun _ => rfl⟩

/-- **The values of expressions in a row**: one for each of them, or fewer where a name takes what
follows it. -/
theorem row (h : Simulates alone setting r r') (es : List Expr)
    (hM : Akin alone outer outer' st st') :
    Refines alone (Akin alone outer outer')
      (fun vs vs' => Value.AllAkin alone vs vs' ∧ (es ≠ [] → vs ≠ []) ∧ vs.length ≤ es.length)
      (r.row ⟨setting, outer⟩ es st) (r'.row ⟨setting, outer'⟩ es st') := by
  induction es generalizing st st' with
  | nil => exact .pure ⟨.nil, fun hne => absurd rfl hne, Nat.le_refl 0⟩ hM
  | cons e rest ih =>
    have hsingle {v v' : Value} (hv : v.Akin alone v') {es : List Expr} (hes : es ≠ []) :
        Value.AllAkin alone [v] [v'] ∧ (es ≠ [] → [v] ≠ []) ∧ [v].length ≤ es.length :=
      ⟨.singleton hv, fun _ => List.cons_ne_nil v [], List.length_pos_iff.mpr hes⟩
    cases rest with
    | nil =>
      refine (h.expression e hM).bind fun v v' _ _ hv hM₁ => ?_
      exact .pure (hsingle hv (List.cons_ne_nil e [])) hM₁
    | cons next rest =>
      obtain ⟨a, a', ha, hread, hread'⟩ := appetiteOf_read setting e hM
      simp only [Runner.row, hread, hread']
      cases ha with
      | argument c =>
        refine (ih hM).bind fun vs vs' _ _ hvs hM₁ => ?_
        obtain ⟨hvs, hsome, hfew⟩ := hvs
        have htakes : Argument.Takes ⟨Runner.nameOf e, 0, Runner.rowRange next rest, next :: rest⟩
            (vs.map Value.unwrap) :=
          ⟨fun hne => by simpa using hsome hne, by simpa using hfew⟩
        refine (hM₁.coerce h.noHost htakes hvs.unwrap c.parameter).bind ?_
        rintro v v' _ _ ⟨hv, harg⟩ hM₂
        refine ((hM₂.run c hv harg).locate _).bind fun w w' _ _ hw hM₃ => ?_
        exact .pure (hsingle hw (List.cons_ne_nil e _)) hM₃
      | children block hsymbol hblock =>
        simp only [Eval.scope_bind, Env.level]
        have hpush : (st.scope.push outer.length block).Akin alone
            (st'.scope.push outer'.length block) :=
          ⟨hM.bare_push_eq block, fun _ => Orderly.isSquare_push _ _ _⟩
        refine (h.gatherAll _ (next :: rest) hpush hM).bind ?_
        rintro t t' st₁ st₁' ⟨ht, hgains⟩ hM₁
        have hinner : Akin alone (st₁.scope :: outer) (st₁'.scope :: outer')
            { st₁ with scope := t } { st₁' with scope := t' } :=
          ⟨ht.bare, hM₁.stack, hM₁.world, hM₁.importing,
            fun halone => (hM₁.orderly halone).gained hgains (ht.square halone)⟩
        refine ((h.buildIn hsymbol hblock hM₁ hinner).locate _).bind ?_
        intro w w' _ _ hw hM₂
        exact .pure (hsingle hw (List.cons_ne_nil e _)) hM₂
      | nothing =>
        refine (h.expression e hM).bind fun v v' _ _ hv hM₁ => ?_
        refine (ih hM₁).bind fun vs vs' _ _ hvs hM₂ => ?_
        exact .pure ⟨.cons hv hvs.1, fun _ => List.cons_ne_nil v vs, Nat.succ_le_succ hvs.2.2⟩ hM₂

theorem valueAs (h : Simulates alone setting r r') (e : Expr) (kind : Kind) (name : String)
    (index : Int) (hM : Akin alone outer outer' st st') :
    Refines alone (Akin alone outer outer') (fun v v' => v.Akin alone v' ∧ v.IsArgument kind)
      (r.valueAs ⟨setting, outer⟩ e kind name index st)
      (r'.valueAs ⟨setting, outer'⟩ e kind name index st') := by
  refine (h.row _ hM).bind fun vs vs' _ _ hvs hM₁ => ?_
  obtain ⟨hvs, hsome, hfew⟩ := hvs
  have htakes : Argument.Takes ⟨name, index, e.sourceRange, Runner.parametersOf e⟩
      (vs.map Value.unwrap) :=
    ⟨fun hne => by simpa using hsome hne, by simpa using hfew⟩
  exact hM₁.coerce h.noHost htakes hvs.unwrap kind

theorem numberAs (h : Simulates alone setting r r') (e : Expr) (name : String) (index : Int)
    (hM : Akin alone outer outer' st st') :
    Refines alone (Akin alone outer outer') Eq
      (r.numberAs ⟨setting, outer⟩ e name index st)
      (r'.numberAs ⟨setting, outer'⟩ e name index st') := by
  refine (h.valueAs e .number name index hM).bind fun v v' _ _ hv hM₁ => ?_
  obtain ⟨hv, harg⟩ := hv
  obtain rfl := harg.eq_of_bare hv.bare (by simp)
  cases v' with
  | number x => exact .pure rfl hM₁
  | _ => cases harg

theorem parameter (h : Simulates alone setting r r') (e : Option Expr) (kind : Kind)
    (callee : Identifier) (hM : Akin alone outer outer' st st') :
    Refines alone (Akin alone outer outer') (fun v v' => v.Akin alone v' ∧ v.IsArgument kind)
      (r.parameter ⟨setting, outer⟩ e kind callee st)
      (r'.parameter ⟨setting, outer'⟩ e kind callee st') := by
  cases e with
  | some e => exact h.valueAs e kind callee.name 0 hM
  | none =>
    simp only [Runner.parameter]
    split
    · next hkind =>
      subst hkind
      exact .pure ⟨Value.AllAkin.nil.tuple, rfl⟩ hM
    · exact .raise _ _

/-! ### Expressions -/

/-- A block that takes no children is built from an empty scope. -/
theorem bareBlock (h : Simulates alone setting r r') (range : SourceRange) (name : String)
    {symbol symbol' : Symbol} (hsymbol : Symbol.Akin alone outer.length symbol symbol')
    (hblock : symbol.blockType?.isSome) (hM : Akin alone outer outer' st st') :
    Refines alone (Akin alone outer outer') (Value.Akin alone)
      ((if (symbol.blockType?.getD .primitive).childKinds.isEmpty then do
        let scope := (← Eval.scope).push outer.length (symbol.blockType?.getD .primitive)
        Step.locate range (r.buildIn ⟨setting, outer⟩ scope symbol)
      else throw (.raise (.missingArgument name 0 "block") range.upperBound) : Eval Value) st)
      ((if (symbol'.blockType?.getD .primitive).childKinds.isEmpty then do
        let scope := (← Eval.scope).push outer'.length (symbol'.blockType?.getD .primitive)
        Step.locate range (r'.buildIn ⟨setting, outer'⟩ scope symbol')
      else throw (.raise (.missingArgument name 0 "block") range.upperBound) : Eval Value)
        st') := by
  rw [hsymbol.blockType?]
  split
  · simp only [Eval.scope_bind]
    exact (h.buildIn hsymbol hblock hM (hM.push _)).locate range
  · exact .raise _ _

theorem identifier (h : Simulates alone setting r r') (range : SourceRange) (name : String)
    (hM : Akin alone outer outer' st st') :
    Refines alone (Akin alone outer outer') (Value.Akin alone)
      (r.identifier ⟨setting, outer⟩ range name st)
      (r'.identifier ⟨setting, outer'⟩ range name st') := by
  simp only [Runner.identifier, Env.symbol?_bind]
  rcases hM.symbol name with ⟨hnone, hnone'⟩ | ⟨y, y', hy, hy', hsymbol⟩
  · rw [hnone, hnone']
    exact .raise _ _
  · rw [hy, hy']
    have hbare (hblock : y.blockType?.isSome) :=
      h.bareBlock range name hsymbol hblock hM
    cases hsymbol with
    | command c =>
      dsimp only
      split
      · next hvoid =>
        have harg : Value.void.IsArgument c.parameter := hvoid ▸ rfl
        exact (hM.run c Value.AllAkin.nil.tuple harg).locate range
      · exact .raise _ _
    | property p => exact (hM.get p).locate range
    | constant hv => exact .pure hv hM
    | shape s => exact hbare rfl
    | closure _ _ => exact hbare rfl

theorem callBody (h : Simulates alone setting r r') (options : Bindings Kind) (ss : List Statement)
    (hM : Akin alone outer outer' st st') :
    Refines alone (Akin alone outer outer') Eq
      (r.callBody ⟨setting, outer⟩ options ss st)
      (r'.callBody ⟨setting, outer'⟩ options ss st') := by
  induction ss generalizing st st' with
  | nil => exact .pure rfl hM
  | cons s rest ih =>
    cases s with
    | option range name default => exact .raise _ _
    | command range callee e =>
      simp only [Runner.callBody]
      cases options.get? callee.name with
      | none => exact (h.statement _ hM).bind_eq fun _ _ _ hM₁ => ih hM₁
      | some kind =>
        refine (h.parameter e kind callee hM).bind fun v v' _ _ hv hM₁ => ?_
        exact (hM₁.define callee.name (.constant hv.1)).bind_eq fun _ _ _ hM₂ => ih hM₂
    | _ => exact (h.statement _ hM).bind_eq fun _ _ _ hM₁ => ih hM₁

/-- A block that is called with a body, once it is known which. -/
theorem blockCall (h : Simulates alone setting r r') (callee : Identifier) (body : Block)
    {symbol symbol' : Symbol} (hsymbol : Symbol.Akin alone outer.length symbol symbol')
    (hblock : symbol.blockType?.isSome) (block : BlockType) (hM : Akin alone outer outer' st st') :
    Refines alone (Akin alone outer outer') (Value.Akin alone)
      (Env.inside ⟨setting, outer⟩ { st.scope.push outer.length block with
          callerDefinitions := Scope.visibleDefinitions (st.scope :: outer) } Env.leaveBlock
        (fun inner => do
          r.callBody inner block.options body.statements
          Eval.modifyScope fun s => { s with sourceIndex := st.scope.sourceIndex }
          Step.locate callee.range (r.build inner symbol)) st)
      (Env.inside ⟨setting, outer'⟩ { st'.scope.push outer'.length block with
          callerDefinitions := Scope.visibleDefinitions (st'.scope :: outer') } Env.leaveBlock
        (fun inner => do
          r'.callBody inner block.options body.statements
          Eval.modifyScope fun s => { s with sourceIndex := st'.scope.sourceIndex }
          Step.locate callee.range (r'.build inner symbol')) st') := by
  refine hM.block ?_
  refine (h.callBody _ _ (hM.pushCall block)).bind_eq fun _ _ _ hM₁ => ?_
  refine (hM₁.sourceIndex _ _).bind_eq fun _ _ _ hM₂ => ?_
  exact (h.build hsymbol hblock hM₂).locate _

theorem block (h : Simulates alone setting r r') (callee : Identifier) (body : Block)
    (hM : Akin alone outer outer' st st') :
    Refines alone (Akin alone outer outer') (Value.Akin alone)
      (r.block ⟨setting, outer⟩ callee body st)
      (r'.block ⟨setting, outer'⟩ callee body st') := by
  simp only [Runner.block, Env.symbol?_bind]
  rcases hM.symbol callee.name with ⟨hnone, hnone'⟩ | ⟨y, y', hy, hy', hsymbol⟩
  · rw [hnone, hnone']
    exact .raise _ _
  · rw [hy, hy']
    have hcall (hblock : y.blockType?.isSome) (block : BlockType) :=
      h.blockCall callee body hsymbol hblock block hM
    cases hsymbol with
    | command c => exact .raise _ _
    | property p => exact .raise _ _
    | constant hv => exact .raise _ _
    | shape s => exact hcall rfl s.blockType
    | closure hbare _ =>
      simp only [Symbol.blockType?, Closure.blockType_of_bare hbare]
      exact hcall rfl _

theorem range (h : Simulates alone setting r r') (first last : Expr) (step : Option Expr)
    (hM : Akin alone outer outer' st st') :
    Refines alone (Akin alone outer outer') (Value.Akin alone)
      (r.range ⟨setting, outer⟩ first last step st)
      (r'.range ⟨setting, outer'⟩ first last step st') := by
  refine (h.numberAs first _ _ hM).bind_eq fun start _ _ hM₁ => ?_
  refine (h.numberAs last _ _ hM₁).bind_eq fun stop _ _ hM₂ => ?_
  cases step with
  | none => exact .pure (.flat _ rfl) hM₂
  | some e =>
    refine (h.numberAs e _ _ hM₂).bind_eq fun step _ _ hM₃ => ?_
    cases NumberRange.ofBounds start stop step with
    | ok range => exact .pure (.flat _ rfl) hM₃
    | error x => exact .raise _ _

/-- The member of a value. -/
theorem member {v v' : Value} (hv : v.Akin alone v') (name : Identifier) :
    Gives (fun x => alone → x.IsUsual) (Value.Akin alone) (Runner.member v name)
      (Runner.member v' name) := by
  have hbare : (v'.member? name.name).map Value.bare = (v.member? name.name).map Value.bare := by
    rw [← Value.member?_bare, ← Value.member?_bare, hv.bare]
  unfold Runner.member
  cases hm : v.member? name.name with
  | none => exact .error (fun _ => trivial) _
  | some m =>
    rw [hm, Option.map_some, Option.map_eq_some_iff] at hbare
    obtain ⟨m', hm', hbare⟩ := hbare
    rw [hm']
    exact .ok ⟨hbare, fun halone => (hv.square halone).member hm⟩

/-- **The value of an expression.** -/
theorem evaluate (h : Simulates alone setting r r') (e : Expr)
    (hM : Akin alone outer outer' st st') :
    Refines alone (Akin alone outer outer') (Value.Akin alone)
      (r.evaluate ⟨setting, outer⟩ e st) (r'.evaluate ⟨setting, outer'⟩ e st') := by
  cases e with
  | number range x => exact .pure (.flat _ rfl) hM
  | string range s => exact .pure (.flat _ rfl) hM
  | color range c => exact .pure (.flat _ rfl) hM
  | identifier range name => exact h.identifier range name hM
  | block range callee body => exact h.block callee body hM
  | tuple range items =>
    exact (h.row items hM).bind fun vs vs' _ _ hvs hM₁ => .pure hvs.1.tuple hM₁
  | prefixed range operator operand =>
    refine (h.numberAs operand _ _ hM).bind_eq fun x _ _ hM₁ => ?_
    cases operator <;> exact .pure (.flat _ rfl) hM₁
  | infixed range left operator right =>
    refine (h.numberAs left _ _ hM).bind_eq fun x _ _ hM₁ => ?_
    refine (h.numberAs right _ _ hM₁).bind_eq fun y _ _ hM₂ => ?_
    exact .pure (.flat _ rfl) hM₂
  | range range first last step => exact h.range first last step hM
  | member range object name =>
    refine (h.expression object hM).bind fun v v' _ _ hv hM₁ => ?_
    exact .ofExit (member hv name) hM₁
  | sub range inner => exact h.expression inner hM

end Simulates

end SceneLang
