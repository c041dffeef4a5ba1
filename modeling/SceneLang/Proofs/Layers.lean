import SceneLang.Proofs.Law

/-!
# Expressions under a law

If runners obey a law in the parts of an expression, then so do the functions that run one layer of
it: arguments, names, block calls and operators.  Each function of the evaluator has one lemma here,
which follows its text.  `Proofs.Runs` does the same for statements.
-/

namespace SceneLang

/-! ### Reading the state -/

theorem Eval.scope_bind {β : Type} (f : Scope → Eval β) (st : State) :
    (Eval.scope >>= f) st = f st.scope st := rfl

theorem Env.stack_bind {β : Type} (env : Env) (f : List Scope → Eval β) (st : State) :
    (env.stack >>= f) st = f (st.scope :: env.enclosing) st := rfl

theorem Env.symbol?_bind {β : Type} (env : Env) (name : String) (f : Option Symbol → Eval β)
    (st : State) :
    (env.symbol? name >>= f) st = f (Scope.symbol? (st.scope :: env.enclosing) name) st := rfl

/-- What a name stands for in a scope and where the scope stands decide what it stands for on top of
a stack. -/
theorem Scope.symbol?_of_get? {s s' : Scope} (outer : List Scope) (name : String)
    (hs : s.Extends s') (hname : s'.definitions.get? name = s.definitions.get? name) :
    symbol? (s' :: outer) name = symbol? (s :: outer) name := by
  have hchain : findDefinition? (chain (s' :: outer)) name
      = findDefinition? (chain (s :: outer)) name := by
    simp only [chain, chainFrom, List.length_cons, Nat.add_sub_cancel, if_true, hs.parent]
    cases s.parent with
    | none => simp only [findDefinition?, hname]
    | some p => simp only [findDefinition?, hname]
  rw [symbol?, symbol?, hchain, standard, standard, hs.table]

/-- Only the definitions of a scope and where it stands decide what names stand for. -/
theorem Scope.symbol?_congr {s s' : Scope} (outer : List Scope) (name : String)
    (hs : s.Extends s') (hdefinitions : s'.definitions = s.definitions) :
    symbol? (s' :: outer) name = symbol? (s :: outer) name :=
  symbol?_of_get? outer name hs (by rw [hdefinitions])

/-- What does not depend on when to stop is the same under similar settings. -/
theorem Setting.Similar.apply_right {left right : Setting} {β : Type} (h : left.Similar right)
    (f : Setting → β) (hf : ∀ stop, f { left with isCancelled := stop } = f left) :
    f right = f left := by
  have hright : right = { left with isCancelled := right.isCancelled } := by
    rw [← h.host_eq, ← h.parse_eq]
  rw [hright]
  exact hf right.isCancelled

/-! ### Scopes for blocks -/

theorem Scope.suits_push (s : Scope) (level : Nat) {symbol : Symbol} {block : BlockType}
    (h : symbol.blockType? = some block) : (s.push level block).Suits symbol := by
  intro b hb
  rw [h] at hb
  cases hb
  rfl

theorem Scope.Gains.suits {s s' : Scope} {symbol : Symbol} (h : s.Gains s') (hs : s.Suits symbol) :
    s'.Suits symbol :=
  h.extends.suits hs

namespace Runner

/-- The children that a block is called with are of the kinds that it takes. -/
theorem gather_gains {name : String} {place : SourceRange} {vs : List Value} {s s' : Scope}
    (h : gather name place vs s = .ok s') : s.Gains s' := by
  induction vs generalizing s with
  | nil => cases h; exact Scope.Gains.refl _
  | cons v rest ih =>
    have hadd := (Scope.added_add v s).gains
    unfold gather at h
    cases hres : Scope.add v s with
    | ok a s₁ =>
      rw [hres] at hadd h
      exact hadd.trans (ih h)
    | error x s₁ =>
      rw [hres] at h
      cases x <;> cases h

theorem settled_gather {points : SourceRange → Prop} {place : SourceRange} (hplace : points place)
    (name : String) (vs : List Value) (s : Scope) :
    Settled points .placed (gather name place vs s) := by
  induction vs generalizing s with
  | nil => exact .ok s
  | cons v rest ih =>
    have hadd := (Scope.added_add v s).exit
    unfold gather
    cases hres : Scope.add v s with
    | ok a s₁ => exact ih s₁
    | error x s₁ =>
      cases x with
      | error e => exact .raise rfl hplace
      | fault f => exact .fault f
      | cancelled => exact (hadd _ s₁ hres points).allowed.elim
      | exhausted => exact absurd rfl (hadd _ s₁ hres points).ends

theorem gatherAll_gains {r : Runner} {env : Env} {name : String} {es : List Expr} {s s' : Scope}
    {st st' : State} (h : r.gatherAll env name es s st = .ok s' st') : s.Gains s' := by
  induction es generalizing s st with
  | nil => cases h; exact Scope.Gains.refl _
  | cons e rest ih =>
    rw [gatherAll] at h
    cases hv : r.expression env e st with
    | error x st₁ => rw [Step.bind_error _ hv] at h; cases h
    | ok v st₁ =>
      rw [Step.bind_ok _ hv] at h
      cases hg : gather name e.sourceRange v.elements s with
      | error x => rw [hg] at h; cases h
      | ok s₁ =>
        rw [hg] at h
        exact (gather_gains hg).trans (ih h)

/-- What a name takes is read off the scopes alone, and a block takes the children of its kind. -/
theorem appetiteOf_read (outer : List Scope) (e : Expr) (st : State) :
    ∃ a : Appetite,
      (∀ {β : Type} (setting : Setting) (f : Appetite → Eval β),
        (appetiteOf ⟨setting, outer⟩ e >>= f) st = f a st) ∧
      ∀ symbol block, a = .children symbol block → symbol.blockType? = some block ∧
        ∃ name, Scope.symbol? (st.scope :: outer) name = some symbol := by
  cases e with
  | identifier range name =>
    refine ⟨appetite (Scope.symbol? (st.scope :: outer) name), fun _ _ => rfl, ?_⟩
    intro symbol block h
    cases hsymbol : Scope.symbol? (st.scope :: outer) name with
    | none => rw [hsymbol] at h; cases h
    | some found =>
      rw [hsymbol] at h
      unfold appetite at h
      split at h
      · split at h <;> cases h
      · rename_i heq
        cases heq
        split at h <;> cases h
        exact ⟨rfl, name, hsymbol⟩
      · rename_i heq
        cases heq
        split at h <;> cases h
        exact ⟨rfl, name, hsymbol⟩
      · cases h
  | _ => exact ⟨.nothing, fun _ _ => rfl, fun _ _ h => by cases h⟩

theorem settled_member {points : SourceRange → Prop} {name : Identifier} (hname : points name.range)
    (v : Value) : Settled points .placed (member v name) := by
  unfold member
  split
  · exact .ok _
  · exact .raise rfl hname

end Runner

namespace Law

variable {base : Setting} {κ : Type} (L : Law base κ) {outer : List Scope} {files : List FilePath}
  {st : State}

/-! ### Places in the script -/

theorem points_sourceRange {e : Expr} (he : L.Writes files (.expression e)) :
    L.Points files e.sourceRange :=
  L.own he e.sourceRange_mem_ranges

/-- An expression without its parentheses belongs to the script. -/
theorem writes_stripped {e : Expr} (he : L.Writes files (.expression e)) :
    L.Writes files (.expression (Argument.stripped e)) := by
  fun_induction Argument.stripped e with
  | case1 range inner ih => exact ih (L.part he List.mem_cons_self)
  | case2 e => exact he

theorem points_elementRange {e : Expr} (he : L.Writes files (.expression e)) (i : Nat) :
    L.Points files (Argument.elementRange e i) := by
  have hstripped := L.writes_stripped he
  unfold Argument.elementRange
  split
  · rename_i range items heq
    rw [heq] at hstripped
    split
    · rename_i item hitem
      have hpart : Task.expression item ∈ (Task.expression (.tuple range items)).parts :=
        List.mem_map_of_mem (List.mem_of_getElem? hitem)
      exact L.points_sourceRange (L.part hstripped hpart)
    · exact L.points_sourceRange he
  · exact L.points_sourceRange he

/-- The parameters that an expression stands for belong to the script. -/
theorem writes_parametersOf {e : Expr} (he : L.Writes files (.expression e)) :
    ∀ p ∈ Runner.parametersOf e, L.Writes files (.expression p) := by
  intro p hp
  cases e with
  | tuple range items => exact L.part he (List.mem_map_of_mem hp)
  | _ => exact List.mem_singleton.mp hp ▸ he

theorem points_rowRange {first : Expr} {rest : List Expr}
    (h : ∀ e ∈ first :: rest, L.Writes files (.expression e)) :
    L.Points files (Runner.rowRange first rest) := by
  refine L.through (L.points_sourceRange (h first List.mem_cons_self)) ?_
  refine L.points_sourceRange (h _ ?_)
  rw [List.getLastD_eq_getLast?]
  cases hlast : rest.getLast? with
  | none => exact List.mem_cons_self
  | some e => exact List.mem_cons_of_mem _ (List.mem_of_getLast? hlast)

/-- The errors of an argument point into the script. -/
theorem within_argument {a : Argument} (hwhole : L.Points files a.range)
    (h : ∀ p ∈ a.parameters, L.Writes files (.expression p)) : a.Within (L.Points files) where
  whole := hwhole
  parameter p hp := L.points_sourceRange (h p hp)
  bound p hp := L.upperBound (L.points_sourceRange (h p hp))
  element p hp i := L.points_elementRange (h p hp) i

/-! ### Steps that do not depend on when to stop -/

theorem good_coerce {a : Argument} (ha : a.Within (L.Points files)) (kind : Kind)
    (values : List Value) (hI : L.Holds .expression outer files st) :
    L.Good .expression .placed outer files st fun k => a.coerce (L.setting k) kind values st := by
  have hsame (k : κ) : a.coerce (L.setting k) kind values = a.coerce base kind values :=
    (L.similar k).apply_right (fun s => a.coerce s kind values) fun _ => rfl
  simp only [hsame]
  exact .primitive (ha.primitive_coerce base kind values) hI

theorem good_run (c : Command) (v : Value) (hI : L.Holds .expression outer files st) :
    L.Good .expression .unplaced outer files st fun k => c.run (L.setting k) v st := by
  have hsame (k : κ) : c.run (L.setting k) v = c.run base v :=
    (L.similar k).apply_right (fun s => c.run s v) fun _ => rfl
  simp only [hsame]
  exact .primitive (primitive_run base c v) hI

theorem good_shape (shape : Shape) (hI : L.Holds .expression outer files st) :
    L.Good .expression .unplaced outer files st fun k => shape.build (L.setting k) st := by
  have hsame (k : κ) : shape.build (L.setting k) = shape.build base :=
    (L.similar k).apply_right (fun s => shape.build s) fun _ => rfl
  simp only [hsame]
  exact .primitive (primitive_build base shape) hI

theorem good_resolve (path : String) (hI : L.Holds .expression outer files st) :
    L.Good .expression .unplaced outer files st fun k => (L.setting k).resolve path st := by
  have hsame (k : κ) : (L.setting k).resolve path = base.resolve path :=
    (L.similar k).apply_right (fun s => s.resolve path) fun _ => rfl
  simp only [hsame]
  exact .primitive (primitive_resolve base path) hI

/-- Defining a name. -/
theorem good_define {blame : Blame} {symbol : Symbol} (name : String)
    (hI : L.Holds .statement outer files st) (h : Made outer st.scope symbol)
    (hbody : ∀ c, symbol = .closure c → ∀ s ∈ c.body.statements, L.Writes files (.statement s)) :
    L.Good .statement blame outer files st fun _ =>
      Eval.modifyScope (fun s => s.define name symbol) st := by
  have hframe : Frame .statement st { st with scope := st.scope.define name symbol } :=
    ⟨Scope.Extends.of_eq rfl, World.Grows.refl st.world⟩
  exact ⟨fun _ => hframe, fun _ => L.define name hI h hbody,
    L.plain ⟨hframe, rfl, rfl, fun _ _ hx => by cases hx⟩ fun _ _ hx => by cases hx⟩

/-- Defining a constant. -/
theorem good_constant {blame : Blame} (name : String) (v : Value)
    (hI : L.Holds .statement outer files st) :
    L.Good .statement blame outer files st fun _ =>
      Eval.modifyScope (fun s => s.define name (.constant v)) st :=
  L.good_define name hI (.constant v) nofun

/-- **A task whose text is that of the script**: its parts belong to it and its ranges can be
pointed at. -/
structure Owns (files : List FilePath) (t : Task) : Prop where
  parts : ∀ t' ∈ t.parts, L.Writes files t'
  ranges : ∀ r ∈ t.ranges, L.Points files r

theorem owns_of_writes {t : Task} (h : L.Writes files t) : L.Owns files t :=
  ⟨fun _ ht => L.part h ht, fun _ hr => L.own h hr⟩

namespace Agree

variable {L : Law base κ} {R : κ → Runner}

/-! ### Statements in a row -/

theorem statements (h : L.Agree R) {ss : List Statement}
    (hss : ∀ s ∈ ss, L.Writes files (.statement s)) (hI : L.Holds .statement outer files st) :
    L.Good .statement .placed outer files st fun k =>
      (R k).statements ⟨L.setting k, outer⟩ ss st := by
  induction ss generalizing st with
  | nil => exact .pure () hI
  | cons s rest ih =>
    obtain ⟨hs, hrest⟩ := List.forall_mem_cons.mp hss
    exact (h.statement hs hI).bind fun _ st₁ _ hI₁ => ih hrest hI₁

theorem bodyStatements (h : L.Agree R) {ss : List Statement}
    (hss : ∀ s ∈ ss, L.Writes files (.statement s)) (hI : L.Holds .statement outer files st) :
    L.Good .statement .placed outer files st fun k =>
      (R k).bodyStatements ⟨L.setting k, outer⟩ ss st := by
  induction ss generalizing st with
  | nil => exact .pure () hI
  | cons s rest ih =>
    obtain ⟨hs, hrest⟩ := List.forall_mem_cons.mp hss
    cases s with
    | option range name default =>
      simp only [Runner.bodyStatements, Env.symbol?_bind]
      by_cases hnone : (Scope.symbol? (st.scope :: outer) name.name).isNone
      · -- the caller gave no value: the default is evaluated and kept
        simp only [hnone, if_true]
        have hvalue := h.expression (L.part hs List.mem_cons_self) (L.expression hI)
        refine (hvalue.statement hI).bind fun v st₁ _ hI₁ => ?_
        exact (L.good_constant name.name v hI₁).bind fun _ st₂ _ hI₂ => ih hrest hI₂
      · simp only [hnone]
        exact ih hrest hI
    | _ => exact (h.statement hs hI).bind fun _ st₁ _ hI₁ => ih hrest hI₁

/-- A block that is built in a scope of its own. -/
theorem buildIn (h : L.Agree R) {symbol : Symbol} {block : BlockType} {name : String} {s : Scope}
    (hname : Scope.symbol? (st.scope :: outer) name = some symbol)
    (hb : symbol.blockType? = some block) (hs : (st.scope.push outer.length block).Gains s)
    (hI : L.Holds .expression outer files st) :
    L.Good .expression .unplaced outer files st fun k =>
      (R k).buildIn ⟨L.setting k, outer⟩ s symbol st := by
  refine .block hI ?_
  have hinner := L.enter hI (.block hs)
  have hsuits : s.Suits symbol := hs.suits (Scope.suits_push st.scope _ hb)
  exact (h.build hname hsuits hinner).statement hinner

/-! ### Arguments -/

theorem gatherAll (h : L.Agree R) {es : List Expr} (name : String)
    (hes : ∀ e ∈ es, L.Writes files (.expression e)) (s : Scope)
    (hI : L.Holds .expression outer files st) :
    L.Good .expression .placed outer files st fun k =>
      (R k).gatherAll ⟨L.setting k, outer⟩ name es s st := by
  induction es generalizing st s with
  | nil => exact .pure s hI
  | cons e rest ih =>
    obtain ⟨he, hrest⟩ := List.forall_mem_cons.mp hes
    refine (h.expression he hI).bind fun v st₁ _ hI₁ => ?_
    refine .primitive_bind (.ofExit ?_) hI₁ fun s₁ st₂ _ _ hI₂ => ih hrest s₁ hI₂
    exact Runner.settled_gather (L.points_sourceRange he) _ _ _

theorem row (h : L.Agree R) {es : List Expr} (hes : ∀ e ∈ es, L.Writes files (.expression e))
    (hI : L.Holds .expression outer files st) :
    L.Good .expression .placed outer files st fun k =>
      (R k).row ⟨L.setting k, outer⟩ es st := by
  induction es generalizing st with
  | nil => exact .pure [] hI
  | cons e rest ih =>
    obtain ⟨he, hrest⟩ := List.forall_mem_cons.mp hes
    have hfirst := h.expression he hI
    cases rest with
    | nil => exact hfirst.bind_primitive fun v => .pure _
    | cons next rest =>
      obtain ⟨a, hread, hchildren⟩ := Runner.appetiteOf_read outer e st
      simp only [Runner.row, hread]
      cases a with
      | argument c =>
        -- the command takes the rest as its argument
        have hrange := L.points_rowRange hrest
        refine (ih hrest hI).bind fun values st₁ _ hI₁ => ?_
        refine (L.good_coerce (L.within_argument hrange hrest) _ _ hI₁).bind fun v st₂ _ hI₂ => ?_
        exact ((L.good_run c v hI₂).locate hrange).bind_primitive fun w => .pure _
      | children symbol block =>
        -- the block takes the rest as its children, in a scope that was opened before
        simp only [Eval.scope_bind, Env.level]
        obtain ⟨hb, name, hname⟩ := hchildren symbol block rfl
        refine (h.gatherAll _ hrest _ hI).bind_of_ok fun s st₁ hok hframe hI₁ => ?_
        have hgains : (st.scope.push outer.length block).Gains s := by
          obtain ⟨k, hk⟩ := hok
          exact Runner.gatherAll_gains hk
        have hscope : st.scope.Moves st₁.scope := hframe.scope
        rw [← hscope.push] at hgains
        rw [← Scope.symbol?_congr outer name hscope.extends (by rw [hscope])] at hname
        have hbuild := h.buildIn hname hb hgains hI₁
        exact (hbuild.locate (L.points_sourceRange he)).bind_primitive fun w => .pure _
      | nothing =>
        refine hfirst.bind fun v st₁ _ hI₁ => ?_
        exact (ih hrest hI₁).bind_primitive fun vs => .pure _

theorem valueAs (h : L.Agree R) {e : Expr} (he : L.Writes files (.expression e)) (kind : Kind)
    (name : String) (index : Int) (hI : L.Holds .expression outer files st) :
    L.Good .expression .placed outer files st fun k =>
      (R k).valueAs ⟨L.setting k, outer⟩ e kind name index st := by
  have hparameters := L.writes_parametersOf he
  refine (h.row hparameters hI).bind fun values st₁ _ hI₁ => ?_
  exact L.good_coerce (L.within_argument (L.points_sourceRange he) hparameters) _ _ hI₁

theorem numberAs (h : L.Agree R) {e : Expr} (he : L.Writes files (.expression e)) (name : String)
    (index : Int) (hI : L.Holds .expression outer files st) :
    L.Good .expression .placed outer files st fun k =>
      (R k).numberAs ⟨L.setting k, outer⟩ e name index st := by
  refine (h.valueAs he .number name index hI).bind_primitive fun v => ?_
  cases v with
  | number x => exact .pure x
  | _ => exact .wrongKind

theorem parameter (h : L.Agree R) {e : Option Expr} {callee : Identifier}
    (he : ∀ x ∈ e, L.Writes files (.expression x)) (hcallee : L.Points files callee.range)
    (kind : Kind) (hI : L.Holds .expression outer files st) :
    L.Good .expression .placed outer files st fun k =>
      (R k).parameter ⟨L.setting k, outer⟩ e kind callee st := by
  cases e with
  | some e => exact h.valueAs (he e rfl) kind callee.name 0 hI
  | none =>
    simp only [Runner.parameter]
    split
    · exact .pure _ hI
    · exact .raise rfl (L.upperBound hcallee) hI

/-! ### Expressions -/

/-- A block that takes no children is built from an empty scope. -/
theorem bareBlock (h : L.Agree R) {range : SourceRange} {name : String} {symbol : Symbol}
    {block : BlockType} (hrange : L.Points files range)
    (hname : Scope.symbol? (st.scope :: outer) name = some symbol)
    (hb : symbol.blockType? = some block) (hI : L.Holds .expression outer files st) :
    L.Good .expression .placed outer files st fun k =>
      (if (symbol.blockType?.getD .primitive).childKinds.isEmpty then do
        let scope := (← Eval.scope).push outer.length (symbol.blockType?.getD .primitive)
        Step.locate range ((R k).buildIn ⟨L.setting k, outer⟩ scope symbol)
      else throw (.raise (.missingArgument name 0 "block") range.upperBound) : Eval Value) st := by
  simp only [hb, Option.getD_some]
  by_cases hempty : block.childKinds.isEmpty
  · simp only [hempty, if_true, Eval.scope_bind]
    exact (h.buildIn hname hb (Scope.Gains.refl _) hI).locate hrange
  · simp only [hempty]
    exact .raise rfl (L.upperBound hrange) hI

theorem identifier (h : L.Agree R) {range : SourceRange} (hrange : L.Points files range)
    (name : String) (hI : L.Holds .expression outer files st) :
    L.Good .expression .placed outer files st fun k =>
      (R k).identifier ⟨L.setting k, outer⟩ range name st := by
  simp only [Runner.identifier, Runner.unknown, Env.symbol?_bind]
  cases hname : Scope.symbol? (st.scope :: outer) name with
  | none =>
    simp only [Env.stack_bind]
    exact .raise rfl hrange hI
  | some symbol =>
    cases symbol with
    | command c =>
      by_cases hvoid : c.parameter = .void
      · simp only [hvoid, if_true]
        exact (L.good_run c .void hI).locate hrange
      · simp only [hvoid, if_false]
        exact .raise rfl (L.upperBound hrange) hI
    | property p => exact .primitive (.locate (primitive_get p) hrange) hI
    | constant v => exact .pure v hI
    | shape _ | closure _ => exact h.bareBlock hrange hname rfl hI

theorem callBody (h : L.Agree R) (options : Bindings Kind) {ss : List Statement}
    (hss : ∀ s ∈ ss, L.Writes files (.statement s)) (hI : L.Holds .statement outer files st) :
    L.Good .statement .placed outer files st fun k =>
      (R k).callBody ⟨L.setting k, outer⟩ options ss st := by
  induction ss generalizing st with
  | nil => exact .pure () hI
  | cons s rest ih =>
    obtain ⟨hs, hrest⟩ := List.forall_mem_cons.mp hss
    have hrun := h.statement hs hI
    cases s with
    | option range name default => exact .raise rfl (L.own hs List.mem_cons_self) hI
    | command range callee e =>
      simp only [Runner.callBody]
      cases options.get? callee.name with
      | none => exact hrun.bind fun _ st₁ _ hI₁ => ih hrest hI₁
      | some kind =>
        -- the command sets an option
        have hcallee : L.Points files callee.range :=
          L.own hs (List.mem_cons_of_mem _ List.mem_cons_self)
        have he : ∀ x ∈ e, L.Writes files (.expression x) := fun x hx =>
          L.part hs (List.mem_map_of_mem (Option.mem_toList.mpr hx))
        have hvalue := (h.parameter he hcallee kind (L.expression hI)).statement hI
        refine hvalue.bind fun v st₁ _ hI₁ => ?_
        exact (L.good_constant callee.name v hI₁).bind fun _ st₂ _ hI₂ => ih hrest hI₂
    | _ => exact hrun.bind fun _ st₁ _ hI₁ => ih hrest hI₁

theorem block (h : L.Agree R) {callee : Identifier} {body : Block}
    (hcallee : L.Points files callee.range) (hbody : L.Points files body.sourceRange)
    (hss : ∀ s ∈ body.statements, L.Writes files (.statement s))
    (hI : L.Holds .expression outer files st) :
    L.Good .expression .placed outer files st fun k =>
      (R k).block ⟨L.setting k, outer⟩ callee body st := by
  simp only [Runner.block, Runner.unknown, Env.symbol?_bind]
  cases hname : Scope.symbol? (st.scope :: outer) callee.name with
  | none =>
    simp only [Env.stack_bind]
    exact .raise rfl hcallee hI
  | some symbol =>
    cases symbol with
    | command c => exact .raise rfl hbody hI
    | property p => exact .raise rfl hbody hI
    | constant v => exact .raise rfl hbody hI
    | shape x | closure x =>
      simp only [Symbol.blockType?, Eval.scope_bind, Env.stack_bind, Env.level]
      refine Good.block hI ?_
      have hinner := L.enter hI (.call x.blockType)
      refine (h.callBody _ hss hinner).bind fun _ st₁ hframe hI₁ => ?_
      refine .primitive_bind (.modifyScope (fun _ => .of_eq rfl) fun _ => rfl) hI₁ ?_
      intro _ st₂ hframe' _ hI₂
      refine ((h.build hname ?_ hI₂).locate hcallee).statement hI₂
      exact Scope.Extends.suits (hframe.trans hframe').scope
        (Scope.suits_push st.scope outer.length rfl)

theorem range (h : L.Agree R) {first last : Expr} {step : Option Expr}
    (hfirst : L.Writes files (.expression first)) (hlast : L.Writes files (.expression last))
    (hstep : ∀ x ∈ step, L.Writes files (.expression x))
    (hI : L.Holds .expression outer files st) :
    L.Good .expression .placed outer files st fun k =>
      (R k).range ⟨L.setting k, outer⟩ first last step st := by
  refine (h.numberAs hfirst _ _ hI).bind fun start st₁ _ hI₁ => ?_
  refine (h.numberAs hlast _ _ hI₁).bind fun stop st₂ _ hI₂ => ?_
  cases step with
  | none => exact .pure _ hI₂
  | some e =>
    refine (h.numberAs (hstep e rfl) _ _ hI₂).bind_primitive fun step => ?_
    split
    · exact .pure _
    · exact .throw (.raise .placed rfl (L.points_sourceRange (hstep e rfl)))

/-- **The value of an expression.** -/
theorem evaluate (h : L.Agree R) {e : Expr} (he : L.Owns files (.expression e))
    (hI : L.Holds .expression outer files st) :
    L.Good .expression .placed outer files st fun k =>
      (R k).evaluate ⟨L.setting k, outer⟩ e st := by
  obtain ⟨hparts, hranges⟩ := he
  cases e with
  | number range x => exact .pure _ hI
  | string range s => exact .pure _ hI
  | color range c => exact .pure _ hI
  | identifier range name => exact h.identifier (hranges _ List.mem_cons_self) name hI
  | block range callee body =>
    have hss : ∀ s ∈ body.statements, L.Writes files (.statement s) :=
      fun s hs => hparts _ (List.mem_map_of_mem hs)
    exact h.block (hranges _ (by simp [Task.ranges, Expr.ranges]))
      (hranges _ (by simp [Task.ranges, Expr.ranges])) hss hI
  | tuple range items =>
    have hitems : ∀ x ∈ items, L.Writes files (.expression x) :=
      fun x hx => hparts _ (List.mem_map_of_mem hx)
    exact (h.row hitems hI).bind_primitive fun vs => .pure _
  | prefixed range operator operand =>
    refine (h.numberAs (hparts _ List.mem_cons_self) _ _ hI).bind_primitive fun x => ?_
    cases operator <;> exact .pure _
  | infixed range left operator right =>
    refine (h.numberAs (hparts _ List.mem_cons_self) _ _ hI).bind fun x st₁ _ hI₁ => ?_
    have hright := hparts (.expression right) (List.mem_cons_of_mem _ List.mem_cons_self)
    exact (h.numberAs hright _ _ hI₁).bind_primitive fun y => .pure _
  | range range first last step =>
    refine h.range (hparts _ List.mem_cons_self)
      (hparts _ (List.mem_cons_of_mem _ List.mem_cons_self)) (fun x hx => hparts _ ?_) hI
    exact List.mem_cons_of_mem _ (List.mem_cons_of_mem _
      (List.mem_map_of_mem (Option.mem_toList.mpr hx)))
  | member range object name =>
    have hname : L.Points files name.range :=
      hranges _ (List.mem_cons_of_mem _ List.mem_cons_self)
    refine (h.expression (hparts _ List.mem_cons_self) hI).bind_primitive fun v => ?_
    exact .ofExit (Runner.settled_member hname v)
  | sub range inner => exact h.expression (hparts _ List.mem_cons_self) hI

end Agree

end Law

end SceneLang
