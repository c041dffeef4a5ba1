import SceneLang.Proofs.BareCalls
import SceneLang.Proofs.Leaves
import SceneLang.Proofs.LocalNames
import SceneLang.Proofs.Rows

/-!
# Block calls inside of arguments

A block that takes children can be called with them after its name, as a statement or inside of an
argument.  The statement finds the values of the children as those of a row, where the name of a
command or of a block takes what follows it.  The argument finds the value of each child by itself,
where such a name has nothing to take.  So the two agree exactly if no child but the last is a name
that takes the rest (`blockCall_nests`), and otherwise the argument is refused although the statement
works (`Lattice.blockCall_not_nested`).

Where they agree the block gets the same children, because a value is added as its leaves are
(`Scope.addAll_leavesAll`), and so it builds the same.  The statement marks the scope that it stands
in, but an expression does not look at the mark (`Runner.expression_remarked`): only the places of
nodes can differ.
-/

namespace SceneLang

/-! ### Collecting children -/

/-- **The children of a block that is called with them** are added like any values. -/
theorem Runner.gather_eq_ok_iff {name : String} {place : SourceRange} {vs : List Value}
    {s s' : Scope} : gather name place vs s = .ok s' ↔ Scope.addAll vs s = .ok () s' := by
  induction vs generalizing s with
  | nil =>
    constructor
    · intro h
      cases h
      rfl
    · intro h
      cases h
      rfl
  | cons v rest ih =>
    rw [gather, Scope.addAll, Step.bind_eq_ok_iff]
    cases hadd : Scope.add v s with
    | ok u s₁ =>
      rw [ih]
      constructor
      · intro h
        exact ⟨u, s₁, rfl, h⟩
      · rintro ⟨u', s₂, h, hrest⟩
        cases h
        exact hrest
    | error x s₁ =>
      refine iff_of_false ?_ ?_
      · intro h
        cases x <;> cases h
      · rintro ⟨u, s₂, h, -⟩
        cases h

/-! ### Rows and marks -/

/-- What an expression takes is a matter of names alone. -/
theorem Runner.appetiteAt_congr {s s' : Scope} (outer : List Scope) (e : Expr)
    (h : s.Extends s') (hdefinitions : s'.definitions = s.definitions) :
    appetiteAt (s' :: outer) e = appetiteAt (s :: outer) e := by
  cases e with
  | identifier range name =>
    rw [appetiteAt, Scope.symbol?_congr outer name h hdefinitions]
    rfl
  | _ => rfl

theorem Scope.Moves.appetiteAt {s s' : Scope} (h : s.Moves s') (outer : List Scope) (e : Expr) :
    Runner.appetiteAt (s' :: outer) e = Runner.appetiteAt (s :: outer) e :=
  Runner.appetiteAt_congr outer e h.extends (by rw [h])

theorem Scope.Remarked.appetiteAt {s s' : Scope} (h : s.Remarked s') (outer : List Scope)
    (e : Expr) : Runner.appetiteAt (s' :: outer) e = Runner.appetiteAt (s :: outer) e := by
  refine Runner.appetiteAt_congr outer e ?_ (by rw [h])
  rw [h]
  exact .of_eq rfl

namespace Runner

section Rows

variable {fuel : Nat} {env : Env} {st st' : State} {s s' : Scope} {e : Expr}
  {before es : List Expr} {ws : List Value}

/-- An expression moves children at most. -/
theorem moves_expression {v : Value} (h : (ofFuel fuel).expression env e st = .ok v st') :
    st.scope.Moves st'.scope := by
  obtain ⟨setting, outer⟩ := env
  have hframe := ((agree_self setting fuel).expression outer e st trivial).frame
  rw [h] at hframe
  exact hframe.scope

/-- Without fuel there are no values. -/
theorem row_zero_ne_ok (hes : es ≠ []) : (ofFuel 0).row env es st ≠ .ok ws st' := by
  intro h
  induction es generalizing st st' ws with
  | nil => exact hes rfl
  | cons e rest ih =>
    cases rest with
    | nil => cases h
    | cons next rest =>
      cases happetite : appetiteAt (st.scope :: env.enclosing) e with
      | argument c =>
        rw [row_argument happetite] at h
        obtain ⟨values, st₁, hrow, -⟩ := Step.bind_eq_ok_iff.mp h
        exact ih (List.cons_ne_nil _ _) hrow
      | children symbol block =>
        rw [row_children happetite] at h
        cases h
      | nothing =>
        rw [row_nothing (fun htakes => htakes happetite)] at h
        cases h

/-- A name that takes the rest has no value by itself. -/
theorem expression_of_takesRest (h : TakesRest (st.scope :: env.enclosing) e) :
    ∃ what, (ofFuel (fuel + 1)).expression env e st
      = .error (.raise (.missingArgument (nameOf e) 0 what) e.sourceRange.upperBound) st := by
  cases e with
  | identifier range name =>
    have htakes : appetite (Scope.symbol? (st.scope :: env.enclosing) name) ≠ .nothing := h
    show ∃ what, (ofFuel fuel).identifier env range name st = _
    simp only [identifier, Env.symbol?_bind]
    cases hsymbol : Scope.symbol? (st.scope :: env.enclosing) name with
    | none =>
      rw [hsymbol] at htakes
      exact absurd rfl htakes
    | some symbol =>
      rw [hsymbol] at htakes
      cases symbol with
      | command c =>
        have hparameter : c.parameter ≠ .void := fun hvoid => htakes (if_pos hvoid)
        simp only [if_neg hparameter]
        exact ⟨_, rfl⟩
      | shape shape =>
        have hkinds : ¬shape.blockType.childKinds.isEmpty := fun hnone => htakes (if_pos hnone)
        exact ⟨_, congrFun (if_neg hkinds) st⟩
      -- a defined block takes no children
      | _ => exact absurd rfl htakes
  | _ => exact absurd rfl h

/-- **As long as no name takes the rest, children are found as the values of a row are.**  What is
left of the expressions is left in both, in the same state. -/
theorem gatherAll_of_row (name : String) {rest : List Expr} (hrest : rest ≠ [])
    (hbefore : ∀ e ∈ before, ¬TakesRest (st.scope :: env.enclosing) e)
    (hrow : (ofFuel fuel).row env (before ++ rest) st = .ok ws st')
    (hadd : Scope.addAll ws s = .ok () s') :
    ∃ ws₁ st₁ s₁, (ofFuel fuel).row env rest st₁ = .ok ws₁ st' ∧ Scope.addAll ws₁ s₁ = .ok () s' ∧
      st.scope.Moves st₁.scope ∧
      (ofFuel fuel).gatherAll env name (before ++ rest) s st
        = (ofFuel fuel).gatherAll env name rest s₁ st₁ := by
  induction before generalizing st s ws with
  | nil => exact ⟨ws, st, s, hrow, hadd, .refl _, rfl⟩
  | cons e before ih =>
    obtain ⟨he, hbefore⟩ := List.forall_mem_cons.mp hbefore
    obtain ⟨next, rest', hnext⟩ := List.exists_cons_of_ne_nil
      (List.append_ne_nil_of_right_ne_nil before hrest)
    rw [List.cons_append, hnext, row_nothing he, ← hnext] at hrow
    obtain ⟨v, st₁, hv, hrow⟩ := Step.bind_eq_ok_iff.mp hrow
    obtain ⟨vs, st₂, hvs, hrow⟩ := Step.bind_eq_ok_iff.mp hrow
    cases hrow
    rw [Scope.addAll] at hadd
    obtain ⟨u, s₁, hs₁, hadd⟩ := Step.bind_eq_ok_iff.mp hadd
    have hmoves : st.scope.Moves st₁.scope := moves_expression hv
    have hbefore₁ : ∀ e ∈ before, ¬TakesRest (st₁.scope :: env.enclosing) e := by
      intro e' he'
      rw [TakesRest, hmoves.appetiteAt]
      exact hbefore e' he'
    obtain ⟨ws₂, st₂, s₂, hrow₂, hadd₂, hmoves₂, hgather⟩ := ih hbefore₁ hvs hadd
    refine ⟨ws₂, st₂, s₂, hrow₂, hadd₂, hmoves.trans hmoves₂, ?_⟩
    have hfirst : gather name e.sourceRange v.elements s = .ok s₁ := by
      rw [gather_eq_ok_iff, Scope.addAll_elements]
      exact hs₁
    rw [List.cons_append, gatherAll, Step.bind_ok _ hv, hfirst, ← hgather]
    rfl

end Rows

end Runner

/-! ### Marks -/

theorem Gap.raise_of_no_gap (low height : Nat) : (⟨low, 0⟩ : Gap).raise height = height := by
  unfold raise
  split <;> rfl

/-- A gap of no scopes raises nothing. -/
theorem Bindings.Raised.of_no_gap (low : Nat) (b : Bindings Symbol) : b.Raised ⟨low, 0⟩ b := by
  have hsymbol (y : Symbol) : y.unmarked = y.raise ⟨low, 0⟩ := by
    cases y with
    | closure c => simp only [Symbol.unmarked, Symbol.raise, Closure.raise, Gap.raise_of_no_gap]
    | _ => rfl
  rw [Bindings.Raised, funext hsymbol]

theorem Scope.Remarked.refl (s : Scope) : s.Remarked s := rfl

theorem Scope.Remarked.raised {s s' : Scope} (h : s.Remarked s') (low : Nat) :
    s.Raised ⟨low, 0⟩ s' := by
  rw [h]
  exact ⟨rfl, .of_no_gap low _, .of_no_gap low _⟩

/-- The state in which a statement that stands at an index builds its block. -/
def State.marked (index : Int) (st : State) : State :=
  { st with scope := { st.scope with sourceIndex := some index } }

theorem State.remarked_marked (index : Int) (st : State) :
    st.scope.Remarked (st.marked index).scope := rfl

/-- **States that differ in a mark**, and in where printed nodes were written. -/
structure State.Marks (index : Int) (st st' : State) : Prop where
  scope : st'.scope = { st.scope with sourceIndex := some index }
  world : st'.world.seen = st.world.seen

/-- **An expression does not look at the mark of the scope that it stands in**: whatever that is, it
gives the same value without places, or stops for the same reason. -/
theorem Runner.expression_marked (fuel : Nat) (env : Env) (e : Expr) (index : Int) (st : State) :
    Matches (State.Marks index) (fun v v' => v'.bare = v.bare) (runExpression fuel env e st)
      (runExpression fuel env e (st.marked index)) := by
  obtain ⟨setting, outer⟩ := env
  let g : Gap := ⟨outer.length, 0⟩
  have houter : Raised g outer ([] ++ outer) :=
    .gap rfl rfl (List.forall₂_same.mpr fun s _ => ⟨(Scope.Remarked.refl s).raised _, rfl⟩)
  have hparent : (st.marked index).scope.parent = st.scope.parent.map g.raise := by
    rw [funext (Gap.raise_of_no_gap outer.length), Option.map_id']
    rfl
  have hlifted : Lifted g outer outer st (st.marked index) :=
    ⟨(st.remarked_marked index).raised _, hparent, houter, rfl⟩
  have hmatches : Matches (Lifted g outer outer) (Value.Akin False)
      (runExpression fuel ⟨setting, outer⟩ e st)
      (runExpression fuel ⟨setting, outer⟩ e (st.marked index)) :=
    (overlooks_ofFuel g setting fuel).expression e hlifted
  -- of the scope only the place of further children can change
  have hmoves (st : State) : st.scope.Moves
      (Result.state (runExpression fuel ⟨setting, outer⟩ e st)).scope :=
    ((agree_self setting fuel).expression outer e st trivial).frame.scope
  have hmarks {st₁ st₂ : State} (h₁ : st.scope.Moves st₁.scope)
      (h₂ : (st.marked index).scope.Moves st₂.scope) (h : Lifted g outer outer st₁ st₂) :
      State.Marks index st₁ st₂ := by
    have htransform : st₂.scope.childTransform = st₁.scope.childTransform :=
      h.scope.seen.read Scope.childTransform (fun _ => rfl) fun _ _ => rfl
    refine ⟨?_, h.world⟩
    rw [h₂, h₁, htransform]
    rfl
  have h₁ := hmoves st
  have h₂ := hmoves (st.marked index)
  generalize runExpression fuel ⟨setting, outer⟩ e st = res at hmatches h₁ ⊢
  generalize runExpression fuel ⟨setting, outer⟩ e (st.marked index) = res' at hmatches h₂ ⊢
  cases hmatches with
  | ok hv h => exact .ok hv.bare (hmarks h₁ h₂ h)
  | error x h => exact .error x (hmarks h₁ h₂ h)

/-- A single value that an expression has where the mark is set, it has where it is not. -/
theorem Runner.ok_of_marked {fuel : Nat} {env : Env} {e : Expr} {index : Int} {st st₂ : State}
    {v : Value} (h : runExpression fuel env e (st.marked index) = .ok (.tuple [v]) st₂) :
    ∃ v' st₁, runExpression fuel env e st = .ok (.tuple [v']) st₁ ∧ v'.bare = v.bare ∧
      st.scope.Moves st₁.scope ∧ State.Marks index st₁ st₂ := by
  have hmatches := expression_marked fuel env e index st
  rw [h] at hmatches
  cases hres : runExpression fuel env e st with
  | error x st₁ =>
    rw [hres] at hmatches
    cases hmatches
  | ok w st₁ =>
    rw [hres] at hmatches
    cases hmatches with
    | ok hv hmarks =>
      have hmoves : st.scope.Moves st₁.scope :=
        moves_expression (hres : (ofFuel fuel).expression env e st = .ok w st₁)
      obtain ⟨vs, rfl, hvs⟩ := Value.exists_of_bare_tuple hv.symm
      obtain ⟨v', rest, rfl, hv', hrest⟩ := List.map_eq_cons_iff.mp hvs
      obtain rfl := List.map_eq_nil_iff.mp hrest
      exact ⟨v', st₁, rfl, hv', hmoves, hmarks⟩

/-- An expression that stops where the mark is set stops where it is not. -/
theorem Runner.error_of_marked {fuel : Nat} {env : Env} {e : Expr} {index : Int} {st st₂ : State}
    {x : Exit} (h : runExpression fuel env e (st.marked index) = .error x st₂) :
    ∃ st₁, runExpression fuel env e st = .error x st₁ := by
  have hmatches := expression_marked fuel env e index st
  rw [h] at hmatches
  generalize runExpression fuel env e st = res at hmatches ⊢
  cases hmatches with
  | @error st₁ _ _ _ => exact ⟨st₁, rfl⟩

/-! ### Block calls -/

theorem Eval.onScope_eq_ok_iff {α : Type} {act : Step Scope α} {a : α} {st st' : State} :
    onScope act st = .ok a st' ↔ ∃ s, act st.scope = .ok a s ∧ { st with scope := s } = st' := by
  unfold onScope Step.onPart
  cases act st.scope <;> simp

section BlockCalls

variable {fuel : Nat} {env : Env} {callee : Identifier} {symbol : Symbol} {block : BlockType}
  {es before after : List Expr} {e : Expr} {range whole : SourceRange} {name : String}
  {st st' st₁ st₂ : State} {s s' : Scope} {ws : List Value} {g : Value}

/-- The value of a row of expressions. -/
theorem runExpression_tuple :
    runExpression (fuel + 1) env (.tuple range es) st
      = (do return Value.tuple (← (Runner.ofFuel fuel).row env es)) st := rfl

/-- The name of a block starts a block call. -/
theorem runStatement_of_block
    (hsymbol : Scope.symbol? (st.scope :: env.enclosing) callee.name = some symbol)
    (hblock : symbol.blockType? = some block) (parameter : Option Expr) :
    runStatement (fuel + 1) env (.command range callee parameter) st
      = (Runner.ofFuel fuel).blockCommand env callee symbol block parameter st := by
  show (Runner.ofFuel fuel).command env callee parameter st = _
  simp only [Runner.command, Env.symbol?_bind, hsymbol]
  cases symbol with
  | shape shape | closure c =>
    cases hblock
    rfl
  | _ => cases hblock

/-- **What a block call does as a statement**: it finds the values of the children, adds them to the
scope of the block, builds the block and adds what it builds. -/
theorem of_blockStatement
    (hsymbol : Scope.symbol? (st.scope :: env.enclosing) callee.name = some symbol)
    (hblock : symbol.blockType? = some block)
    (hrun : runStatement (fuel + 2) env (.command range callee (some (.tuple whole es))) st
      = .ok () st') :
    ∃ ws st₁ s g st₂, (Runner.ofFuel fuel).row env es (st.marked callee.range.start) = .ok ws st₁ ∧
      Scope.addAll ws (st₁.scope.push env.level block) = .ok () s ∧
      (Runner.ofFuel (fuel + 1)).buildIn env s symbol st₁ = .ok g st₂ ∧
      Eval.addValue g st₂ = .ok () st' := by
  rw [runStatement_of_block hsymbol hblock] at hrun
  obtain ⟨u, st₀, hmark, hrun⟩ := Step.bind_eq_ok_iff.mp hrun
  cases hmark
  obtain ⟨w, st₁, hw, hrun⟩ := Step.bind_eq_ok_iff.mp hrun
  obtain ⟨ws, st₁, hrow, hw⟩ := Step.bind_eq_ok_iff.mp hw
  cases hw
  dsimp only at hrun
  split at hrun
  · rw [Step.locate, Step.mapExit_eq_ok_iff, Eval.scope_bind] at hrun
    obtain ⟨g, st₂, hinside, hvalue⟩ := Step.bind_eq_ok_iff.mp hrun
    rw [Env.inside_apply, Result.settle_eq_ok_iff] at hinside
    obtain ⟨st₃, hinside, hst₂⟩ := hinside
    obtain ⟨u, st₄, hchildren, hbuild⟩ := Step.bind_eq_ok_iff.mp hinside
    obtain ⟨s, hadd, rfl⟩ := Eval.onScope_eq_ok_iff.mp hchildren
    rw [Scope.addAll_unwrap] at hadd
    refine ⟨ws, st₁, s, g, st₂, hrow, hadd, ?_, hvalue⟩
    rw [Runner.buildIn, Env.inside_apply, Result.settle_eq_ok_iff]
    exact ⟨st₃, hbuild, hst₂⟩
  · cases hrun

/-- What the name of a block takes that has children. -/
theorem Runner.appetiteAt_of_block (place : SourceRange)
    (hsymbol : Scope.symbol? (st.scope :: env.enclosing) name = some symbol)
    (hblock : symbol.blockType? = some block) (hkinds : block.childKinds ≠ []) :
    appetiteAt (st.scope :: env.enclosing) (.identifier place name) = .children symbol block := by
  have hempty : ¬block.childKinds.isEmpty := by
    rw [List.isEmpty_iff]
    exact hkinds
  rw [appetiteAt, hsymbol]
  cases symbol with
  | shape shape | closure c =>
    cases hblock
    exact if_neg hempty
  | _ => cases hblock

/-- A row moves children at most. -/
theorem Runner.moves_row (h : (ofFuel fuel).row env es st = .ok ws st') :
    st.scope.Moves st'.scope := by
  have htuple : (ofFuel (fuel + 1)).expression env (.tuple ⟨0, 0⟩ es) st = .ok (.tuple ws) st' :=
    Step.bind_ok _ h
  exact moves_expression htuple

/-- The children of a block are the values of a row, if no name takes the rest of them. -/
theorem gatherAll_eq_ok_of_row (hes : es ≠ [])
    (htakes : ∀ e ∈ es, ¬Runner.TakesRest (st.scope :: env.enclosing) e)
    (hrow : (Runner.ofFuel fuel).row env es st = .ok ws st')
    (hadd : Scope.addAll ws s = .ok () s') :
    (Runner.ofFuel fuel).gatherAll env name es s st = .ok s' st' := by
  -- the last expression has nothing to take
  have hlast : es.dropLast ++ [es.getLast hes] = es := List.dropLast_concat_getLast hes
  rw [← hlast] at hrow
  obtain ⟨ws₁, st₁, s₁, hrow₁, hadd₁, -, hgather⟩ := Runner.gatherAll_of_row name
    (List.cons_ne_nil _ _) (fun e he => htakes e (List.dropLast_subset _ he)) hrow hadd
  obtain ⟨v, st₂, hv, hrow₁⟩ := Step.bind_eq_ok_iff.mp hrow₁
  cases hrow₁
  have hlastChild : Runner.gather name (es.getLast hes).sourceRange v.elements s₁ = .ok s' := by
    rw [Runner.gather_eq_ok_iff, Scope.addAll_elements, ← Scope.addAll_singleton]
    exact hadd₁
  rw [← hlast, hgather, Runner.gatherAll, Step.bind_ok _ hv, hlastChild]
  rfl

/-- **A block call inside of an argument has the value that the block builds** with the children
that a row of expressions has, if no name takes the rest of them. -/
theorem blockArgument_of_row (place whole : SourceRange)
    (happetite : Runner.appetiteAt (st.scope :: env.enclosing) (.identifier place name)
      = .children symbol block)
    (hes : es ≠ []) (htakes : ∀ e ∈ es, ¬Runner.TakesRest (st.scope :: env.enclosing) e)
    (hrow : (Runner.ofFuel fuel).row env es st = .ok ws st₁)
    (hadd : Scope.addAll ws (st₁.scope.push env.level block) = .ok () s)
    (hbuild : (Runner.ofFuel fuel).buildIn env s symbol st₁ = .ok g st₂) :
    runExpression (fuel + 1) env (.tuple whole (.identifier place name :: es)) st
      = .ok (.tuple [g]) st₂ := by
  have hchildren : (Runner.ofFuel fuel).gatherAll env name es (st.scope.push env.level block) st
      = .ok s st₁ := by
    rw [(Runner.moves_row hrow).push] at hadd
    exact gatherAll_eq_ok_of_row hes htakes hrow hadd
  obtain ⟨next, rest, rfl⟩ := List.exists_cons_of_ne_nil hes
  rw [runExpression_tuple]
  have hlocated : Step.locate place ((Runner.ofFuel fuel).buildIn env s symbol) st₁
      = .ok g st₂ := Step.mapExit_eq_ok_iff.mpr hbuild
  have hrow' : (Runner.ofFuel fuel).row env (.identifier place name :: next :: rest) st
      = .ok [g] st₂ := by
    rw [Runner.row_children happetite]
    exact (Step.bind_ok _ hchildren).trans (Step.bind_ok _ hlocated)
  exact Step.bind_ok _ hrow'

/-- **A block call inside of an argument is refused** if a name takes the rest of the children: it is
asked for its value before it has taken them. -/
theorem blockArgument_of_takesRest (place whole : SourceRange)
    (happetite : Runner.appetiteAt (st.scope :: env.enclosing) (.identifier place name)
      = .children symbol block)
    (hbefore : ∀ e ∈ before, ¬Runner.TakesRest (st.scope :: env.enclosing) e)
    (htakes : Runner.TakesRest (st.scope :: env.enclosing) e)
    (hrow : (Runner.ofFuel (fuel + 1)).row env (before ++ e :: after) st = .ok ws st₁)
    (hadd : Scope.addAll ws (st₁.scope.push env.level block) = .ok () s) :
    ∃ what st₂,
      runExpression (fuel + 2) env (.tuple whole (.identifier place name :: (before ++ e :: after)))
        st = .error (.raise (.missingArgument (Runner.nameOf e) 0 what) e.sourceRange.upperBound)
          st₂ := by
  rw [(Runner.moves_row hrow).push] at hadd
  obtain ⟨ws₁, st₂, s₁, -, -, hmoves, hgather⟩ := Runner.gatherAll_of_row name
    (List.cons_ne_nil e after) hbefore hrow hadd
  have htakes₂ : Runner.TakesRest (st₂.scope :: env.enclosing) e := by
    rw [Runner.TakesRest, hmoves.appetiteAt]
    exact htakes
  obtain ⟨what, hwhat⟩ := Runner.expression_of_takesRest htakes₂
  have hchildren : (Runner.ofFuel (fuel + 1)).gatherAll env name (before ++ e :: after)
      (st.scope.push env.level block) st
      = .error (.raise (.missingArgument (Runner.nameOf e) 0 what) e.sourceRange.upperBound) st₂ := by
    rw [hgather, Runner.gatherAll]
    exact Step.bind_error _ hwhat
  refine ⟨what, st₂, ?_⟩
  obtain ⟨next, rest, hnext⟩ := List.exists_cons_of_ne_nil
    (List.append_ne_nil_of_right_ne_nil before (List.cons_ne_nil e after))
  rw [hnext] at hchildren ⊢
  rw [runExpression_tuple]
  refine Step.bind_error _ ?_
  rw [Runner.row_children happetite]
  exact Step.bind_error _ hchildren

end BlockCalls

/-- **Block calls nest.**  Let a call of a block with children succeed as a statement.  If none of the
children is a name that takes what follows it, then the same call inside of an argument succeeds and
has the value that the statement adds, places aside; the state that it leaves is the one to which the
statement adds it, apart from the mark.  Otherwise the call inside of an argument is refused: the
first such name is asked for its value before it has taken anything. -/
theorem blockCall_nests (fuel : Nat) (env : Env) {callee : Identifier} {symbol : Symbol}
    {block : BlockType} {es : List Expr} {st st' : State}
    (hsymbol : Scope.symbol? (st.scope :: env.enclosing) callee.name = some symbol)
    (hblock : symbol.blockType? = some block) (hkinds : block.childKinds ≠ []) (hes : es ≠ [])
    (range arguments place whole : SourceRange)
    (hrun : runStatement (fuel + 2) env (.command range callee (some (.tuple arguments es))) st
      = .ok () st') :
    ((∀ e ∈ es, ¬Runner.TakesRest (st.scope :: env.enclosing) e) →
      ∃ g g' st₁ st₂,
        runExpression (fuel + 1) env (.tuple whole (.identifier place callee.name :: es)) st
          = .ok (.tuple [g']) st₂ ∧
        g'.bare = g.bare ∧ st.scope.Moves st₂.scope ∧ State.Marks callee.range.start st₂ st₁ ∧
        Eval.addValue g st₁ = .ok () st') ∧
    ∀ before e after, es = before ++ e :: after →
      (∀ e' ∈ before, ¬Runner.TakesRest (st.scope :: env.enclosing) e') →
      Runner.TakesRest (st.scope :: env.enclosing) e →
      ∃ what st₂,
        runExpression (fuel + 1) env (.tuple whole (.identifier place callee.name :: es)) st
          = .error (.raise (.missingArgument (Runner.nameOf e) 0 what) e.sourceRange.upperBound)
            st₂ := by
  obtain ⟨ws, st₁, s, g, st₂, hrow, hadd, hbuild, hvalue⟩ := of_blockStatement hsymbol hblock hrun
  obtain ⟨fuel, rfl⟩ : ∃ k, fuel = k + 1 := by
    cases fuel with
    | zero => exact absurd hrow (Runner.row_zero_ne_ok hes)
    | succ k => exact ⟨k, rfl⟩
  have hmark := st.remarked_marked callee.range.start
  have hname := (hmark.appetiteAt env.enclosing (.identifier place callee.name)).trans
    (Runner.appetiteAt_of_block place hsymbol hblock hkinds)
  have htakes (e : Expr) : Runner.TakesRest ((st.marked callee.range.start).scope :: env.enclosing) e
      ↔ Runner.TakesRest (st.scope :: env.enclosing) e := by
    rw [Runner.TakesRest, hmark.appetiteAt]
    rfl
  constructor
  · intro hnone
    have hbuild' : (Runner.ofFuel (fuel + 1)).buildIn env s symbol st₁ = .ok g st₂ := by
      cases symbol with
      | shape shape => exact hbuild
      | closure c =>
        cases hblock
        exact absurd rfl hkinds
      | _ => cases hblock
    obtain ⟨g', st₃, hrun', hg, hmoves, hmarks⟩ := Runner.ok_of_marked
      (blockArgument_of_row place whole hname hes (fun e he => (htakes e).not.mpr (hnone e he)) hrow
        hadd hbuild')
    exact ⟨g, g', st₂, st₃, hrun', hg, hmoves, hmarks, hvalue⟩
  · rintro before e after rfl hbefore he
    obtain ⟨what, st₃, hmarked⟩ := blockArgument_of_takesRest place whole hname
      (fun e' he' => (htakes e').not.mpr (hbefore e' he')) ((htakes e).mpr he) hrow hadd
    exact ⟨what, Runner.error_of_marked hmarked⟩

namespace Lattice

/-- The environment of a program. -/
def env : Env := ⟨{}, []⟩

/-- The state in which the program starts. -/
def start : State := { scope := { source := "group group union cube sphere" }, world := {} }

/-- The names `cube sphere`. -/
def solids : List Expr := [.identifier ⟨18, 22⟩ "cube", .identifier ⟨23, 29⟩ "sphere"]

/-- A union of two solids is the same as a statement and inside of an argument. -/
theorem blockCall_nests_union :
    Scope.symbol? (start.scope :: env.enclosing) "union" = some (.shape (.combined .union)) ∧
    (Symbol.shape (.combined .union)).blockType? = some .group ∧
    BlockType.group.childKinds ≠ [] ∧ solids ≠ [] ∧
    ∃ st', runStatement 4 env
        (.command ⟨12, 29⟩ ⟨⟨12, 17⟩, "union"⟩ (some (.tuple ⟨18, 29⟩ solids))) start = .ok () st' ∧
      ∃ g g' st₁ st₂,
        runExpression 3 env (.tuple ⟨12, 29⟩ (.identifier ⟨12, 17⟩ "union" :: solids)) start
          = .ok (.tuple [g']) st₂ ∧
        g'.bare = g.bare ∧ start.scope.Moves st₂.scope ∧ State.Marks 12 st₂ st₁ ∧
        Eval.addValue g st₁ = .ok () st' := by
  have hunion : Scope.symbol? (start.scope :: env.enclosing) "union"
      = some (.shape (.combined .union)) := rfl
  have hkinds : BlockType.group.childKinds ≠ [] := List.cons_ne_nil _ _
  have hes : solids ≠ [] := List.cons_ne_nil _ _
  obtain ⟨st', hrun⟩ : ∃ st', runStatement 4 env
      (.command ⟨12, 29⟩ ⟨⟨12, 17⟩, "union"⟩ (some (.tuple ⟨18, 29⟩ solids))) start
        = .ok () st' := ⟨_, rfl⟩
  have hnone : ∀ e ∈ solids, ¬Runner.TakesRest (start.scope :: env.enclosing) e := by
    intro e he htakes
    simp only [solids, List.mem_cons, List.not_mem_nil, or_false] at he
    rcases he with rfl | rfl
    · exact htakes rfl
    · exact htakes rfl
  have hnests := blockCall_nests 2 env hunion rfl hkinds hes _ _ ⟨12, 17⟩ ⟨12, 29⟩ hrun
  exact ⟨hunion, rfl, hkinds, hes, st', hrun, hnests.1 hnone⟩

/-- **A block call that works as a statement only.**  The children of the group are given by a union
without parentheses. -/
theorem blockCall_not_nested :
    (∃ st', runStatement 5 env (.command ⟨6, 29⟩ ⟨⟨6, 11⟩, "group"⟩
      (some (.tuple ⟨12, 29⟩ (.identifier ⟨12, 17⟩ "union" :: solids)))) start = .ok () st') ∧
    ∀ fuel : Nat, runExpression (fuel + 2) env
      (.tuple ⟨6, 29⟩ (.identifier ⟨6, 11⟩ "group" :: .identifier ⟨12, 17⟩ "union" :: solids)) start
        = .error (.raise (.missingArgument "union" 0 "block") ⟨17, 17⟩) start :=
  ⟨⟨_, rfl⟩, fun _ => rfl⟩

end Lattice

end SceneLang
