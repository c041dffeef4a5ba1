import SceneLang.Proofs.Coercion
import SceneLang.Proofs.Layers

/-!
# Expressions in a row

The values of a row are found from left to right, and the bare name of a command or of a block takes
everything that follows it.  Whether a name does so depends only on what it stands for
(`Runner.appetiteAt`), and for each case there is one equation for `Runner.row`.  A row has at least
one value, unless it is empty, and not more values than expressions.
-/

namespace SceneLang.Runner

/-- **What an expression takes of those that follow it**, on top of a stack. -/
def appetiteAt (stack : List Scope) : Expr → Appetite
  | .identifier _ name => appetite (Scope.symbol? stack name)
  | _ => .nothing

/-- **An expression that takes those that follow it.** -/
def TakesRest (stack : List Scope) (e : Expr) : Prop := appetiteAt stack e ≠ .nothing

variable {r : Runner} {env : Env} {st st' : State} {e next : Expr} {es rest : List Expr}
  {ws : List Value}

theorem appetiteOf_bind {β : Type} (f : Appetite → Eval β) :
    (appetiteOf env e >>= f) st = f (appetiteAt (st.scope :: env.enclosing) e) st := by
  cases e <;> rfl

/-! ### The first expression of a row -/

/-- A command takes the rest as its argument. -/
theorem row_argument {c : Command}
    (h : appetiteAt (st.scope :: env.enclosing) e = .argument c) :
    r.row env (e :: next :: rest) st = (do
      let values ← r.row env (next :: rest)
      let argument : Argument := ⟨nameOf e, 0, rowRange next rest, next :: rest⟩
      let v ← argument.coerce env.setting c.parameter (values.map Value.unwrap)
      return [← Step.locate (rowRange next rest) (c.run env.setting v)]) st := by
  rw [row, appetiteOf_bind, h]

/-- A block takes the rest as its children. -/
theorem row_children {symbol : Symbol} {block : BlockType}
    (h : appetiteAt (st.scope :: env.enclosing) e = .children symbol block) :
    r.row env (e :: next :: rest) st = (do
      let scope ← r.gatherAll env (nameOf e) (next :: rest) (st.scope.push env.level block)
      return [← Step.locate e.sourceRange (r.buildIn env scope symbol)]) st := by
  rw [row, appetiteOf_bind, h]
  rfl

/-- Anything else leaves the rest alone. -/
theorem row_nothing (h : ¬TakesRest (st.scope :: env.enclosing) e) :
    r.row env (e :: next :: rest) st = (do
      let v ← r.expression env e
      return v :: (← r.row env (next :: rest))) st := by
  rw [row, appetiteOf_bind, Classical.not_not.mp h]

/-- A name that takes the rest gives one value. -/
theorem row_eq_singleton (h : TakesRest (st.scope :: env.enclosing) e)
    (hrow : r.row env (e :: next :: rest) st = .ok ws st') : ∃ w, ws = [w] := by
  cases happetite : appetiteAt (st.scope :: env.enclosing) e with
  | argument c =>
    rw [row_argument happetite] at hrow
    obtain ⟨values, st₁, -, hrow⟩ := Step.bind_eq_ok_iff.mp hrow
    obtain ⟨v, st₂, -, hrow⟩ := Step.bind_eq_ok_iff.mp hrow
    obtain ⟨w, st₃, -, hrow⟩ := Step.bind_eq_ok_iff.mp hrow
    cases hrow
    exact ⟨w, rfl⟩
  | children symbol block =>
    rw [row_children happetite] at hrow
    obtain ⟨s, st₁, -, hrow⟩ := Step.bind_eq_ok_iff.mp hrow
    obtain ⟨w, st₂, -, hrow⟩ := Step.bind_eq_ok_iff.mp hrow
    cases hrow
    exact ⟨w, rfl⟩
  | nothing => exact absurd happetite h

/-! ### How many values there are -/

/-- **A row has at least one value**, unless it is empty, **and at most one for each expression.** -/
theorem row_length (h : r.row env es st = .ok ws st') :
    (es ≠ [] → ws ≠ []) ∧ ws.length ≤ es.length := by
  induction es generalizing st ws with
  | nil =>
    cases h
    exact ⟨fun hne => absurd rfl hne, Nat.le_refl _⟩
  | cons e rest ih =>
    cases rest with
    | nil =>
      obtain ⟨w, st₁, -, hw⟩ := Step.bind_eq_ok_iff.mp h
      cases hw
      exact ⟨fun _ => List.cons_ne_nil _ _, Nat.le_refl _⟩
    | cons next rest =>
      by_cases htakes : TakesRest (st.scope :: env.enclosing) e
      · obtain ⟨w, rfl⟩ := row_eq_singleton htakes h
        exact ⟨fun _ => List.cons_ne_nil _ _, by simp⟩
      · rw [row_nothing htakes] at h
        obtain ⟨v, st₁, -, h⟩ := Step.bind_eq_ok_iff.mp h
        obtain ⟨vs, st₂, hvs, h⟩ := Step.bind_eq_ok_iff.mp h
        cases h
        refine ⟨fun _ => List.cons_ne_nil _ _, ?_⟩
        rw [List.length_cons, List.length_cons]
        exact Nat.succ_le_succ (ih hvs).2

/-- Two expressions of which the first leaves the second alone have two values. -/
theorem row_pair (htakes : ¬TakesRest (st.scope :: env.enclosing) e)
    (h : r.row env [e, next] st = .ok ws st') : ∃ w₁ w₂, ws = [w₁, w₂] := by
  rw [row_nothing htakes] at h
  obtain ⟨w₁, st₁, -, h⟩ := Step.bind_eq_ok_iff.mp h
  obtain ⟨vs, st₂, hvs, h⟩ := Step.bind_eq_ok_iff.mp h
  cases h
  obtain ⟨w₂, st₃, -, hvs⟩ := Step.bind_eq_ok_iff.mp hvs
  cases hvs
  exact ⟨w₁, w₂, rfl⟩

/-- **The values of the parameters** of an argument are as coercion takes them. -/
theorem takes_of_row {name : String} {index : Int} {range : SourceRange}
    (h : r.row env es st = .ok ws st') :
    Argument.Takes ⟨name, index, range, es⟩ (ws.map Value.unwrap) := by
  obtain ⟨hsome, hfew⟩ := row_length h
  refine ⟨fun hes => ?_, ?_⟩
  · rw [Ne, List.map_eq_nil_iff]
    exact hsome hes
  · rw [List.length_map]
    exact hfew

end SceneLang.Runner
