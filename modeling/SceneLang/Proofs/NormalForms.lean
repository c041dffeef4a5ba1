import SceneLang.Proofs.Rows
import SceneLang.Proofs.Square
import SceneLang.Proofs.VisibleNames
import Mathlib.Logic.Relation

/-!
# Values without one-element tuples

A tuple of one value may collapse to the value, wherever it stands (`Value.Collapses`).  Collapses
can be made in any order and always come to the same end, which is what `Value.unwrap` computes:
`Value.unwrap_normal_form` says that a value collapses to its unwrapped form, that nothing is left
there to collapse, and that no other value with nothing left to collapse can be reached.  Leaves
stay as they are, and in their order.

Two facts carry this.  One collapse does not change the unwrapped form (`Collapses.unwrap_eq`), so
no row of them does; and a value with nothing to collapse is its own unwrapped form
(`IsNormal.unwrap_eq`).

A definition keeps a constant that is no tuple as a tuple of one value.  An argument is unwrapped
before it is read, so the name of the constant is read as the value itself (`Runner.valueAs_names`).
-/

namespace SceneLang

open Relation (ReflTransGen)

namespace Value

/-! ### Collapsing -/

/-- **One collapse**: somewhere in a value, a tuple of one value is replaced by that value. -/
inductive Collapses : Value → Value → Prop
  | here (v : Value) : Collapses (.tuple [v]) v
  | inside {v w : Value} (before after : List Value) : Collapses v w →
    Collapses (.tuple (before ++ v :: after)) (.tuple (before ++ w :: after))

/-- **A value and everything that its tuples hold**, at any depth. -/
inductive Contains : Value → Value → Prop
  | self (v : Value) : Contains v v
  | item {vs : List Value} {v w : Value} : v ∈ vs → Contains v w → Contains (.tuple vs) w

/-- **A value with nothing to collapse**: no tuple of one value occurs in it. -/
def IsNormal (v : Value) : Prop := ∀ w, ¬ v.Contains (.tuple [w])

theorem isNormal_of_kind {v : Value} (h : v.kind ≠ .tuple) : v.IsNormal := by
  intro w hw
  cases hw with
  | self => exact h rfl
  | item _ _ => exact h rfl

/-- A tuple has nothing to collapse if it has not one element and its elements have nothing. -/
theorem isNormal_tuple_iff {vs : List Value} :
    (tuple vs).IsNormal ↔ vs.length ≠ 1 ∧ ∀ v ∈ vs, v.IsNormal := by
  constructor
  · intro h
    refine ⟨fun hone => ?_, fun v hv w hw => h w (.item hv hw)⟩
    obtain ⟨v, rfl⟩ := List.length_eq_one_iff.mp hone
    exact h v (.self _)
  · rintro ⟨hone, hitems⟩ w hw
    cases hw with
    | self => exact hone rfl
    | item hv hw => exact hitems _ hv w hw

/-! ### Induction on values -/

mutual

/-- **Induction on the tuples of a value.** -/
@[elab_as_elim]
theorem tupleInduction {motive : Value → Prop} (leaf : ∀ v, v.kind ≠ .tuple → motive v)
    (tuple : ∀ vs : List Value, (∀ v ∈ vs, motive v) → motive (.tuple vs)) : ∀ v, motive v
  | .tuple vs => tuple vs (tupleInductionAll leaf tuple vs)
  | .number _ | .string _ | .color _ | .texture _ | .vector _ | .size _ | .path _ | .mesh _
  | .point _ | .range _ => leaf _ nofun

theorem tupleInductionAll {motive : Value → Prop} (leaf : ∀ v, v.kind ≠ .tuple → motive v)
    (tuple : ∀ vs : List Value, (∀ v ∈ vs, motive v) → motive (.tuple vs)) :
    ∀ vs : List Value, ∀ v ∈ vs, motive v
  | [], _, h => absurd h List.not_mem_nil
  | _ :: rest, _, h => (List.mem_cons.mp h).elim (fun heq => heq ▸ tupleInduction leaf tuple _)
      (tupleInductionAll leaf tuple rest _)

end

/-! ### The unwrapped form -/

theorem unwrap_of_kind {v : Value} (h : v.kind ≠ .tuple) : v.unwrap = v := by
  cases v with
  | tuple vs => exact absurd rfl h
  | _ => simp only [unwrap]

theorem unwrapAll_eq_map (vs : List Value) : unwrapAll vs = vs.map unwrap := by
  induction vs with
  | nil => rfl
  | cons v rest ih => rw [unwrapAll, ih, List.map_cons]

theorem unwrap_singleton (v : Value) : (tuple [v]).unwrap = v.unwrap := by rw [unwrap]

theorem unwrap_tuple {vs : List Value} (h : vs.length ≠ 1) :
    (tuple vs).unwrap = tuple (vs.map unwrap) := by
  rw [← unwrapAll_eq_map, unwrap]
  rintro v rfl
  exact h rfl

/-- The unwrapped form of a tuple depends on that of its elements only. -/
theorem unwrap_tuple_congr {vs ws : List Value} (h : vs.map unwrap = ws.map unwrap) :
    (tuple vs).unwrap = (tuple ws).unwrap := by
  have hlength : vs.length = ws.length := by simpa using congrArg List.length h
  by_cases hone : vs.length = 1
  · obtain ⟨v, rfl⟩ := List.length_eq_one_iff.mp hone
    obtain ⟨w, rfl⟩ := List.length_eq_one_iff.mp hlength.symm
    have hvw : v.unwrap = w.unwrap := List.head_eq_of_cons_eq h
    rw [unwrap_singleton, unwrap_singleton, hvw]
  · rw [unwrap_tuple hone, unwrap_tuple (hlength ▸ hone), h]

/-- **Nothing is left to collapse in an unwrapped form.** -/
theorem isNormal_unwrap (v : Value) : v.unwrap.IsNormal := by
  induction v using tupleInduction with
  | leaf v h =>
    rw [unwrap_of_kind h]
    exact isNormal_of_kind h
  | tuple vs ih =>
    by_cases hone : vs.length = 1
    · obtain ⟨v, rfl⟩ := List.length_eq_one_iff.mp hone
      rw [unwrap_singleton]
      exact ih v List.mem_cons_self
    · rw [unwrap_tuple hone, isNormal_tuple_iff, List.length_map, List.forall_mem_map]
      exact ⟨hone, ih⟩

/-- **A value with nothing to collapse is its own unwrapped form.** -/
theorem IsNormal.unwrap_eq {v : Value} (h : v.IsNormal) : v.unwrap = v := by
  induction v using tupleInduction with
  | leaf v hleaf => exact unwrap_of_kind hleaf
  | tuple vs ih =>
    obtain ⟨hone, hitems⟩ := isNormal_tuple_iff.mp h
    have hmap : vs.map unwrap = vs := by
      refine (List.map_congr_left fun v hv => ?_).trans (List.map_id vs)
      exact ih v hv (hitems v hv)
    rw [unwrap_tuple hone, hmap]

/-! ### Collapsing comes to the unwrapped form -/

/-- **One collapse does not change the unwrapped form.** -/
theorem Collapses.unwrap_eq {v w : Value} (h : v.Collapses w) : w.unwrap = v.unwrap := by
  induction h with
  | here v => exact (unwrap_singleton v).symm
  | inside before after _ ih =>
    apply unwrap_tuple_congr
    rw [List.map_append, List.map_append, List.map_cons, List.map_cons, ih]

/-- Nor does a row of them. -/
theorem unwrap_eq_of_reflTransGen {v w : Value} (h : ReflTransGen Collapses v w) :
    w.unwrap = v.unwrap := by
  induction h with
  | refl => rfl
  | tail _ hstep ih => exact hstep.unwrap_eq.trans ih

/-- The elements of a tuple collapse one after the other; those in `before` are done. -/
theorem reflTransGen_items (before : List Value) {vs : List Value}
    (h : ∀ v ∈ vs, ReflTransGen Collapses v v.unwrap) :
    ReflTransGen Collapses (tuple (before ++ vs)) (tuple (before ++ vs.map unwrap)) := by
  induction vs generalizing before with
  | nil => exact .refl
  | cons v rest ih =>
    obtain ⟨hv, hrest⟩ := List.forall_mem_cons.mp h
    have hfirst : ReflTransGen Collapses (tuple (before ++ v :: rest))
        (tuple (before ++ v.unwrap :: rest)) :=
      hv.lift (fun u => tuple (before ++ u :: rest)) fun _ _ => .inside before rest
    have hothers := ih (before ++ [v.unwrap]) hrest
    rw [List.append_assoc, List.append_assoc] at hothers
    exact hfirst.trans hothers

/-- **A value collapses to its unwrapped form.** -/
theorem reflTransGen_unwrap (v : Value) : ReflTransGen Collapses v v.unwrap := by
  induction v using tupleInduction with
  | leaf v h =>
    rw [unwrap_of_kind h]
  | tuple vs ih =>
    by_cases hone : vs.length = 1
    · obtain ⟨v, rfl⟩ := List.length_eq_one_iff.mp hone
      rw [unwrap_singleton]
      exact .head (.here v) (ih v List.mem_cons_self)
    · rw [unwrap_tuple hone]
      exact reflTransGen_items [] ih

end Value

/-! ### Constants as arguments -/

namespace Runner

variable {env : Env} {st : State} {v : Value}

/-- A definition wraps a value at most. -/
theorem exists_constantOf (v : Value) : ∃ u, constantOf v = .constant u ∧ u.unwrap = v.unwrap := by
  cases v with
  | tuple vs => exact ⟨_, rfl, rfl⟩
  | _ => exact ⟨_, rfl, Value.unwrap_singleton _⟩

/-- **A name that a definition has bound to a value.** -/
def Defines (stack : List Scope) : Expr → Value → Prop
  | .identifier _ name, v => Scope.symbol? stack name = some (constantOf v)
  | _, _ => False

/-- The values of names that definitions have bound are the values themselves, once they are
unwrapped; and the names leave each other alone. -/
theorem row_names (fuel : Nat) {es : List Expr} {vs : List Value}
    (h : List.Forall₂ (Defines (st.scope :: env.enclosing)) es vs) :
    ∃ us, (ofFuel (fuel + 1)).row env es st = .ok us st ∧
      us.map Value.unwrap = vs.map Value.unwrap := by
  have hname {e : Expr} {v : Value} (h : Defines (st.scope :: env.enclosing) e v) :
      ¬ TakesRest (st.scope :: env.enclosing) e ∧
        ∃ u, (ofFuel (fuel + 1)).expression env e st = .ok u st ∧ u.unwrap = v.unwrap := by
    cases e with
    | identifier place name =>
      obtain ⟨u, hu, hunwrap⟩ := exists_constantOf v
      have hsymbol : Scope.symbol? (st.scope :: env.enclosing) name = some (.constant u) :=
        Eq.trans h (congrArg some hu)
      refine ⟨?_, u, ?_, hunwrap⟩
      · rw [TakesRest, appetiteAt, hsymbol]
        exact fun h => h rfl
      · show (ofFuel fuel).identifier env place name st = .ok u st
        rw [identifier, Env.symbol?_bind, hsymbol]
        rfl
    | _ => exact False.elim h
  induction h with
  | nil => exact ⟨[], rfl, rfl⟩
  | @cons e v es vs he hes ih =>
    obtain ⟨htakes, u, hu, hunwrap⟩ := hname he
    obtain ⟨us, hrow, hmap⟩ := ih
    refine ⟨u :: us, ?_, by rw [List.map_cons, List.map_cons, hunwrap, hmap]⟩
    cases es with
    | nil =>
      cases hrow
      exact Step.bind_ok _ hu
    | cons next rest =>
      rw [row_nothing htakes, Step.bind_ok _ hu, Step.bind_ok _ hrow]
      rfl

/-- **Constants are read as the values that they were defined as**: an argument of names that
definitions have bound is what is made of the bare values. -/
theorem valueAs_names (fuel : Nat) {e : Expr} {vs : List Value}
    (h : List.Forall₂ (Defines (st.scope :: env.enclosing)) (parametersOf e) vs) (kind : Kind)
    (name : String) (index : Int) :
    (ofFuel (fuel + 1)).valueAs env e kind name index st
      = Argument.coerce env.setting ⟨name, index, e.sourceRange, parametersOf e⟩ kind
          (vs.map Value.unwrap) st := by
  obtain ⟨us, hrow, hmap⟩ := row_names fuel h
  rw [valueAs, Step.bind_ok _ hrow, hmap]

/-- **What the definition of a constant does**: its expression is run in a scope of its own, and the
name is bound in the scope around it. -/
theorem runStatement_define {fuel : Nat} {inner : State} {e : Expr} (range : SourceRange)
    (name : Identifier)
    (h : runExpression fuel (env.below st.scope) e
      { st with scope := st.scope.pushDefinition env.level } = .ok v inner) :
    runStatement (fuel + 1) env (.define range name (.expression e)) st
      = .ok () { inner with scope := st.scope.define name.name (constantOf v) } := by
  have hinside : (env.inside (st.scope.pushDefinition env.level) Env.leaveBlock
      fun inner => runExpression fuel inner e) st = .ok v { inner with scope := st.scope } := by
    rw [Env.inside_apply, h]
    rfl
  have hdefinition : (ofFuel fuel).definition env (.expression e) st
      = .ok (constantOf v) { inner with scope := st.scope } := by
    rw [definition, Eval.scope_bind]
    exact Step.bind_ok _ hinside
  show (ofFuel fuel).execute env (.define range name (.expression e)) st = _
  rw [execute, Step.bind_ok _ hdefinition]
  rfl

end Runner

theorem Scope.symbol?_define (s : Scope) (outer : List Scope) (name : String) (symbol : Symbol) :
    symbol? (s.define name symbol :: outer) name = some symbol := by
  rw [symbol?_eq, chain_cons, findDefinition?_cons, define, Bindings.get?_set, if_pos rfl]
  rfl

/-! ### The normal form -/

/-- **Unwrapping computes the normal form of a value.**  A value collapses to its unwrapped form,
which has no one-element tuple at any depth, and whatever else it collapses to that has none is the
same.  The leaves are kept in their order, unwrapping again changes nothing, and a tuple of one
value has the form of the value.  So a constant can stand for the value that it was defined as: an
argument that is its name is what is made of the bare value. -/
theorem Value.unwrap_normal_form (v : Value) :
    ReflTransGen Collapses v v.unwrap ∧
    (∀ w, ¬ v.unwrap.Contains (.tuple [w])) ∧
    (∀ u, ReflTransGen Collapses v u → (∀ w, ¬ u.Contains (.tuple [w])) → u = v.unwrap) ∧
    v.unwrap.leaves = v.leaves ∧
    v.unwrap.unwrap = v.unwrap ∧
    (Value.tuple [v]).unwrap = v.unwrap ∧
    ∀ (fuel : Nat) (env : Env) (st inner : State) (e : Expr) (range : SourceRange)
      (name : Identifier),
      runExpression fuel (env.below st.scope) e
        { st with scope := st.scope.pushDefinition env.level } = .ok v inner →
      ∃ st', runStatement (fuel + 1) env (.define range name (.expression e)) st = .ok () st' ∧
        ∀ (more : Nat) (place : SourceRange) (kind : Kind) (callee : String) (index : Int),
          (Runner.ofFuel (more + 1)).valueAs env (.identifier place name.name) kind callee index st'
            = Argument.coerce env.setting ⟨callee, index, place, [.identifier place name.name]⟩ kind
                [v.unwrap] st' := by
  refine ⟨reflTransGen_unwrap v, isNormal_unwrap v, fun u hu hnormal => ?_, leaves_unwrap v,
    (isNormal_unwrap v).unwrap_eq, unwrap_singleton v, ?_⟩
  · -- both `u` and `v` have the unwrapped form of `v`, and `u` is its own
    have hself : u.unwrap = u := IsNormal.unwrap_eq hnormal
    exact hself.symm.trans (unwrap_eq_of_reflTransGen hu)
  · intro fuel env st inner e range name hrun
    let st' : State := { inner with scope := st.scope.define name.name (Runner.constantOf v) }
    refine ⟨st', Runner.runStatement_define range name hrun, ?_⟩
    intro more place kind callee index
    have hname : List.Forall₂ (Runner.Defines (st'.scope :: env.enclosing))
        (Runner.parametersOf (.identifier place name.name)) [v] :=
      .cons (Scope.symbol?_define st.scope env.enclosing name.name _) .nil
    exact Runner.valueAs_names more hname kind callee index

/-! ### A constant that is kept as a tuple of one value -/

namespace Smooth

/-- The environment of a program. -/
def env : Env := ⟨{}, []⟩

/-- The state in which the program starts. -/
def start : State := { scope := { source := "define finest 64 detail finest" }, world := {} }

/-- The definition of the constant. -/
def definition : Statement :=
  .define ⟨0, 16⟩ ⟨⟨7, 13⟩, "finest"⟩ (.expression (.number ⟨14, 16⟩ 64))

/-- A constant is kept as a tuple of one number, and read as that number. -/
theorem unwrap_normal_form_smooth :
    ∃ st', runStatement 2 env definition start = .ok () st' ∧
      Scope.symbol? [st'.scope] "finest" = some (.constant (.tuple [.number 64])) ∧
      (Runner.ofFuel 1).valueAs env (.identifier ⟨24, 30⟩ "finest") .number "detail" 0 st'
        = .ok (.number 64) st' := by
  have hrun : runExpression 1 (env.below start.scope) (.number ⟨14, 16⟩ 64)
      { start with scope := start.scope.pushDefinition env.level }
        = .ok (.number 64) { start with scope := start.scope.pushDefinition env.level } := rfl
  obtain ⟨-, -, -, -, -, -, hdefine⟩ := Value.unwrap_normal_form (.number 64)
  obtain ⟨st', hst', hvalue⟩ := hdefine 1 env start _ _ ⟨0, 16⟩ ⟨⟨7, 13⟩, "finest"⟩ hrun
  refine ⟨st', hst', ?_, ?_⟩
  · cases hst'
    rfl
  · rw [hvalue]
    rfl

end Smooth

end SceneLang
