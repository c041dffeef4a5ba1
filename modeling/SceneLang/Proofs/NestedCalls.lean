import SceneLang.Proofs.Components
import SceneLang.Proofs.Rows
import SceneLang.Proofs.Runs
import Mathlib.Data.List.Basic

/-!
# Calls inside of arguments

The bare name of a command takes the expressions that follow it, so an argument can have several
parameters but one value.  Coercion limits the number of *parameters*, and this shows in two places.

A pair has to have two parameters, and `Runner.valueAs_pair` says what comes of that: it is a pair of
two numbers unless the first parameter is a name that takes the second (`Short.pair_of_one`).

A call may stand in an argument without parentheses, and `Runner.valueAs_enclosed` says that it
counts with all the parameters that it takes: with parentheses around it, it has the same value, but
is accepted where it has more parameters than a colour, a vector or a size can have components
(`Longest.valueAs_spread_ne`).
-/

namespace SceneLang

/-! ### What commands give -/

/-- **What a command can give**: a number, a point or nothing. -/
inductive Value.IsAnswer : Value → Prop
  | number (x : Float) : IsAnswer (.number x)
  | point (p : PathPoint) : IsAnswer (.point p)
  | void : IsAnswer .void

theorem Value.IsAnswer.unwrap_eq {v : Value} (h : v.IsAnswer) : v.unwrap = v := by
  cases h <;> rfl

section Answers

variable {setting : Setting} {st st' : State} {v w : Value}

theorem Value.IsAnswer.of_map {α : Type} {x : Eval α} {f : α → Value} (hf : ∀ a, (f a).IsAnswer)
    (h : (x >>= fun a => pure (f a)) st = .ok w st') : w.IsAnswer := by
  obtain ⟨a, st₁, -, ha⟩ := Step.bind_eq_ok_iff.mp h
  cases ha
  exact hf a

theorem Eval.isAnswer_moveChildren {f : Transform Float → Except Fault (Transform Float)}
    (h : Eval.moveChildren f st = .ok w st') : w.IsAnswer := by
  obtain ⟨s, st₁, -, h⟩ := Step.bind_eq_ok_iff.mp h
  obtain ⟨t, st₂, -, h⟩ := Step.bind_eq_ok_iff.mp h
  exact .of_map (fun _ => .void) h

/-- **What a command gives when it succeeds.** -/
theorem Command.isAnswer_run {c : Command} (h : c.run setting v st = .ok w st') : w.IsAnswer := by
  cases c with
  | function f =>
    have hfunction (h : (do
        let x ← Step.ofExcept v.toDouble
        return Value.number (f.apply x) : Eval Value) st = .ok w st') : w.IsAnswer :=
      .of_map (fun x => .number _) h
    cases f with
    | round =>
      cases v with
      | number x =>
        cases h
        exact .number _
      | _ => cases h
    | _ => exact hfunction h
  | atan2 | pow | min | max | rnd => exact .of_map (fun x => .number x) h
  | seed =>
    cases v with
    | number x => exact .of_map (fun _ => .void) h
    | string text =>
      cases text with
      | some text => exact .of_map (fun _ => .void) h
      | none =>
        cases h
        exact .void
    | texture t =>
      cases t with
      | some t => cases h
      | none =>
        cases h
        exact .void
    | _ => cases h
  | print =>
    obtain ⟨values, st₁, -, h⟩ := Step.bind_eq_ok_iff.mp h
    split at h
    · exact .of_map (fun _ => .void) h
    · cases h
      exact .void
  | assert => exact .of_map (fun _ => .void) h
  | translate | rotate | scale =>
    obtain ⟨t, st₁, -, h⟩ := Step.bind_eq_ok_iff.mp h
    exact Eval.isAnswer_moveChildren h
  | point | curve => exact .of_map (fun _ => .point _) h

end Answers

/-- What a command gives that takes the rest of a row. -/
theorem Runner.row_answer {r : Runner} {env : Env} {st st' : State} {e next : Expr}
    {rest : List Expr} {ws : List Value} {c : Command}
    (h : appetiteAt (st.scope :: env.enclosing) e = .argument c)
    (hrow : r.row env (e :: next :: rest) st = .ok ws st') : ∃ w, ws = [w] ∧ w.IsAnswer := by
  rw [row_argument h] at hrow
  obtain ⟨values, st₁, -, hrow⟩ := Step.bind_eq_ok_iff.mp hrow
  obtain ⟨v, st₂, -, hrow⟩ := Step.bind_eq_ok_iff.mp hrow
  obtain ⟨w, st₃, hw, hrow⟩ := Step.bind_eq_ok_iff.mp hrow
  rw [Step.locate, Step.mapExit_eq_ok_iff] at hw
  cases hrow
  exact ⟨w, rfl, Command.isAnswer_run hw⟩

/-! ### Pairs -/

namespace Argument

variable {a : Argument} {setting : Setting} {values : List Value} {st st' : State}

/-- No value is a pair by itself. -/
theorem asIs?_pair (values : List Value) : asIs? .pair values = none := by
  cases hasIs : asIs? .pair values with
  | none => rfl
  | some v =>
    obtain ⟨-, hv⟩ := kind_of_asIs? hasIs
    cases v <;> cases hv

/-- When an argument is a pair. -/
theorem coerce_pair_iff {v : Value} (ha : a.Takes values) (hne : a.parameters ≠ []) :
    a.coerce setting .pair values st = .ok v st' ↔
      st' = st ∧ a.parameters.length = 2 ∧
      ∃ xs : List Float, components values = xs.map .number ∧ xs.length ≤ 2 ∧
        v = .tuple (xs.map .number) := by
  have hnot : ¬(values = [v] ∧ v.kind = .pair) := by
    rw [← asIs?_eq_some_iff, asIs?_pair]
    exact (Option.some_ne_none v).symm
  rw [coerce_eq_ok_iff .pair (List.length_pos_iff.mpr (ha.some hne)) ha.few]
  constructor
  · rintro ⟨rfl, h | ⟨hleast, hmost, hfew, xs, hcomponents, rfl⟩⟩
    · exact absurd h hnot
    · rw [hcomponents, List.length_map] at hfew
      exact ⟨rfl, by omega, xs, hcomponents, hfew, rfl⟩
  · rintro ⟨rfl, hlength, xs, hcomponents, hfew, rfl⟩
    refine ⟨rfl, .inr ⟨by omega, by omega, ?_, xs, hcomponents, rfl⟩⟩
    rw [hcomponents, List.length_map]
    exact hfew

/-- An argument that makes no pair is a script error with a range. -/
theorem Takes.raise_of_pair {x : Exit} (ha : a.Takes values)
    (h : a.coerce setting .pair values st = .error x st') :
    ∃ cause range, x = .raise cause range := by
  cases hparameters : a.parameters with
  | nil =>
    simp only [coerce, hparameters] at h
    cases h
    exact ⟨_, _, rfl⟩
  | cons first rest =>
    have hne : a.parameters ≠ [] := by simp [hparameters]
    have hread : a.Delivers (fun _ => True) (Result.outcome (a.read setting .pair values st)) := by
      simp only [read]
      rw [Result.outcome_bind_pure, Result.outcome_ofExit]
      exact (ha.delivers_numbers hne .pair 2 2).map fun _ _ => trivial
    simp only [coerce, hparameters, asIs?_pair, Step.locate, Step.mapExit_apply] at h
    cases hres : a.read setting .pair values st with
    | ok v st₁ =>
      rw [hres] at h
      cases h
    | error y st₁ =>
      rw [hres] at h hread
      cases h
      obtain ⟨cause, range, hlocated, -⟩ :=
        Blames.located hread (.parameter (by simp [hparameters] : first ∈ a.parameters))
      exact ⟨cause, range, hlocated⟩

end Argument

namespace Runner

/-- When an argument is accepted as a pair. -/
theorem valueAs_pair_eq_ok_iff {r : Runner} {env : Env} {e : Expr} {name : String} {index : Int}
    {st st' : State} {v : Value} :
    r.valueAs env e .pair name index st = .ok v st' ↔
      (parametersOf e).length = 2 ∧
      ∃ (ws : List Value) (xs : List Float), r.row env (parametersOf e) st = .ok ws st' ∧
        Argument.components (ws.map Value.unwrap) = xs.map .number ∧ xs.length ≤ 2 ∧
        v = .tuple (xs.map .number) := by
  simp only [valueAs, Step.bind_eq_ok_iff]
  constructor
  · rintro ⟨ws, st₁, hrow, h⟩
    have hne : parametersOf e ≠ [] := by
      intro hnil
      simp only [Argument.coerce, hnil] at h
      cases h
    rw [Argument.coerce_pair_iff (takes_of_row hrow) hne] at h
    obtain ⟨rfl, hlength, xs, hcomponents, hfew, rfl⟩ := h
    exact ⟨hlength, ws, xs, hrow, hcomponents, hfew, rfl⟩
  · rintro ⟨hlength, ws, xs, hrow, hcomponents, hfew, rfl⟩
    have hne : parametersOf e ≠ [] := by
      intro hnil
      rw [hnil] at hlength
      cases hlength
    refine ⟨ws, st', hrow, ?_⟩
    rw [Argument.coerce_pair_iff (takes_of_row hrow) hne]
    exact ⟨rfl, hlength, xs, hcomponents, hfew, rfl⟩

/-- Two values that are components of a pair are two numbers. -/
theorem two_numbers_of_components {v w : Value} {xs : List Float}
    (h : Argument.components [v, w] = xs.map .number) : ∃ x y, xs = [x, y] := by
  have hself : Argument.components [v, w] = [v, w] :=
    Argument.components_eq_self fun es h => by cases (List.cons.inj h).2
  have hlength : xs.length = 2 := by
    rw [← xs.length_map, ← h, hself]
    rfl
  exact List.length_eq_two.mp hlength

/-- **Which arguments make a pair.**  The argument has two parameters, and its components are at most
two numbers.  They are exactly two unless the first parameter is a name that takes the second.  An
argument that is not a pair is refused with a script error that has a range, unless its parameters
have no values in the first place. -/
theorem valueAs_pair (r : Runner) (env : Env) (e : Expr) (name : String) (index : Int)
    (st : State) :
    (∀ v st', r.valueAs env e .pair name index st = .ok v st' ↔
      (parametersOf e).length = 2 ∧
      ∃ (ws : List Value) (xs : List Float), r.row env (parametersOf e) st = .ok ws st' ∧
        Argument.components (ws.map Value.unwrap) = xs.map .number ∧ xs.length ≤ 2 ∧
        v = .tuple (xs.map .number)) ∧
    (∀ v st' first second, r.valueAs env e .pair name index st = .ok v st' →
      parametersOf e = [first, second] → ¬TakesRest (st.scope :: env.enclosing) first →
        ∃ x y, v = .tuple [.number x, .number y]) ∧
    (∀ x st', r.valueAs env e .pair name index st = .error x st' →
      r.row env (parametersOf e) st = .error x st' ∨ ∃ cause range, x = .raise cause range) := by
  refine ⟨fun v st' => valueAs_pair_eq_ok_iff, ?_, ?_⟩
  · intro v st' first second h hparameters htakes
    obtain ⟨-, ws, xs, hrow, hcomponents, -, rfl⟩ := valueAs_pair_eq_ok_iff.mp h
    rw [hparameters] at hrow
    obtain ⟨w₁, w₂, rfl⟩ := row_pair htakes hrow
    obtain ⟨x, y, rfl⟩ := two_numbers_of_components hcomponents
    exact ⟨x, y, rfl⟩
  · intro x st' h
    cases hrow : r.row env (parametersOf e) st with
    | error y st₁ =>
      rw [valueAs, Step.bind_error _ hrow] at h
      cases h
      exact .inl rfl
    | ok ws st₁ =>
      rw [valueAs, Step.bind_ok _ hrow] at h
      exact .inr ((takes_of_row hrow).raise_of_pair h)

end Runner

namespace Short

/-- The argument of `pow abs 1`. -/
def argument : Expr := .tuple ⟨4, 9⟩ [.identifier ⟨4, 7⟩ "abs", .number ⟨8, 9⟩ 1]

/-- The state before the argument is read. -/
def state : State := { scope := { source := "pow abs 1" }, world := {} }

/-- **A pair of one number**: the name takes the second parameter.  The command that gets it stops
with a fault. -/
theorem pair_of_one : ∃ v st',
    (Runner.ofFuel 2).valueAs ⟨{}, []⟩ argument .pair "pow" 0 state = .ok v st' ∧
    (¬∃ x y, v = .tuple [.number x, .number y]) ∧
    Command.run {} .pow v st' = .error (.fault (.invalid (.notPair 1))) st' := by
  refine ⟨_, _, rfl, ?_, rfl⟩
  rintro ⟨x, y, h⟩
  cases h

end Short

/-! ### Calls without parentheses -/

/-- **How many parameters an argument of a kind can have**, if it is a single call. -/
def Kind.Admits (kind : Kind) (count : Nat) : Prop :=
  match kind with
  | .color | .colorOrTexture => count ≤ 4
  | .vector | .size => count ≤ 3
  | _ => True

namespace Argument

variable {a a' : Argument} {kind : Kind} {most : Nat} {make : List Float → Value} {u v : Value}
  {setting : Setting} {e : Expr} {st st' : State}

theorem mismatch_ne_ok (a : Argument) (kind : Kind) (values : List Value) (v : Value) :
    a.mismatch kind values ≠ .ok v := by
  unfold mismatch
  split
  · intro h
    cases h
  · split <;> exact raiseAt_ne_ok a _ _ v

/-- What a command gives is no colour, vector or size yet. -/
theorem coerce_made_iff (hu : u.IsAnswer) (hkind : kind.MadeOf 1 most make)
    (ha : a.parameters ≠ []) (ha' : a'.parameters = [e]) :
    a.coerce setting kind [u] st = .ok v st' ↔
      a.parameters.length ≤ most ∧ a'.coerce setting kind [u] st = .ok v st' := by
  have hpos : 1 ≤ a.parameters.length := List.length_pos_iff.mpr ha
  have hone : a'.parameters.length = 1 := by rw [ha']; rfl
  have hmost : 1 ≤ most := by cases hkind <;> omega
  have hne : ¬([u] = [v] ∧ v.kind = kind) := by
    rintro ⟨h, hv⟩
    cases h
    cases hkind <;> cases hu <;> cases hv
  have hsome : 1 ≤ [u].length := Nat.le_refl 1
  have hfew : [u].length ≤ a'.parameters.length := Nat.le_of_eq hone.symm
  rw [coerce_eq_ok_iff hkind hsome hpos, coerce_eq_ok_iff hkind hsome hfew, hone]
  simp only [hne, hpos, hmost, false_or, true_and, Nat.le_refl]
  exact and_left_comm

/-- What a command gives is no texture either. -/
theorem coerce_colorOrTexture (hu : u.IsAnswer) (ha : a.parameters ≠ []) :
    a.coerce setting .colorOrTexture [u] st = a.coerce setting .color [u] st := by
  obtain ⟨first, rest, hparameters⟩ := List.exists_cons_of_ne_nil ha
  simp only [coerce, hparameters]
  cases hu <;> rfl

/-- **What a command gives is coerced alike**, however many parameters it took, as long as these are
not more than the kind admits. -/
theorem coerce_answer_iff (hu : u.IsAnswer)
    (hkind : kind ∈ [.number, .string, .tuple, .color, .vector, .size, .colorOrTexture])
    (ha : a.parameters ≠ []) (ha' : a'.parameters = [e]) :
    a.coerce setting kind [u] st = .ok v st' ↔
      kind.Admits a.parameters.length ∧ a'.coerce setting kind [u] st = .ok v st' := by
  have hne' : a'.parameters ≠ [] := by
    rw [ha']
    exact List.cons_ne_nil e []
  have hscalar {k : Kind} (hread : ∀ a : Argument, a.read setting k [u] = Step.ofExit
      (a.mismatch k [u])) : a.coerce setting k [u] st = .ok v st' ↔
        True ∧ a'.coerce setting k [u] st = .ok v st' := by
    rw [true_and, coerce_eq_ok_iff_read ha, coerce_eq_ok_iff_read hne', hread, hread]
    simp only [Step.ofExit_eq_ok_iff, mismatch_ne_ok, false_and, and_false]
  simp only [List.mem_cons, List.not_mem_nil, or_false] at hkind
  rcases hkind with rfl | rfl | rfl | rfl | rfl | rfl | rfl
  · exact hscalar fun _ => rfl
  · exact hscalar fun _ => rfl
  · rw [coerce_eq_ok_iff_read ha, coerce_eq_ok_iff_read hne']
    exact (iff_of_eq (true_and _)).symm
  · exact coerce_made_iff hu .color ha ha'
  · exact coerce_made_iff hu .vector ha ha'
  · exact coerce_made_iff hu .size ha ha'
  · rw [coerce_colorOrTexture hu ha, coerce_colorOrTexture hu hne']
    exact coerce_made_iff hu .color ha ha'

end Argument

/-- The value of parentheses around a row, two layers further out. -/
theorem Runner.row_enclosed {fuel : Nat} {env : Env} {items : List Expr} {range range' : SourceRange}
    {st st' : State} {ws : List Value} :
    (ofFuel (fuel + 2)).row env [.sub range' (.tuple range items)] st = .ok ws st' ↔
      ∃ vs, (ofFuel fuel).row env items st = .ok vs st' ∧ ws = [.tuple vs] := by
  show ((do return .tuple (← (ofFuel fuel).row env items)) >>= fun v => pure [v] : Eval _) st
    = .ok ws st' ↔ _
  simp only [Step.bind_eq_ok_iff]
  constructor
  · rintro ⟨v, st₁, ⟨vs, st₂, hvs, hv⟩, hw⟩
    cases hv
    cases hw
    exact ⟨vs, hvs, rfl⟩
  · rintro ⟨vs, hvs, rfl⟩
    exact ⟨_, st', ⟨vs, st', hvs, rfl⟩, rfl⟩

/-- **A call in an argument needs no parentheses**, as long as it does not take more parameters than
the kind admits: the argument is accepted with the same value, in the same state, as with parentheses
around it. -/
theorem Runner.valueAs_enclosed (fuel : Nat) (env : Env) {kind : Kind}
    (hkind : kind ∈ [.number, .string, .tuple, .color, .vector, .size, .colorOrTexture])
    {callee : String} {c : Command} {st : State}
    (hcallee : Scope.symbol? (st.scope :: env.enclosing) callee = some (.command c))
    (hparameter : c.parameter ≠ .void) (place range range' : SourceRange) (next : Expr)
    (rest : List Expr) (name : String) (index : Int) (v : Value) (st' : State) :
    (ofFuel fuel).valueAs env (.tuple range (.identifier place callee :: next :: rest)) kind name
        index st = .ok v st' ↔
      kind.Admits (rest.length + 2) ∧
      (ofFuel (fuel + 2)).valueAs env
        (.sub range' (.tuple range (.identifier place callee :: next :: rest))) kind name index st
        = .ok v st' := by
  have happetite : appetiteAt (st.scope :: env.enclosing) (.identifier place callee)
      = .argument c := by
    rw [appetiteAt, hcallee]
    exact if_neg hparameter
  let items : List Expr := .identifier place callee :: next :: rest
  have hcoerce {w : Value} (hw : w.IsAnswer) (st₁ : State) :
      Argument.coerce env.setting ⟨name, index, range, items⟩ kind [w.unwrap] st₁ = .ok v st' ↔
        kind.Admits (rest.length + 2) ∧
        Argument.coerce env.setting ⟨name, index, range', [.sub range' (.tuple range items)]⟩ kind
          [w.unwrap] st₁ = .ok v st' := by
    rw [hw.unwrap_eq]
    exact Argument.coerce_answer_iff hw hkind (List.cons_ne_nil _ _) rfl
  simp only [valueAs, parametersOf, Step.bind_eq_ok_iff, row_enclosed]
  constructor
  · rintro ⟨ws, st₁, hrow, h⟩
    obtain ⟨w, rfl, hw⟩ := row_answer happetite hrow
    obtain ⟨hadmits, h⟩ := (hcoerce hw st₁).mp h
    exact ⟨hadmits, _, st₁, ⟨_, hrow, rfl⟩, h⟩
  · rintro ⟨hadmits, ws, st₁, ⟨vs, hrow, rfl⟩, h⟩
    obtain ⟨w, rfl, hw⟩ := row_answer happetite hrow
    exact ⟨_, st₁, hrow, (hcoerce hw st₁).mpr ⟨hadmits, h⟩⟩

namespace Longest

/-- The environment of a program. -/
def env : Env := ⟨{}, []⟩

/-- The state before the argument is read. -/
def state : State := { scope := { source := "size max 1 2 3" }, world := {} }

/-- The call `max 1 2`. -/
def shorter : Expr :=
  .tuple ⟨5, 12⟩ [.identifier ⟨5, 8⟩ "max", .number ⟨9, 10⟩ 1, .number ⟨11, 12⟩ 2]

/-- The call `max 1 2 3`. -/
def longer : Expr :=
  .tuple ⟨5, 14⟩ [.identifier ⟨5, 8⟩ "max", .number ⟨9, 10⟩ 1, .number ⟨11, 12⟩ 2,
    .number ⟨13, 14⟩ 3]

/-- A size can be given by `max 1 2`, with and without parentheses. -/
theorem valueAs_enclosed_shorter :
    Kind.size ∈ [Kind.number, .string, .tuple, .color, .vector, .size, .colorOrTexture] ∧
    Scope.symbol? (state.scope :: env.enclosing) "max" = some (.command .max) ∧
    Command.max.parameter ≠ .void ∧
    ∃ v, (Runner.ofFuel 1).valueAs env shorter .size "size" 0 state = .ok v state ∧
      (Runner.ofFuel 3).valueAs env (.sub ⟨5, 14⟩ shorter) .size "size" 0 state = .ok v state := by
  have hkind : Kind.size ∈ [Kind.number, .string, .tuple, .color, .vector, .size, .colorOrTexture] :=
    by decide
  have hmax : Scope.symbol? (state.scope :: env.enclosing) "max" = some (.command .max) := rfl
  have hparameter : Command.max.parameter ≠ .void := by decide
  have hspread : (Runner.ofFuel 1).valueAs env shorter .size "size" 0 state
      = .ok (.size (Vec3.size [Rotation.greater 1 2])) state := rfl
  have henclosed := (Runner.valueAs_enclosed 1 env hkind hmax hparameter _ _ ⟨5, 14⟩ _ _ "size" 0 _
    _).mp hspread
  exact ⟨hkind, hmax, hparameter, _, hspread, henclosed.2⟩

/-- **A size cannot be given by `max 1 2 3`**, unless there are parentheses around it. -/
theorem valueAs_spread_ne :
    (∃ v, (Runner.ofFuel 3).valueAs env (.sub ⟨5, 16⟩ longer) .size "size" 0 state
      = .ok v state) ∧
    ∀ fuel : Nat, (Runner.ofFuel (fuel + 1)).valueAs env longer .size "size" 0 state
      = .error (.raise (.unexpectedArgument "size" 3) ⟨13, 14⟩) state :=
  ⟨⟨_, rfl⟩, fun _ => rfl⟩

end Longest

end SceneLang
