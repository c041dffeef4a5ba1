import SceneLang.Proofs.ProgramCodec
import SceneLang.Proofs.SimulationStatements

/-!
# How a script can fail

Without a host and without imports, everything that a run works with was made by the script.  So an
operation that would fail on a value of the wrong kind or on a matrix of the wrong shape never meets
one, and a run that ends has a scene or a script error.

There are few exceptions, and each of them is a slip: a row without numbers, a pair of fewer than
two numbers and an infinite angle (`Fault.IsSlip`), and a polygon whose number of sides the script
has defined as something else than a number (`Moment.BuildsOddPolygon`).  The main result,
`Program.result_of_script`, says that no other fault ends a run.

The polygons are dealt with first.  A run that is cancelled where it would build an odd polygon
keeps everything orderly (`simulates_trapped`), and ends like the run itself unless that goes on to
fail there (`Accord.yieldingOdd`).
-/

namespace SceneLang

/-! ### Odd polygons -/

/-- **An odd polygon is a fault.** -/
theorem Shape.build_polygon_odd (setting : Setting) {st : State} (h : ¬ st.scope.CountsSides) :
    Shape.build setting .polygon st = .error (.fault .wrongKind) st := by
  have hsides : st.scope.sides = .error .wrongKind := by
    unfold Scope.sides
    split
    · next hnone => exact absurd (fun v hv => nomatch hnone.symm.trans hv) h
    · next x hnumber =>
      refine absurd (fun v hv => ?_) h
      obtain rfl := Option.some.inj (hnumber.symm.trans hv)
      rfl
    · rfl
  show (Step.ofExcept st.scope.sides >>= fun _ => _) st = _
  rw [hsides]
  rfl

/-- **How a step ends that fails at an odd polygon**, if it has enough fuel. -/
def Result.FailsOddly {σ α : Type} (res : EStateM.Result Exit σ α) : Prop :=
  ∃ x s, res = .error x s ∧ (x = .fault .wrongKind ∨ x = .exhausted)

section FailsOddly

variable {σ α β : Type} {res : EStateM.Result Exit σ α}

theorem Result.FailsOddly.bind {x : Step σ α} {s : σ} (h : FailsOddly (x s)) (f : α → Step σ β) :
    FailsOddly ((x >>= f) s) := by
  obtain ⟨e, s₁, heq, he⟩ := h
  exact ⟨e, s₁, Step.bind_error f heq, he⟩

theorem Result.FailsOddly.mapExit (h : FailsOddly res) {f : Exit → Exit}
    (hfault : f (.fault .wrongKind) = .fault .wrongKind) (hexhausted : f .exhausted = .exhausted) :
    FailsOddly (Result.mapExit f res) := by
  obtain ⟨x, s, rfl, rfl | rfl⟩ := h
  · exact ⟨_, s, rfl, .inl hfault⟩
  · exact ⟨_, s, rfl, .inr hexhausted⟩

theorem Result.FailsOddly.settle (h : FailsOddly res) (f : σ → σ) :
    FailsOddly (Result.settle f res) := by
  obtain ⟨x, s, rfl, hx⟩ := h
  exact ⟨x, f s, rfl, hx⟩

end FailsOddly

/-- Runs of which the first one does what the second one does, or is cancelled where the second one
fails at an odd polygon. -/
def Accord.yieldingOdd (setting : Setting) : Accord setting setting where
  Rel _ _ res res' := (∃ st, res = .error .cancelled st) ∧ Result.FailsOddly res' ∨ res' = res
  similar := .refl setting
  mono h _ := h
  plain _ := .inr rfl
  startTurn _ := .inr rfl
  bind {_ _ _ st x x' f f'} hx hf := by
    rcases hx with ⟨⟨st₁, hcancelled⟩, hodd⟩ | hsame
    · exact .inl ⟨⟨st₁, Step.bind_error f hcancelled⟩, hodd.bind f'⟩
    · cases hres : x st with
      | ok a st₁ =>
        rw [Step.bind_ok f hres, Step.bind_ok f' (hsame.trans hres)]
        exact (hf a st₁ (.inl hres)).2
      | error e st₁ =>
        exact .inr ((Step.bind_error f' (hsame.trans hres)).trans (Step.bind_error f hres).symm)
  locate r h := by
    refine h.imp ?_ (congrArg _)
    rintro ⟨⟨st', rfl⟩, hodd⟩
    exact ⟨⟨st', rfl⟩, hodd.mapExit rfl rfl⟩
  inFile file source h := by
    refine h.imp ?_ (congrArg _)
    rintro ⟨⟨st', rfl⟩, hodd⟩
    exact ⟨⟨st', rfl⟩, hodd.mapExit rfl rfl⟩
  settle _ h := by
    refine h.imp ?_ (congrArg _)
    rintro ⟨⟨st', rfl⟩, hodd⟩
    exact ⟨⟨_, rfl⟩, hodd.settle _⟩
  geometry _ _ _ _ := .inr rfl
  parse _ _ _ := .inr rfl

section Yielding

variable {setting : Setting} {bad : List Moment → Moment → Bool}

/-- A task that is stopped at odd polygons only. -/
theorem Accord.Holds.trap_odd {α : Type} {effect : Effect} {blame : Blame} {task : Task}
    {env : Env} {st : State} {act act' : Eval α} {active : List Moment}
    (hbad : ∀ active m, bad active m → m.BuildsOddPolygon)
    (h : (Accord.yieldingOdd setting).Holds effect blame st (act st) (act' st))
    (hodd : task = .build (.shape .polygon) → ¬ st.scope.CountsSides →
      Result.FailsOddly (act' st)) :
    (Accord.yieldingOdd setting).Holds effect blame st
      (SceneLang.trap (bad active) .cancelled task env act st) (act' st) := by
  refine ⟨frame_trap h.frame, h.frame', ?_⟩
  by_cases hstart : bad active ⟨task, env, st, false⟩
  · obtain ⟨htask, -, hsides⟩ := hbad _ _ hstart
    exact .inl ⟨⟨st, trap_start hstart⟩, hodd htask hsides⟩
  · have hend : ¬ bad active ⟨task, env, Result.state (act st), true⟩ := fun hend =>
      Bool.noConfusion (hbad _ _ hend).2.1
    rw [trap_eq hstart hend]
    exact h.rel

/-- **A run that is stopped at odd polygons** does what the run does, or the run fails there. -/
theorem Accord.agree_yieldingOdd (hbad : ∀ active m, bad active m → m.BuildsOddPolygon) (fuel : Nat)
    (active : List Moment) :
    (Accord.yieldingOdd setting).Agree .always (Runner.trapped bad .cancelled fuel active)
      (Runner.ofFuel fuel) := by
  induction fuel generalizing active with
  | zero =>
    have h := (Accord.yieldingOdd setting).agree_ofFuel .always 0
    exact ⟨rfl, fun outer e st hI => (h.expression outer e st hI).trap_odd hbad nofun,
      fun outer s st hI => (h.statement outer s st hI).trap_odd hbad nofun,
      fun outer symbol st hI hs =>
        (h.build outer symbol st hI hs).trap_odd hbad fun _ _ => ⟨_, _, rfl, .inr rfl⟩,
      fun outer block st hI ht => (h.body outer block st hI ht).trap_odd hbad nofun⟩
  | succ fuel ih =>
    rw [Runner.ofFuel_succ]
    refine ⟨rfl, fun outer e st hI => ((ih _).next.expression outer e st hI).trap_odd
        hbad nofun,
      fun outer s st hI => ((ih _).next.statement outer s st hI).trap_odd hbad nofun,
      fun outer symbol st hI hs =>
        ((ih _).next.build outer symbol st hI hs).trap_odd hbad fun htask hsides => ?_,
      fun outer block st hI ht =>
        ((ih _).next.body outer block st hI ht).trap_odd hbad nofun⟩
    cases htask
    exact ⟨_, _, Shape.build_polygon_odd setting hsides, .inl rfl⟩

end Yielding

/-! ### Programs -/

/-- A program starts with nothing out of order. -/
theorem Program.orderly_start (p : Program) : Orderly [p.start.scope] where
  levels := ⟨⟨Bindings.blocks_empty _, Bindings.blocks_empty _⟩, trivial⟩
  square s hs := by
    rw [List.mem_singleton.mp hs]
    have hchildren (v : Value) (hv : v ∈ p.start.scope.children) : v.IsSquare :=
      absurd hv (Array.not_mem_empty v)
    exact ⟨Transform.isSquare_identity, Transform.isSquare_identity, hchildren,
      Bindings.isSquare_empty, Bindings.isSquare_empty⟩

/-- How a program ends, by how its statements end. -/
theorem Program.result_run (fuel : Nat) (setting : Setting) (p : Program) :
    (p.run fuel setting).result =
      match (Runner.ofFuel fuel).program { setting } p p.start with
      | .ok _ st => .ok st.scope.scene
      | .error .cancelled st => .ok st.scope.scene
      | .error x _ => .error x := by
  unfold Program.run
  cases (Runner.ofFuel fuel).program { setting } p p.start with
  | ok a st => rfl
  | error x st => cases x <;> rfl

/-- **How a program ends that has no host**, cannot import and is not cancelled: with a scene, with
a script error, not at all, by a slip of a command, or at an odd polygon that the run comes to. -/
theorem Program.result_of_script (fuel : Nat) (p : Program) :
    (∃ scene, (p.run fuel {}).result = .ok scene) ∨
    (∃ e, (p.run fuel {}).result = .error (.error e)) ∨
    (p.run fuel {}).result = .error .exhausted ∨
    (∃ f, (p.run fuel {}).result = .error (.fault f) ∧ f.IsSlip) ∨
    ((p.run fuel {}).result = .error (.fault .wrongKind) ∧
      Visits (fun r => r.program { setting := {} } p) p.start fun _ m => m.BuildsOddPolygon) := by
  classical
  let bad : List Moment → Moment → Bool := fun _ m => decide m.BuildsOddPolygon
  have hstart : Akin True [] [] p.start p.start :=
    ⟨rfl, rfl, rfl, .refl _, fun _ => p.orderly_start⟩
  -- two things are known of the run that is stopped where it would build an odd polygon
  have hsimulates : Simulates True {} (Runner.trapped bad .cancelled fuel [])
      (Runner.ofFuel fuel) :=
    simulates_trapped (fun _ => rfl) (fun _ _ _ hm => decide_eq_true hm) fuel []
  have hagree : (Accord.yieldingOdd {}).Holds .statement .placed p.start
      ((Runner.trapped bad .cancelled fuel []).program { setting := {} } p p.start)
      ((Runner.ofFuel fuel).program { setting := {} } p p.start) :=
    (Accord.agree_yieldingOdd (fun _ _ hm => of_decide_eq_true hm) fuel []).program p trivial
  have husual := hsimulates.program p hstart
  rw [Program.result_run]
  rcases hagree.rel with ⟨⟨st, hcancelled⟩, x, st', hplain, rfl | rfl⟩ | hsame
  · -- the run goes on where the other one is stopped, and fails
    rw [hplain]
    refine .inr (.inr (.inr (.inr ⟨rfl, fuel, .cancelled, fun heq => ?_⟩)))
    cases (hcancelled.symm.trans heq).trans hplain
  · rw [hplain]
    exact .inr (.inr (.inl rfl))
  · rw [hsame]
    cases hres : (Runner.trapped bad .cancelled fuel []).program { setting := {} } p p.start with
    | ok _ st => exact .inl ⟨_, rfl⟩
    | error x st =>
      have hx := husual.of_error hres trivial
      cases x with
      | error e => exact .inr (.inl ⟨e, rfl⟩)
      | fault f => exact .inr (.inr (.inr (.inl ⟨f, rfl, hx⟩)))
      | cancelled => exact .inl ⟨_, rfl⟩
      | exhausted => exact .inr (.inr (.inl rfl))

namespace Slips

/-- The argument `(())`. -/
def nothing : Expr := .sub ⟨4, 8⟩ (.tuple ⟨5, 7⟩ [])

/-- A program that asks for the least of no numbers. -/
def least : Program where
  source := "min (())"
  statements := [.command ⟨0, 8⟩ ⟨⟨0, 3⟩, "min"⟩ (some nothing)]

/-- A program that asks for a power, but gives one number: the name takes the number after it. -/
def power : Program where
  source := "pow abs 1"
  statements := [.command ⟨0, 9⟩ ⟨⟨0, 3⟩, "pow"⟩
    (some (.tuple ⟨4, 9⟩ [.identifier ⟨4, 7⟩ "abs", .number ⟨8, 9⟩ 1]))]

/-- A program that defines the sides of a polygon, where it should pass them as an option. -/
def polygon : Program where
  source := "polygon \x7b define sides 5 \x7d"
  statements := [.block ⟨0, 26⟩ ⟨⟨0, 7⟩, "polygon"⟩ (.mk ⟨8, 26⟩ [
    .define ⟨10, 24⟩ ⟨⟨17, 22⟩, "sides"⟩ (.expression (.number ⟨23, 24⟩ 5))])]

/-- **Programs that end with a fault**, with whatever fuel they are run beyond a few layers.  All of
them can be read from a document, and none has a host. -/
theorem scripts_with_faults :
    (Program.ofJson least.toJson = .ok least ∧ ∀ fuel : Nat,
      (least.run (fuel + 4) {}).result = .error (.fault (.invalid (.noNumbers "min")))) ∧
    (Program.ofJson power.toJson = .ok power ∧ ∀ fuel : Nat,
      (power.run (fuel + 4) {}).result = .error (.fault (.invalid (.notPair 1)))) ∧
    (Program.ofJson polygon.toJson = .ok polygon ∧ ∀ fuel : Nat,
      (polygon.run (fuel + 4) {}).result = .error (.fault .wrongKind)) :=
  ⟨⟨least.ofJson_toJson, fun _ => rfl⟩, ⟨power.ofJson_toJson, fun _ => rfl⟩,
    ⟨polygon.ofJson_toJson, fun _ => rfl⟩⟩

end Slips

end SceneLang
