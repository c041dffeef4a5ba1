import SceneLang.Proofs.Runs

/-!
# What primitive steps do not look at

A step that runs no script acts on the active scope without looking at where the scope stands, at
the names that it holds or at what the world counts.  All this is its `Seat`.  Such a step commutes
with taking another seat (`Step.Commutes`): it does the same there and leaves the seat as it is.
Only a polygon is built from names, its options.
-/

namespace SceneLang

/-! ### Seats -/

/-- **Where a scope stands**, the names that it holds, and what the world counts. -/
structure Seat where
  parent : Option Nat
  definitions : Bindings Symbol
  callerDefinitions : Bindings Symbol
  polls : Nat
  turns : Nat

/-- A scope in a given seat. -/
def Scope.seated (seat : Seat) (s : Scope) : Scope :=
  { s with
    parent := seat.parent
    definitions := seat.definitions
    callerDefinitions := seat.callerDefinitions }

/-- A world with the counts of a given seat. -/
def World.seated (seat : Seat) (w : World) : World :=
  { w with polls := seat.polls, turns := seat.turns }

/-- A state in a given seat. -/
def State.seated (seat : Seat) (st : State) : State where
  scope := st.scope.seated seat
  world := st.world.seated seat

/-- The seat of a state. -/
def State.seat (st : State) : Seat where
  parent := st.scope.parent
  definitions := st.scope.definitions
  callerDefinitions := st.scope.callerDefinitions
  polls := st.world.polls
  turns := st.world.turns

/-- **A step commutes with a change of the state**: it does the same before and after it. -/
def Step.Commutes {σ α : Type} (ρ : σ → σ) (act : Step σ α) : Prop :=
  ∀ s, act (ρ s) = Result.settle ρ (act s)

namespace Step.Commutes

variable {σ α β : Type} {ρ : σ → σ}

theorem pure (a : α) : Commutes ρ (Pure.pure a : Step σ α) := fun _ => rfl

theorem throw (x : Exit) : Commutes ρ (MonadExcept.throw x : Step σ α) := fun _ => rfl

theorem bind {x : Step σ α} {f : α → Step σ β} (hx : Commutes ρ x) (hf : ∀ a, Commutes ρ (f a)) :
    Commutes ρ (x >>= f) := by
  intro s
  have hs := hx s
  cases hres : x s with
  | ok a s₁ =>
    rw [hres] at hs
    rw [Step.bind_ok f hres, Step.bind_ok f hs, hf a s₁]
  | error e s₁ =>
    rw [hres] at hs
    rw [Step.bind_error f hres, Step.bind_error f hs]
    rfl

/-- Reading what the change does not touch. -/
theorem get_bind {f : σ → Step σ β} (hread : ∀ s, f (ρ s) = f s) (hf : ∀ s, Commutes ρ (f s)) :
    Commutes ρ (get >>= f) := by
  intro s
  show f (ρ s) (ρ s) = Result.settle ρ (f s s)
  rw [hread, hf s s]

theorem modify {f : σ → σ} (h : ∀ s, f (ρ s) = ρ (f s)) :
    Commutes ρ (MonadStateOf.modifyGet fun s => (PUnit.unit, f s) : Step σ Unit) := by
  intro s
  show EStateM.Result.ok () (f (ρ s)) = .ok () (ρ (f s))
  rw [h]

theorem ofExcept (r : Except Fault α) : Commutes ρ (Step.ofExcept r : Step σ α) := by
  cases r with
  | ok a => exact pure a
  | error f => exact throw (.fault f)

theorem ofExit (r : Except Exit α) : Commutes ρ (Step.ofExit r : Step σ α) := by
  cases r with
  | ok a => exact pure a
  | error x => exact throw x

theorem locate {act : Step σ α} (h : Commutes ρ act) (r : SourceRange) :
    Commutes ρ (Step.locate r act) := by
  intro s
  rw [Step.locate, Step.mapExit_apply, Step.mapExit_apply, h s]
  cases act s <;> rfl

end Step.Commutes

open Step (Commutes)

variable {seat : Seat}

/-! ### Children -/

namespace Scope

theorem commutes_addLeaf (v : Value) : Commutes (seated seat) (addLeaf v) := by
  refine .get_bind (fun _ => rfl) fun s => ?_
  have hadd (w : Value) : Commutes (seated seat) (addChild w) := .modify fun _ => rfl
  split
  · exact .bind (.ofExcept _) hadd
  · split
    · split
      · exact hadd _
      · exact .throw _
    · exact .throw _

mutual

theorem commutes_add (v : Value) : Commutes (seated seat) (add v) := by
  cases v with
  | tuple vs =>
    rw [add]
    exact commutes_addAll vs
  | _ => exact commutes_addLeaf _

theorem commutes_addAll (vs : List Value) : Commutes (seated seat) (addAll vs) := by
  cases vs with
  | nil => exact .pure ()
  | cons v rest =>
    rw [addAll]
    exact .bind (commutes_add v) fun _ => commutes_addAll rest

end

/-- The children of a block that is called with them do not depend on its seat. -/
theorem gather_seated (name : String) (place : SourceRange) (vs : List Value) (s : Scope) :
    Runner.gather name place vs (s.seated seat)
      = (Runner.gather name place vs s).map (seated seat) := by
  induction vs generalizing s with
  | nil => rfl
  | cons v rest ih =>
    unfold Runner.gather
    rw [commutes_add v s]
    cases add v s with
    | ok a s₁ => exact ih s₁
    | error x s₁ => cases x <;> rfl

end Scope

/-! ### Steps on the state -/

theorem commutes_onScope {act : Step Scope Unit} (h : Commutes (Scope.seated seat) act) :
    Commutes (State.seated seat) (Eval.onScope act) := by
  intro st
  have hst : act (st.seated seat).scope = Result.settle (Scope.seated seat) (act st.scope) :=
    h st.scope
  unfold Eval.onScope Step.onPart
  rw [hst]
  cases act st.scope <;> rfl

theorem commutes_modifyScope {f : Scope → Scope}
    (h : ∀ s : Scope, f (s.seated seat) = (f s).seated seat) :
    Commutes (State.seated seat) (Eval.modifyScope f) :=
  .modify fun st => congrArg (fun s => State.mk s (st.world.seated seat)) (h st.scope)

theorem commutes_modifyWorld {f : World → World}
    (h : ∀ w : World, f (w.seated seat) = (f w).seated seat) :
    Commutes (State.seated seat) (Eval.modifyWorld f) :=
  .modify fun st => congrArg (State.mk (st.scope.seated seat)) (h st.world)

/-- Reading what a scope is apart from its seat. -/
theorem commutes_scope_bind {β : Type} {f : Scope → Eval β}
    (hread : ∀ s : Scope, f (s.seated seat) = f s)
    (hf : ∀ s, Commutes (State.seated seat) (f s)) :
    Commutes (State.seated seat) (Eval.scope >>= f) := by
  intro st
  show f (st.scope.seated seat) (st.seated seat) = Result.settle _ (f st.scope st)
  rw [hread, hf st.scope st]

theorem commutes_addValue (v : Value) : Commutes (State.seated seat) (Eval.addValue v) :=
  commutes_onScope (Scope.commutes_add v)

theorem commutes_notify (n : Notice) : Commutes (State.seated seat) (Eval.notify n) :=
  commutes_modifyWorld fun _ => rfl

theorem commutes_resolve (setting : Setting) (path : String) :
    Commutes (State.seated seat) (setting.resolve path) := by
  unfold Setting.resolve
  cases setting.host with
  | none => exact .throw _
  | some host =>
    refine .bind (.ofExcept _) fun place => ?_
    exact .bind (commutes_modifyWorld fun _ => rfl) fun _ => .pure _

/-! ### Arguments -/

namespace Argument

theorem commutes_texture (setting : Setting) (a : Argument) (values : List Value) :
    Commutes (State.seated seat) (a.texture setting values) := by
  unfold texture
  split
  · exact .pure _
  · exact .pure _
  · exact .bind (commutes_resolve setting _) fun _ => .pure _
  · exact .ofExit _

theorem commutes_read (setting : Setting) (a : Argument) (kind : Kind) (values : List Value) :
    Commutes (State.seated seat) (a.read setting kind values) := by
  cases kind with
  | vector | size | pair | paths => exact .bind (.ofExit _) fun _ => .pure _
  | tuple => exact .pure _
  | texture => exact commutes_texture setting a values
  | colorOrTexture =>
    unfold read colorOrTexture
    dsimp only
    split
    · exact .throw _
    · split
      · exact commutes_texture setting a _
      · exact .ofExit _
  | _ => exact .ofExit _

theorem commutes_coerce (setting : Setting) (a : Argument) (kind : Kind) (values : List Value) :
    Commutes (State.seated seat) (a.coerce setting kind values) := by
  unfold coerce
  split
  · split
    · exact .pure _
    · exact .throw _
  · split
    · exact .pure _
    · exact .locate (commutes_read setting a kind values) _

end Argument

/-! ### Commands and properties -/

theorem commutes_draw : Commutes (State.seated seat) Eval.draw := fun _ => rfl

theorem commutes_moveChildren (f : Transform Float → Except Fault (Transform Float)) :
    Commutes (State.seated seat) (Eval.moveChildren f) :=
  commutes_scope_bind (fun _ => rfl) fun _ => .bind (.ofExcept _) fun _ =>
    .bind (commutes_modifyScope fun _ => rfl) fun _ => .pure _

theorem commutes_run (setting : Setting) (command : Command) (argument : Value) :
    Commutes (State.seated seat) (command.run setting argument) := by
  have hreseed (random : Random.Twister) : Commutes (State.seated seat) (Eval.reseed random) :=
    .bind (commutes_modifyWorld fun _ => rfl) fun _ => .pure _
  cases command with
  | function f =>
    cases f with
    | round =>
      cases argument with
      | number x => exact .pure _
      | _ => exact .throw _
    | _ => exact .bind (.ofExcept _) fun _ => .pure _
  | atan2 | pow => exact .bind (.ofExcept _) fun _ => .pure _
  | min | max => exact .bind (.ofExit _) fun _ => .pure _
  | rnd => exact .bind commutes_draw fun _ => .pure _
  | seed =>
    unfold Command.run
    dsimp only
    split
    · exact hreseed _
    · exact hreseed _
    · exact .pure _
    · exact .pure _
    · exact .throw _
  | print =>
    refine .bind (.ofExcept _) fun values => ?_
    split
    · exact .bind (commutes_notify _) fun _ => .pure _
    · exact .pure _
  | assert => exact .bind (.ofExit _) fun _ => .pure _
  | translate | rotate | scale => exact .bind (.ofExcept _) fun _ => commutes_moveChildren _
  | point | curve => exact .bind (.ofExcept _) fun _ => .pure _

theorem commutes_get (p : Property) : Commutes (State.seated seat) p.get := by
  refine commutes_scope_bind (fun _ => rfl) fun s => ?_
  cases p with
  | orientation => exact .bind (.ofExcept _) fun _ => .pure _
  | background =>
    dsimp only
    split <;> exact .pure _
  | _ => exact .pure _

theorem commutes_set (p : Property) (v : Value) : Commutes (State.seated seat) (p.set v) := by
  have hplace (f : Transform Float → Transform Float) :
      Commutes (State.seated seat) (Property.place f) :=
    commutes_modifyScope fun _ => rfl
  have hpaint (f : Material Float → Material Float) :
      Commutes (State.seated seat) (Property.paint f) :=
    commutes_modifyScope fun _ => rfl
  have hmissing {w : Value} {act : Eval Unit} (h : Commutes (State.seated seat) act) :
      Commutes (State.seated seat) (Property.orMissing w act) := by
    unfold Property.orMissing
    split
    · exact h
    · exact .throw _
  cases p with
  | position | size => exact .bind (.ofExcept _) fun _ => hplace _
  | orientation => exact .bind (.ofExcept _) fun _ => .bind (.ofExcept _) fun _ => hplace _
  | color | texture =>
    unfold Property.set
    dsimp only
    split
    · exact hpaint _
    · exact hmissing (hpaint _)
  | detail | opacity =>
    unfold Property.set
    dsimp only
    split
    · exact commutes_modifyScope fun _ => rfl
    · exact .throw _
  | font | name =>
    unfold Property.set
    dsimp only
    split
    · exact commutes_modifyScope fun _ => rfl
    · exact commutes_modifyScope fun _ => rfl
    · exact .throw _
  | background =>
    unfold Property.set
    dsimp only
    split
    · exact commutes_modifyScope fun _ => rfl
    · exact commutes_modifyScope fun _ => rfl
    · exact hmissing (commutes_modifyScope fun _ => rfl)

/-! ### Standard blocks -/

theorem placedPaths_seated (s : Scope) (ps : List Path) :
    (s.seated seat).placedPaths ps = s.placedPaths ps := by
  induction ps with
  | nil => rfl
  | cons p rest ih =>
    unfold Scope.placedPaths
    rw [ih]
    rfl

/-- A standard block is built from the state of the scope and from its options. -/
theorem build_seated (setting : Setting) (shape : Shape) {st : State}
    (h : (st.scope.seated seat).option? "sides" = st.scope.option? "sides") :
    shape.build setting (st.seated seat)
      = Result.settle (State.seated seat) (shape.build setting st) := by
  cases shape with
  | polygon =>
    -- the number of sides is an option, so this step does not commute with every seat
    show ((Step.ofExcept (st.scope.seated seat).sides >>= fun sides =>
      Step.ofExcept (st.scope.placedPath (Path.polygon sides Path.unitRadius))) : Eval Value) _ = _
    have hsides : (st.scope.seated seat).sides = st.scope.sides := by
      unfold Scope.sides
      rw [h]
    rw [hsides]
    have hcommutes : Commutes (State.seated seat) (Step.ofExcept st.scope.sides >>= fun sides =>
        Step.ofExcept (st.scope.placedPath (Path.polygon sides Path.unitRadius)) : Eval Value) :=
      .bind (.ofExcept _) fun _ => .ofExcept _
    exact hcommutes st
  | text =>
    have houtlines (text : String) (font : Option String) (detail : Int) :
        Commutes (State.seated seat) (setting.outlines text font detail) := by
      unfold Setting.outlines
      split
      · exact .pure _
      · exact .bind (commutes_notify _) fun _ => .pure _
    refine commutes_scope_bind (fun s => ?_) (fun s => ?_) st
    · simp only [placedPaths_seated]
      rfl
    · exact .bind (houtlines _ _ _) fun _ => .bind (.ofExcept _) fun _ => .pure _
  | solid kind => rfl
  | circle => exact commutes_scope_bind (fun _ => rfl) (fun _ => .ofExcept _) st
  | square => exact commutes_scope_bind (fun _ => rfl) (fun _ => .ofExcept _) st
  | path => exact commutes_scope_bind (fun _ => rfl) (fun _ => .ofExcept _) st
  | built kind => rfl
  | combined kind => rfl

/-- The value of a defined block does not depend on the seat of its scope. -/
theorem resultOf_seated (s : Scope) : Runner.resultOf (s.seated seat) = Runner.resultOf s := by
  unfold Runner.resultOf
  rw [placedPaths_seated]
  rfl

end SceneLang
