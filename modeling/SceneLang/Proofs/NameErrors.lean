import SceneLang.Proofs.Layers

/-!
# Errors about names

The cause of an error is found inside of the wrappers that imports put around it
(`ScriptError.core`).  Steps that run no script have errors of many kinds, but none about a name
that stands for nothing: commands, properties, standard blocks, arguments, files and children do not
look names up.  `Step.Spares` says so of a step, for a given name and given names in its place.
-/

namespace SceneLang

/-! ### The cause of an error -/

mutual

/-- The cause inside of all wrappers. -/
def ErrorCause.core : ErrorCause → Option ErrorCause
  | .importedFileError error _ _ => error.core
  | cause => some cause

/-- **The cause of an error**, inside of all wrappers. -/
def ScriptError.core : ScriptError → Option ErrorCause
  | .evaluation cause _ => cause.core
  | _ => none

end

theorem ScriptError.core_located (e : ScriptError) (r : SourceRange) :
    (e.located r).core = e.core := by
  cases e with
  | evaluation cause range => cases range <;> rfl
  | _ => rfl

/-! ### Other reasons to stop -/

/-- **A reason to stop other than that a given name is unknown.** -/
def Exit.Spares (name : String) (options : List String) : Exit → Prop
  | .error e => e.core ≠ some (.unknownSymbol name options)
  | _ => True

section Sparing

variable {name : String} {options : List String}

theorem Exit.Spares.located {x : Exit} (h : x.Spares name options) (r : SourceRange) :
    (x.located r).Spares name options := by
  cases x with
  | error e =>
    show (e.located r).core ≠ _
    rw [e.core_located]
    exact h
  | _ => trivial

theorem Exit.Spares.inFile {x : Exit} (h : x.Spares name options) (file source : String) :
    (Runner.inFile file source x).Spares name options := by
  cases x with
  | error e => exact h
  | _ => trivial

/-- A function that makes no error about a given name. -/
def Sparing {α : Type} (name : String) (options : List String) (r : Except Exit α) : Prop :=
  ∀ x, r = .error x → x.Spares name options

namespace Sparing

variable {α β : Type}

theorem ok (a : α) : Sparing name options (.ok a) := fun _ h => by cases h

theorem error {x : Exit} (h : x.Spares name options) :
    Sparing name options (.error x : Except Exit α) := fun _ hx => by cases hx; exact h

theorem bind {r : Except Exit α} {f : α → Except Exit β} (hr : Sparing name options r)
    (hf : ∀ a, Sparing name options (f a)) : Sparing name options (r >>= f) := by
  cases r with
  | ok a => exact hf a
  | error x => exact error (hr x rfl)

theorem map {r : Except Exit α} (f : α → β) (hr : Sparing name options r) :
    Sparing name options (r.map f) := by
  cases r with
  | ok a => exact ok (f a)
  | error x => exact error (hr x rfl)

theorem mapError {r : Except Fault α} {f : Fault → Exit} (hf : ∀ e, (f e).Spares name options) :
    Sparing name options (r.mapError f) := by
  cases r with
  | ok a => exact ok a
  | error e => exact error (hf e)

end Sparing

/-! ### Steps -/

/-- A result that is no error about a given name. -/
def Spared {σ α : Type} (name : String) (options : List String)
    (res : EStateM.Result Exit σ α) : Prop :=
  ∀ x s, res = .error x s → x.Spares name options

/-- **A step that makes no error about a given name**, in whatever state. -/
def Step.Spares {σ α : Type} (name : String) (options : List String) (act : Step σ α) : Prop :=
  ∀ s, Spared name options (act s)

namespace Step.Spares

variable {σ α β : Type}

theorem pure (a : α) : Step.Spares name options (Pure.pure a : Step σ α) :=
  fun _ _ _ h => by cases h

theorem throw {x : Exit} (h : x.Spares name options) :
    Step.Spares name options (MonadExcept.throw x : Step σ α) :=
  fun _ _ _ hx => by cases hx; exact h

theorem modify (f : σ → σ) : Step.Spares name options (modify f : Step σ Unit) :=
  fun _ _ _ h => by cases h

theorem bind {x : Step σ α} {f : α → Step σ β} (hx : Step.Spares name options x)
    (hf : ∀ a, Step.Spares name options (f a)) : Step.Spares name options (x >>= f) := by
  intro s y s' hy
  cases hres : x s with
  | ok a s₁ => exact hf a s₁ y s' ((Step.bind_ok f hres).symm.trans hy)
  | error z s₁ =>
    rw [Step.bind_error f hres] at hy
    cases hy
    exact hx s y s' hres

/-- Nothing follows an exit. -/
theorem throw_bind {x : Exit} (h : x.Spares name options) {f : α → Step σ β} :
    Step.Spares name options ((MonadExcept.throw x : Step σ α) >>= f) :=
  fun _ _ _ hx => by cases hx; exact h

theorem ofExcept (r : Except Fault α) :
    Step.Spares name options (Step.ofExcept r : Step σ α) := by
  cases r with
  | ok a => exact pure a
  | error f => exact throw trivial

theorem ofExit {r : Except Exit α} (h : Sparing name options r) :
    Step.Spares name options (Step.ofExit r : Step σ α) := by
  cases r with
  | ok a => exact pure a
  | error x => exact throw (h x rfl)

theorem mapExit {act : Step σ α} {f : Exit → Exit} (h : Step.Spares name options act)
    (hf : ∀ x, x.Spares name options → (f x).Spares name options) :
    Step.Spares name options (act.mapExit f) := by
  intro s x s' hx
  rw [Step.mapExit_apply] at hx
  cases hres : act s with
  | ok a s₁ => rw [hres] at hx; cases hx
  | error y s₁ =>
    rw [hres] at hx
    cases hx
    exact hf y (h s y s' hres)

theorem locate {act : Step σ α} (h : Step.Spares name options act) (r : SourceRange) :
    Step.Spares name options (act.locate r) := h.mapExit fun _ hx => hx.located r

theorem settle {act : Step σ α} (h : Step.Spares name options act) (f : σ → σ) :
    Step.Spares name options (act.settle f) := by
  intro s x s' hx
  have hx' : Result.settle f (act s) = .error x s' := hx
  cases hres : act s with
  | ok a s₁ => rw [hres] at hx'; cases hx'
  | error y s₁ =>
    rw [hres] at hx'
    cases hx'
    exact h s x s₁ hres

theorem onScope {act : Step Scope α} (h : Step.Spares name options act) :
    Step.Spares name options (Eval.onScope act) := by
  intro st x st' hx
  unfold Eval.onScope Step.onPart at hx
  cases hres : act st.scope with
  | ok a s => rw [hres] at hx; cases hx
  | error y s =>
    rw [hres] at hx
    cases hx
    exact h st.scope x s hres

theorem inside (env : Env) (inner : Scope) (leave : Scope → Scope → Scope) {act : Env → Eval α}
    (h : ∀ s, Step.Spares name options (act (env.below s))) :
    Step.Spares name options (env.inside inner leave act) := by
  intro st
  rw [Env.inside_apply]
  exact (h st.scope).settle (fun st' => { st' with scope := leave st.scope st'.scope })
    { st with scope := inner }

end Step.Spares

/-! ### Arguments -/

namespace Argument

variable (a : Argument)

/-- The errors of arguments are of other kinds. -/
theorem sparing_raiseAt {α : Type} (i : Nat) {cause : ErrorCause}
    (hcause : cause.core ≠ some (.unknownSymbol name options)) :
    Sparing name options (a.raiseAt i cause : Except Exit α) := by
  unfold raiseAt
  split
  · exact .error hcause
  · exact .error trivial

theorem sparing_numbersFrom (kind : Kind) (i : Nat) (values : List Value) :
    Sparing name options (a.numbersFrom kind i values) := by
  induction values generalizing i with
  | nil => exact .ok []
  | cons v rest ih =>
    cases v with
    | number x => exact .bind (ih (i + 1)) fun xs => .ok (x :: xs)
    | _ => exact a.sparing_raiseAt _ nofun

theorem sparing_numbers (kind : Kind) (least most : Nat) (values : List Value) :
    Sparing name options (a.numbers kind least most values) := by
  have hcount : Sparing name options (a.checkCount least most) := by
    unfold checkCount
    split
    · exact a.sparing_raiseAt _ nofun
    · split
      · split
        · exact .error nofun
        · exact .error trivial
      · exact .ok ()
  have hopened : Sparing name options (a.opened most values) := by
    unfold opened
    split
    · split
      · split
        · exact .error nofun
        · exact .error trivial
      · exact .ok _
    · exact .ok _
  have hsingle (values : List Value) : Sparing name options (a.checkSingle kind values) := by
    unfold checkSingle
    split
    · split
      · split
        · exact a.sparing_raiseAt _ nofun
        · exact .error nofun
      · exact .ok ()
    · exact .ok ()
  exact hcount.bind fun _ => hopened.bind fun values => (hsingle values).bind fun _ =>
    a.sparing_numbersFrom kind 0 values

theorem sparing_pathsFrom (i : Nat) (values : List Value) :
    Sparing name options (a.pathsFrom i values) := by
  induction values generalizing i with
  | nil => exact .ok []
  | cons v rest ih =>
    unfold pathsFrom
    split
    · exact .bind (ih (i + 1)) fun ps => .ok (v.elements ++ ps)
    · exact a.sparing_raiseAt i fun h => by cases h

theorem sparing_mismatch {α : Type} (kind : Kind) (values : List Value) :
    Sparing name options (a.mismatch kind values : Except Exit α) := by
  unfold mismatch
  split
  · exact .error trivial
  · split
    · exact a.sparing_raiseAt _ fun h => by cases h
    · exact a.sparing_raiseAt _ fun h => by cases h

theorem sparing_color (values : List Value) : Sparing name options (a.color values) := by
  unfold color
  split
  · exact .ok _
  · exact .bind (a.sparing_numbers .color 1 4 values) fun xs => .ok _

theorem sparing_font (setting : Setting) (values : List Value) :
    Sparing name options (a.font setting values) := by
  unfold font
  split
  · exact .ok _
  · refine .map _ ?_
    unfold checkFont
    dsimp only
    split
    · exact .ok _
    · split
      · exact .ok _
      · exact .error nofun
  · exact a.sparing_mismatch .font _

end Argument

namespace Step.Spares

/-! ### Steps that run no script -/

theorem modifyWorld (f : World → World) : Step.Spares name options (Eval.modifyWorld f) :=
  modify _

theorem modifyScope (f : Scope → Scope) : Step.Spares name options (Eval.modifyScope f) :=
  modify _

theorem scope_bind {β : Type} {f : Scope → Eval β} (h : ∀ s, Step.Spares name options (f s)) :
    Step.Spares name options (Eval.scope >>= f) := fun st => h st.scope st

theorem notify (n : Notice) : Step.Spares name options (Eval.notify n) := modifyWorld _

theorem resolve (setting : Setting) (path : String) :
    Step.Spares name options (setting.resolve path) := by
  unfold Setting.resolve
  cases setting.host with
  | none => exact throw nofun
  | some host => exact (ofExcept _).bind fun place => (modifyWorld _).bind fun _ => pure place

/-- **The errors of arguments are of other kinds.** -/
theorem coerce (setting : Setting) (a : Argument) (kind : Kind) (values : List Value) :
    Step.Spares name options (a.coerce setting kind values) := by
  have htexture : Step.Spares name options (a.texture setting values) := by
    unfold Argument.texture
    split
    · exact pure _
    · exact pure _
    · exact (resolve setting _).bind fun url => pure _
    · exact ofExit (a.sparing_mismatch .texture _)
  have hboth : Step.Spares name options (a.colorOrTexture setting values) := by
    unfold Argument.colorOrTexture
    split
    · exact throw trivial
    · split
      · exact htexture
      · exact ofExit (a.sparing_color _)
  have hread : Step.Spares name options (a.read setting kind values) := by
    have hnumbers (k : Kind) (least most : Nat) :
        Step.Spares name options (Step.ofExit (a.numbers k least most values) : Eval _) :=
      ofExit (a.sparing_numbers k least most values)
    cases kind with
    | color => exact ofExit (a.sparing_color values)
    | vector => exact (hnumbers .vector 1 3).bind fun xs => pure _
    | size => exact (hnumbers .size 1 3).bind fun xs => pure _
    | pair => exact (hnumbers .pair 2 2).bind fun xs => pure _
    | tuple => exact pure _
    | texture => exact htexture
    | colorOrTexture => exact hboth
    | font => exact ofExit (a.sparing_font setting values)
    | paths => exact (ofExit (a.sparing_pathsFrom 0 values)).bind fun ps => pure _
    | void => exact ofExit (a.sparing_raiseAt 0 (fun h => by cases h))
    | _ => exact ofExit (a.sparing_mismatch _ values)
  unfold Argument.coerce
  split
  · split
    · exact pure _
    · exact throw fun h => by cases h
  · split
    · exact pure _
    · exact hread.locate _

theorem bestOf (command : String) (pick : Float → Float → Float) (v : Value) :
    Step.Spares name options (Step.ofExit (SceneLang.bestOf command pick v) : Eval Float) := by
  have hrow (i : Nat) (row : List (Option Value)) :
      Sparing name options (rowNumbers command i row) := by
    induction row generalizing i with
    | nil => exact .ok []
    | cons v rest ih =>
      cases v with
      | none => exact .error trivial
      | some v =>
        cases v with
        | number x => exact .bind (ih (i + 1)) fun xs => .ok (x :: xs)
        | _ => exact .error nofun
  refine ofExit (.bind (.mapError fun _ => trivial) fun row => .bind (hrow 0 row) fun xs => ?_)
  cases xs with
  | nil => exact .error trivial
  | cons x rest => exact .ok _

theorem checkAssertion (v : Value) :
    Step.Spares name options (Step.ofExit (SceneLang.checkAssertion v) : Eval Unit) := by
  have htext (row : List (Option Value)) : Sparing name options (assertionText row) := by
    unfold assertionText
    split
    · exact .ok _
    · exact .ok _
    · exact .error nofun
    · exact .error trivial
  refine ofExit (.bind (.mapError fun _ => trivial) fun row => ?_)
  split
  · exact .error nofun
  · refine .bind (htext _) fun message => ?_
    split
    · exact .error nofun
    · exact .ok ()
  · exact .error nofun
  · exact .error trivial

theorem moveChildren (f : Transform Float → Except Fault (Transform Float)) :
    Step.Spares name options (Eval.moveChildren f) :=
  scope_bind fun _ => (ofExcept _).bind fun _ => (modifyScope _).bind fun _ => pure _

/-- **The errors of commands are of other kinds.** -/
theorem run (setting : Setting) (command : Command) (argument : Value) :
    Step.Spares name options (command.run setting argument) := by
  have hpure (v : Value) : Step.Spares name options (Pure.pure v : Eval Value) := pure v
  have htriple : Step.Spares name options (Step.triple argument : Eval (Vec3 Float)) := ofExcept _
  cases command with
  | function f =>
    have hdouble (g : Float → Value) : Step.Spares name options
        (do return g (← Step.ofExcept argument.toDouble) : Eval Value) :=
      (ofExcept _).bind fun x => hpure _
    cases f with
    | round =>
      cases argument with
      | number x => exact hpure _
      | _ => exact throw trivial
    | _ => exact hdouble _
  | atan2 => exact (ofExcept _).bind fun x => hpure _
  | pow => exact (ofExcept _).bind fun x => hpure _
  | min => exact (bestOf _ _ _).bind fun x => hpure _
  | max => exact (bestOf _ _ _).bind fun x => hpure _
  | rnd => exact fun _ _ _ h => by cases h
  | seed =>
    have hreseed (random : Random.Twister) : Step.Spares name options (Eval.reseed random) :=
      (modifyWorld _).bind fun _ => hpure _
    unfold Command.run
    dsimp only
    split
    · exact hreseed _
    · exact hreseed _
    · exact hpure _
    · exact hpure _
    · exact throw trivial
  | print =>
    refine (ofExcept _).bind fun values => ?_
    split
    · exact (notify _).bind fun _ => hpure _
    · exact hpure _
  | assert => exact (checkAssertion _).bind fun _ => hpure _
  | translate => exact htriple.bind fun v => moveChildren _
  | rotate => exact htriple.bind fun v => moveChildren _
  | scale => exact htriple.bind fun v => moveChildren _
  | point => exact htriple.bind fun v => hpure _
  | curve => exact htriple.bind fun v => hpure _

theorem get (p : Property) : Step.Spares name options p.get := by
  refine scope_bind fun s => ?_
  cases p with
  | orientation => exact (ofExcept _).bind fun v => pure _
  | background =>
    dsimp only
    split <;> exact pure _
  | _ => exact pure _

/-- **Properties have faults only.** -/
theorem set (p : Property) (v : Value) : Step.Spares name options (p.set v) := by
  have htriple : Step.Spares name options (Step.triple v : Eval (Vec3 Float)) := ofExcept _
  have hmissing {w : Value} {act : Eval Unit} (h : Step.Spares name options act) :
      Step.Spares name options (Property.orMissing w act) := by
    unfold Property.orMissing
    split
    · exact h
    · exact throw trivial
  cases p with
  | position => exact htriple.bind fun w => modifyScope _
  | orientation => exact htriple.bind fun w => (ofExcept _).bind fun r => modifyScope _
  | size => exact htriple.bind fun w => modifyScope _
  | color | texture =>
    unfold Property.set
    dsimp only
    split
    · exact modifyScope _
    · exact hmissing (modifyScope _)
  | detail | opacity =>
    unfold Property.set
    dsimp only
    split
    · exact modifyScope _
    · exact throw trivial
  | font | name =>
    unfold Property.set
    dsimp only
    split
    · exact modifyScope _
    · exact modifyScope _
    · exact throw trivial
  | background =>
    unfold Property.set
    dsimp only
    split
    · exact modifyScope _
    · exact modifyScope _
    · exact hmissing (modifyScope _)

/-- **Standard blocks have faults only.** -/
theorem build (setting : Setting) (shape : Shape) :
    Step.Spares name options (shape.build setting) := by
  refine scope_bind fun s => ?_
  cases shape with
  | solid kind => exact pure _
  | circle => exact ofExcept _
  | square => exact ofExcept _
  | polygon => exact (ofExcept _).bind fun sides => ofExcept _
  | path => exact ofExcept _
  | built kind => exact pure _
  | combined kind => exact pure _
  | text =>
    refine bind ?_ fun paths => (ofExcept _).bind fun vs => pure _
    unfold Setting.outlines
    split
    · exact pure _
    · exact (notify _).bind fun _ => pure _

/-! ### Children -/

theorem addLeaf (v : Value) : Step.Spares name options (Scope.addLeaf v) := by
  have hadd (v : Value) : Step.Spares name options (Scope.addChild v) := modify _
  have hunused (v : Value) : Step.Spares name options
      (MonadExcept.throw (.unplaced (.unusedValue v.kind.description)) : Step Scope Unit) :=
    throw nofun
  intro s
  unfold Scope.addLeaf
  rw [Step.bind_ok _ (show (MonadState.get : Step Scope Scope) s = .ok s s from rfl)]
  split
  · exact (ofExcept _).bind (fun v => hadd v) s
  · split
    · split
      · exact hadd _ s
      · exact hunused _ s
    · exact hunused _ s

mutual

/-- **The errors of values that are added are of other kinds.** -/
theorem add : ∀ v : Value, Step.Spares name options (Scope.add v)
  | .tuple vs => by
    rw [Scope.add]
    exact addAll vs
  | .number _ | .string _ | .color _ | .texture _ | .vector _ | .size _ | .path _ | .mesh _
  | .point _ | .range _ => addLeaf _

theorem addAll : ∀ vs : List Value, Step.Spares name options (Scope.addAll vs)
  | [] => pure ()
  | v :: rest => by
    rw [Scope.addAll]
    exact (add v).bind fun _ => addAll rest

end

theorem addValue (v : Value) : Step.Spares name options (Eval.addValue v) := (add v).onScope

end Step.Spares

end Sparing

end SceneLang
