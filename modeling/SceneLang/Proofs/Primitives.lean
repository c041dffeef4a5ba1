import SceneLang.Proofs.Frame

/-!
# The primitive steps of a run

Commands, properties, standard blocks, the coercion of arguments and the adding of children run no
script.  Each is shown to be `Primitive` here: an expression or a statement in what it changes, and
with the errors that it can stop with.  Adding children is described more closely (`Scope.Gains`),
because blocks also collect children outside of the active scope.
-/

namespace SceneLang

/-! ### Reasons of functions -/

/-- A function stops only with errors of a kind. -/
def Settled {α : Type} (points : SourceRange → Prop) (blame : Blame) (r : Except Exit α) : Prop :=
  ∀ x, r = .error x → x.Proper points blame

namespace Settled

variable {α β : Type} {points : SourceRange → Prop} {blame : Blame}

theorem ok (a : α) : Settled points blame (.ok a) := fun _ h => by cases h

theorem error {x : Exit} (h : x.Proper points blame) :
    Settled points blame (.error x : Except Exit α) :=
  fun _ hx => by cases hx; exact h

theorem raise {cause : ErrorCause} {range : SourceRange}
    (hcause : (ScriptError.evaluation cause none).isImported = false) (hrange : points range) :
    Settled points blame (.error (.raise cause range) : Except Exit α) :=
  error (.raise blame hcause hrange)

theorem fault (f : Fault) : Settled points blame (.error (.fault f) : Except Exit α) :=
  error (.fault points blame f)

theorem mono {r : Except Exit α} {blame' : Blame} (h : Settled points blame r)
    (hb : blame.rank ≤ blame'.rank) : Settled points blame' r := fun x hx => (h x hx).mono hb

theorem bind {r : Except Exit α} {f : α → Except Exit β} (hr : Settled points blame r)
    (hf : ∀ a, Settled points blame (f a)) : Settled points blame (r >>= f) := by
  cases r with
  | ok a => exact hf a
  | error x => exact error (hr x rfl)

theorem map {r : Except Exit α} (f : α → β) (hr : Settled points blame r) :
    Settled points blame (r.map f) := by
  cases r with
  | ok a => exact ok (f a)
  | error x => exact error (hr x rfl)

theorem mapError_fault (r : Except Fault α) : Settled points blame (r.mapError Exit.fault) := by
  cases r with
  | ok a => exact ok a
  | error f => exact fault f

end Settled

/-! ### Children -/

namespace Scope

/-- **What a scope makes of values that are added**: it gains children of the kinds that it takes.
-/
def Gains (s s' : Scope) : Prop :=
  ∃ vs : Array Value, s' = { s with children := s.children ++ vs } ∧ ∀ v ∈ vs, v.kind ∈ s.childKinds

theorem Gains.refl (s : Scope) : s.Gains s := ⟨#[], by simp, by simp⟩

theorem Gains.trans {s₁ s₂ s₃ : Scope} (h : s₁.Gains s₂) (h' : s₂.Gains s₃) : s₁.Gains s₃ := by
  obtain ⟨vs, rfl, hk⟩ := h
  obtain ⟨vs', rfl, hk'⟩ := h'
  refine ⟨vs ++ vs', by simp, ?_⟩
  intro v hv
  rcases Array.mem_append.mp hv with hv | hv
  · exact hk v hv
  · exact hk' v hv

theorem Gains.extends {s s' : Scope} (h : s.Gains s') : s.Extends s' := by
  obtain ⟨vs, rfl, hk⟩ := h
  refine ⟨rfl, rfl, rfl, rfl, rfl, rfl, rfl, vs.toList, by simp, ?_⟩
  exact fun v hv => hk v (by simpa using hv)

theorem Gains.definitions {s s' : Scope} (h : s.Gains s') : s'.definitions = s.definitions := by
  obtain ⟨vs, rfl, -⟩ := h
  rfl

theorem kind_eq_of_map_ok {α : Type} {r : Except Fault α} {f : α → Value} {k : Kind} {v : Value}
    (hf : ∀ a, (f a).kind = k) (h : r.map f = .ok v) : v.kind = k := by
  cases r with
  | ok a => cases h; exact hf a
  | error e => cases h

/-- Moving a value does not change its kind. -/
theorem kind_placed {t : Transform Float} {v v' : Value} (h : placed t v = .ok v') :
    v'.kind = v.kind := by
  cases v with
  | mesh n => exact kind_eq_of_map_ok (f := .mesh) (fun _ => rfl) h
  | path p => exact kind_eq_of_map_ok (f := .path) (fun _ => rfl) h
  | point p => exact kind_eq_of_map_ok (f := .point) (fun _ => rfl) h
  | vector w => exact kind_eq_of_map_ok (f := .vector) (fun _ => rfl) h
  | _ => cases h; rfl

/-- The result of adding values to a scope, which stops at one that the scope does not take. -/
structure Added (s : Scope) (res : EStateM.Result Exit Scope Unit) : Prop where
  gains : s.Gains (Result.state res)
  exit : ∀ x s', res = .error x s' → ∀ points, x.Proper points .unplaced

theorem added_ok {s s' : Scope} (h : s.Gains s') : s.Added (.ok () s') :=
  ⟨h, fun _ _ h => by cases h⟩

theorem added_error {s : Scope} {x : Exit} (h : ∀ points, x.Proper points .unplaced) :
    s.Added (.error x s) :=
  ⟨Gains.refl s, fun _ _ hx => by cases hx; exact h⟩

theorem added_bind {s : Scope} {x : Step Scope Unit} {f : Unit → Step Scope Unit}
    (hx : s.Added (x s)) (hf : ∀ s' : Scope, s'.Added (f () s')) : s.Added ((x >>= f) s) := by
  cases hres : x s with
  | ok a s₁ =>
    rw [hres] at hx
    rw [Step.bind_ok f hres]
    exact ⟨hx.gains.trans (hf s₁).gains, (hf s₁).exit⟩
  | error e s₁ =>
    rw [hres] at hx
    rw [Step.bind_error f hres]
    exact ⟨hx.gains, fun y s' hy => by cases hy; exact hx.exit e s₁ rfl⟩

theorem added_addChild {s : Scope} {v : Value} (h : v.kind ∈ s.childKinds) :
    s.Added (addChild v s) :=
  added_ok ⟨#[v], by simp, by simpa using h⟩

theorem added_unused (s : Scope) (v : Value) :
    s.Added ((throw (.unplaced (.unusedValue v.kind.description)) : Step Scope Unit) s) :=
  added_error fun points => .unplaced points rfl

theorem added_addLeaf (v : Value) (s : Scope) : s.Added (addLeaf v s) := by
  unfold addLeaf
  rw [Step.bind_ok _ (show (get : Step Scope Scope) s = .ok s s from rfl)]
  by_cases hk : s.childKinds.contains v.kind
  · rw [if_pos hk]
    cases hp : placed s.childTransform v with
    | ok v' =>
      have hmem : v'.kind ∈ s.childKinds := by
        rw [kind_placed hp]
        exact List.contains_iff_mem.mp hk
      exact added_addChild hmem
    | error f => exact added_error fun points => .fault points .unplaced f
  · rw [if_neg hk]
    cases v with
    | path p =>
      -- a path becomes a mesh where meshes are taken
      by_cases hm : s.childKinds.contains .mesh
      · simp only [hm, if_true]
        exact added_addChild (List.contains_iff_mem.mp hm)
      · simp only [hm]
        exact added_unused s (.path p)
    | _ => exact added_unused s _

mutual

/-- **Adding a value** adds children that the scope takes, and nothing else changes. -/
theorem added_add (v : Value) (s : Scope) : s.Added (add v s) := by
  cases v with
  | tuple vs =>
    rw [add]
    exact added_addAll vs s
  | _ => exact added_addLeaf _ s

theorem added_addAll (vs : List Value) (s : Scope) : s.Added (addAll vs s) := by
  cases vs with
  | nil => exact added_ok (Gains.refl s)
  | cons v rest =>
    rw [addAll]
    exact added_bind (added_add v s) (fun s' => added_addAll rest s')

end

end Scope

variable {points : SourceRange → Prop}

/-- Adding to the active scope is a statement. -/
theorem primitive_onScope {act : Step Scope Unit} (h : ∀ s : Scope, s.Added (act s)) :
    Primitive points .statement .unplaced (Eval.onScope act) := by
  have hstate (st : State) : Result.state (Eval.onScope act st)
      = { st with scope := Result.state (act st.scope) } := by
    unfold Eval.onScope Step.onPart
    cases act st.scope <;> rfl
  refine ⟨fun st => ?_, fun st => ?_, fun st => ?_, fun st => ?_, fun st x st' hx => ?_⟩
  · rw [hstate]
    exact ⟨(h st.scope).gains.extends, World.Grows.refl _⟩
  · rw [hstate]
    exact (h st.scope).gains.definitions
  · rw [hstate]
  · rw [hstate]
  · unfold Eval.onScope Step.onPart at hx
    cases hres : act st.scope with
    | ok a s => rw [hres] at hx; cases hx
    | error y s =>
      rw [hres] at hx
      cases hx
      exact (h st.scope).exit x s hres points

theorem primitive_addValue (v : Value) : Primitive points .statement .unplaced (Eval.addValue v) :=
  primitive_onScope (Scope.added_add v)

/-! ### Hosts -/

theorem World.Grows.notify (w : World) (n : Notice) :
    w.Grows { w with notices := w.notices.push n } :=
  ⟨by simp, List.prefix_rfl, rfl⟩

theorem primitive_notify {effect : Effect} {blame : Blame} (n : Notice) :
    Primitive points effect blame (Eval.notify n) :=
  .modifyWorld (fun w => .notify w n) (fun _ => rfl) (fun _ => rfl)

theorem primitive_resolve (setting : Setting) (path : String) :
    Primitive points .expression .unplaced (setting.resolve path) := by
  unfold Setting.resolve
  cases setting.host with
  | none => exact .throw (.unplaced points rfl)
  | some host =>
    refine .bind (.ofExcept _) fun place => ?_
    refine .bind (.modifyWorld (fun w => ⟨List.prefix_rfl, ?_, rfl⟩) (fun _ => rfl) fun _ => rfl)
      fun _ => .pure place
    dsimp only
    split
    · exact List.prefix_rfl
    · simp

/-! ### Arguments -/

namespace Argument

/-- **An argument whose errors can only point at places of a kind**: the whole argument, the
parameters, their ends and their elements. -/
structure Within (points : SourceRange → Prop) (a : Argument) : Prop where
  whole : points a.range
  parameter : ∀ p ∈ a.parameters, points p.sourceRange
  bound : ∀ p ∈ a.parameters, points p.sourceRange.upperBound
  element : ∀ p ∈ a.parameters, ∀ i, points (elementRange p i)

variable {a : Argument}

theorem Within.settled_raiseAt {α : Type} (h : a.Within points) (i : Nat) {cause : ErrorCause}
    (hcause : (ScriptError.evaluation cause none).isImported = false) :
    Settled points .placed (a.raiseAt i cause : Except Exit α) := by
  unfold raiseAt
  split
  · rename_i p hp
    exact .raise hcause (h.parameter p (List.mem_of_getElem? hp))
  · exact .fault _

theorem Within.settled_numbersFrom (h : a.Within points) (kind : Kind) (i : Nat)
    (values : List Value) : Settled points .placed (a.numbersFrom kind i values) := by
  induction values generalizing i with
  | nil => exact .ok []
  | cons v rest ih =>
    cases v with
    | number x => exact .bind (ih (i + 1)) fun xs => .ok (x :: xs)
    | _ => exact h.settled_raiseAt _ rfl

theorem Within.settled_checkCount (h : a.Within points) (least most : Nat) :
    Settled points .placed (a.checkCount least most) := by
  unfold checkCount
  split
  · exact h.settled_raiseAt _ rfl
  · split
    · split
      · rename_i p hp
        exact .raise rfl (h.bound p (List.mem_of_getLast? hp))
      · exact .fault _
    · exact .ok ()

theorem Within.settled_opened (h : a.Within points) (most : Nat) (values : List Value) :
    Settled points .placed (a.opened most values) := by
  unfold opened
  split
  · split
    · split
      · rename_i p rest hp
        exact .raise rfl (h.element p (hp ▸ List.mem_cons_self) most)
      · exact .fault _
    · exact .ok _
  · exact .ok _

theorem Within.settled_checkSingle (h : a.Within points) (kind : Kind) (values : List Value) :
    Settled points .placed (a.checkSingle kind values) := by
  unfold checkSingle
  split
  · split
    · split
      · exact h.settled_raiseAt _ rfl
      · exact .raise rfl h.whole
    · exact .ok ()
  · exact .ok ()

theorem Within.settled_numbers (h : a.Within points) (kind : Kind) (least most : Nat)
    (values : List Value) : Settled points .placed (a.numbers kind least most values) :=
  .bind (h.settled_checkCount least most) fun _ =>
    .bind (h.settled_opened most values) fun values =>
      .bind (h.settled_checkSingle kind values) fun _ => h.settled_numbersFrom kind 0 values

theorem Within.settled_pathsFrom (h : a.Within points) (i : Nat) (values : List Value) :
    Settled points .placed (a.pathsFrom i values) := by
  induction values generalizing i with
  | nil => exact .ok []
  | cons v rest ih =>
    unfold pathsFrom
    split
    · exact .bind (ih (i + 1)) fun ps => .ok (v.elements ++ ps)
    · exact h.settled_raiseAt _ rfl

theorem Within.settled_mismatch {α : Type} (h : a.Within points) (kind : Kind)
    (values : List Value) : Settled points .placed (a.mismatch kind values : Except Exit α) := by
  unfold mismatch
  split
  · exact .fault _
  · split
    · exact h.settled_raiseAt _ rfl
    · exact h.settled_raiseAt _ rfl

theorem Within.settled_color (h : a.Within points) (values : List Value) :
    Settled points .placed (a.color values) := by
  unfold color
  split
  · exact .ok _
  · exact .bind (h.settled_numbers .color 1 4 values) fun xs => .ok _

/-- The font that a host does not have is an error without a place. -/
theorem Within.settled_font (h : a.Within points) (setting : Setting) (values : List Value) :
    Settled points .unplaced (a.font setting values) := by
  unfold font
  split
  · exact .ok _
  · refine .map _ ?_
    unfold checkFont
    dsimp only
    split
    · exact .ok _
    · split
      · exact .ok _
      · exact .error (.unplaced points rfl)
  · exact (h.settled_mismatch .font _).mono (by decide)

theorem Within.primitive_texture (h : a.Within points) (setting : Setting) (values : List Value) :
    Primitive points .expression .unplaced (a.texture setting values) := by
  unfold texture
  split
  · exact .pure _
  · exact .pure _
  · exact .bind (primitive_resolve setting _) fun url => .pure _
  · exact .ofExit ((h.settled_mismatch .texture _).mono (by decide))

theorem Within.primitive_colorOrTexture (h : a.Within points) (setting : Setting)
    (values : List Value) :
    Primitive points .expression .unplaced (a.colorOrTexture setting values) := by
  unfold colorOrTexture
  split
  · exact .throw (.fault points .unplaced _)
  · split
    · exact h.primitive_texture setting _
    · exact .ofExit ((h.settled_color _).mono (by decide))

theorem Within.primitive_read (h : a.Within points) (setting : Setting) (kind : Kind)
    (values : List Value) :
    Primitive points .expression .unplaced (a.read setting kind values) := by
  have hnumbers (k : Kind) (least most : Nat) : Primitive points .expression .unplaced
      (Step.ofExit (a.numbers k least most values) : Eval _) :=
    .ofExit ((h.settled_numbers k least most values).mono (by decide))
  have hmismatch (k : Kind) : Primitive points .expression .unplaced
      (Step.ofExit (a.mismatch k values) : Eval Value) :=
    .ofExit ((h.settled_mismatch k values).mono (by decide))
  cases kind with
  | color => exact .ofExit ((h.settled_color values).mono (by decide))
  | vector => exact .bind (hnumbers .vector 1 3) fun xs => .pure _
  | size => exact .bind (hnumbers .size 1 3) fun xs => .pure _
  | pair => exact .bind (hnumbers .pair 2 2) fun xs => .pure _
  | tuple => exact .pure _
  | texture => exact h.primitive_texture setting values
  | colorOrTexture => exact h.primitive_colorOrTexture setting values
  | font => exact .ofExit (h.settled_font setting values)
  | paths =>
    exact .bind (.ofExit ((h.settled_pathsFrom 0 values).mono (by decide))) fun ps => .pure _
  | void => exact .ofExit ((h.settled_raiseAt 0 rfl).mono (by decide))
  | _ => exact hmismatch _

/-- **The errors of an argument have a place**, in the argument. -/
theorem Within.primitive_coerce (h : a.Within points) (setting : Setting) (kind : Kind)
    (values : List Value) :
    Primitive points .expression .placed (a.coerce setting kind values) := by
  unfold coerce
  split
  · split
    · exact .pure _
    · exact .throw (.raise .placed rfl h.whole)
  · rename_i first rest hparameters
    split
    · exact .pure _
    · have hfirst : first ∈ a.parameters := hparameters ▸ List.mem_cons_self
      exact .locate (h.primitive_read setting kind values) (h.parameter first hfirst)

end Argument

/-! ### Commands -/

theorem settled_rowNumbers (command : String) (i : Nat) (row : List (Option Value)) :
    Settled points .unplaced (rowNumbers command i row) := by
  induction row generalizing i with
  | nil => exact .ok []
  | cons v rest ih =>
    cases v with
    | none => exact .fault _
    | some v =>
      cases v with
      | number x => exact .bind (ih (i + 1)) fun xs => .ok (x :: xs)
      | _ => exact .error (.unplaced points rfl)

theorem settled_bestOf (command : String) (pick : Float → Float → Float) (v : Value) :
    Settled points .unplaced (bestOf command pick v) := by
  refine .bind (.mapError_fault v.parts) fun row => ?_
  refine .bind (settled_rowNumbers command 0 row) fun xs => ?_
  cases xs with
  | nil => exact .fault _
  | cons x rest => exact .ok _

theorem settled_assertionText (row : List (Option Value)) :
    Settled points .unplaced (assertionText row) := by
  unfold assertionText
  split
  · exact .ok _
  · exact .ok _
  · exact .error (.unplaced points rfl)
  · exact .fault _

theorem settled_checkAssertion (v : Value) : Settled points .unplaced (checkAssertion v) := by
  refine .bind (.mapError_fault v.parts) fun row => ?_
  split
  · exact .error (.unplaced points rfl)
  · refine .bind (settled_assertionText _) fun message => ?_
    split
    · exact .error (.unplaced points rfl)
    · exact .ok ()
  · exact .error (.unplaced points rfl)
  · exact .fault _

theorem primitive_reseed (random : Random.Twister) :
    Primitive points .expression .unplaced (Eval.reseed random) :=
  .bind (.modifyWorld (fun _ => ⟨List.prefix_rfl, List.prefix_rfl, rfl⟩)
    (fun _ => rfl) (fun _ => rfl)) fun _ => .pure _

theorem primitive_draw : Primitive points .expression .unplaced Eval.draw :=
  ⟨fun _ => ⟨Scope.Moves.refl _, List.prefix_rfl, List.prefix_rfl, rfl⟩, fun _ => rfl, fun _ => rfl,
    fun _ => rfl, fun _ _ _ h => by cases h⟩

theorem primitive_moveChildren (f : Transform Float → Except Fault (Transform Float)) :
    Primitive points .expression .unplaced (Eval.moveChildren f) :=
  .scope_bind fun _ => .bind (.ofExcept _) fun _ =>
    .bind (.modifyScope (fun _ => rfl) fun _ => rfl) fun _ => .pure _

/-- **A command is an expression**, and its errors have no place yet. -/
theorem primitive_run (setting : Setting) (command : Command) (argument : Value) :
    Primitive points .expression .unplaced (command.run setting argument) := by
  have htriple :
      Primitive points .expression .unplaced (Step.triple argument : Eval (Vec3 Float)) :=
    .ofExcept _
  have hpure (v : Value) : Primitive points .expression .unplaced (pure v : Eval Value) :=
    .pure v
  cases command with
  | function f =>
    have hdouble (g : Float → Value) : Primitive points .expression .unplaced
        (do return g (← Step.ofExcept argument.toDouble) : Eval Value) :=
      .bind (.ofExcept _) fun x => hpure _
    cases f with
    | round =>
      cases argument with
      | number x => exact hpure _
      | _ => exact .wrongKind
    | _ => exact hdouble _
  | atan2 => exact .bind (.ofExcept _) fun x => hpure _
  | pow => exact .bind (.ofExcept _) fun x => hpure _
  | min => exact .bind (.ofExit (settled_bestOf _ _ _)) fun x => hpure _
  | max => exact .bind (.ofExit (settled_bestOf _ _ _)) fun x => hpure _
  | rnd => exact .bind primitive_draw fun x => hpure _
  | seed =>
    unfold Command.run
    dsimp only
    split
    · exact primitive_reseed _
    · exact primitive_reseed _
    · exact hpure _
    · exact hpure _
    · exact .wrongKind
  | print =>
    refine .bind (.ofExcept _) fun values => ?_
    split
    · exact .bind (primitive_notify _) fun _ => hpure _
    · exact hpure _
  | assert => exact .bind (.ofExit (settled_checkAssertion _)) fun _ => hpure _
  | translate => exact .bind htriple fun v => primitive_moveChildren _
  | rotate => exact .bind htriple fun v => primitive_moveChildren _
  | scale => exact .bind htriple fun v => primitive_moveChildren _
  | point => exact .bind htriple fun v => hpure _
  | curve => exact .bind htriple fun v => hpure _

/-! ### Properties -/

/-- Reading a property changes nothing. -/
theorem primitive_get (p : Property) : Primitive points .expression .unplaced p.get := by
  refine .scope_bind fun s => ?_
  cases p with
  | orientation =>
    exact .bind (.ofExcept _) fun v => .pure _
  | background =>
    dsimp only
    split <;> exact .pure _
  | _ => exact .pure _

/-- Writing a property is a statement: it adds no children. -/
theorem primitive_set (p : Property) (v : Value) :
    Primitive points .statement .unplaced (p.set v) := by
  have hwrite {f : Scope → Scope} (h : ∀ s : Scope, s.Extends (f s))
      (hdefinitions : ∀ s : Scope, (f s).definitions = s.definitions) :
      Primitive points .statement .unplaced (Eval.modifyScope f) :=
    .modifyScope h hdefinitions
  have hwrong : Primitive points .statement .unplaced (Step.wrongKind : Eval Unit) :=
    .wrongKind
  have htriple : Primitive points .statement .unplaced (Step.triple v : Eval (Vec3 Float)) :=
    .ofExcept _
  have hplace (f : Transform Float → Transform Float) :
      Primitive points .statement .unplaced (Property.place f) :=
    hwrite (fun _ => .of_eq rfl) fun _ => rfl
  have hpaint (f : Material Float → Material Float) :
      Primitive points .statement .unplaced (Property.paint f) :=
    hwrite (fun _ => .of_eq rfl) fun _ => rfl
  have hmissing {w : Value} {act : Eval Unit} (h : Primitive points .statement .unplaced act) :
      Primitive points .statement .unplaced (Property.orMissing w act) := by
    unfold Property.orMissing
    split
    · exact h
    · exact .throw (.fault points .unplaced _)
  cases p with
  | position => exact .bind htriple fun w => hplace _
  | orientation =>
    exact .bind htriple fun w => .bind (.ofExcept _) fun r => hplace _
  | size => exact .bind htriple fun w => hplace _
  | color | texture =>
    unfold Property.set
    dsimp only
    split
    · exact hpaint _
    · exact hmissing (hpaint _)
  | detail | opacity =>
    unfold Property.set
    dsimp only
    split
    · exact hwrite (fun _ => .of_eq rfl) fun _ => rfl
    · exact hwrong
  | font | name =>
    unfold Property.set
    dsimp only
    split
    · exact hwrite (fun _ => .of_eq rfl) fun _ => rfl
    · exact hwrite (fun _ => .of_eq rfl) fun _ => rfl
    · exact hwrong
  | background =>
    unfold Property.set
    dsimp only
    split
    · exact hwrite (fun _ => .of_eq rfl) fun _ => rfl
    · exact hwrite (fun _ => .of_eq rfl) fun _ => rfl
    · exact hmissing (hwrite (fun _ => .of_eq rfl) fun _ => rfl)

/-! ### Standard blocks -/

/-- A standard block changes nothing; only a text is heard of by the host. -/
theorem primitive_build (setting : Setting) (shape : Shape) :
    Primitive points .expression .unplaced (shape.build setting) := by
  have hplaced {α : Type} (r : Except Fault α) :
      Primitive points .expression .unplaced (Step.ofExcept r : Eval α) :=
    .ofExcept r
  have hpure (v : Value) : Primitive points .expression .unplaced (pure v : Eval Value) :=
    .pure v
  refine .scope_bind fun s => ?_
  cases shape with
  | solid kind => exact hpure _
  | circle => exact hplaced _
  | square => exact hplaced _
  | polygon => exact .bind (hplaced _) fun sides => hplaced _
  | path => exact hplaced _
  | built kind => exact hpure _
  | combined kind => exact hpure _
  | text =>
    refine .bind ?_ fun paths => .bind (hplaced _) fun vs => hpure _
    unfold Setting.outlines
    split
    · exact .pure _
    · exact .bind (primitive_notify _) fun _ => .pure _

end SceneLang
