import SceneLang.Proofs.Arguments

/-!
# Single steps of two runs

The steps that a run takes without looking at other scopes do the same in two runs that differ in
places only: adding children, starting a turn, running a command on an argument that it takes,
reading and writing properties, and building the value of a block.  If there is no host they stop
for usual reasons only.

One step is not sure of that.  The number of sides of a polygon is an option, but it is read from
whatever the body of the polygon has defined under that name, so the value must be a number
(`Scope.CountsSides`).
-/

namespace SceneLang

variable {alone : Prop}

/-! ### Adding children -/

/-- **Scopes that are the same without places.** -/
structure Scope.Akin (alone : Prop) (s s' : Scope) : Prop where
  bare : s'.bare = s.bare
  square : alone → s.IsSquare

theorem Node.transformed_bare (t : Transform Float) (n : Node) :
    n.bare.transformed t = (n.transformed t).map Node.bare := by
  obtain ⟨kind, name, transform, material, children, paths, location⟩ := n
  simp only [Node.bare, Node.transformed]
  cases transform.followedBy t <;> rfl

namespace Scope

variable {s s' : Scope} {v v' : Value} {vs vs' : List Value}

/-- A value that is moved, without places. -/
theorem placed_bare (t : Transform Float) (v : Value) :
    placed t v.bare = (placed t v).map Value.bare := by
  have hflat {α : Type} (r : Except Fault α) (f : α → Value) (hf : ∀ a, (f a).bare = f a) :
      r.map f = (r.map f).map Value.bare := by
    cases r with
    | ok a => exact congrArg Except.ok (hf a).symm
    | error x => rfl
  cases v with
  | mesh n =>
    show (n.bare.transformed t).map Value.mesh = ((n.transformed t).map Value.mesh).map Value.bare
    rw [Node.transformed_bare]
    cases n.transformed t <;> rfl
  | path p => exact hflat (p.transformed t) .path fun _ => rfl
  | point p => exact hflat (p.transformed t) .point fun _ => rfl
  | vector v => exact hflat (t.apply v) .vector fun _ => rfl
  | tuple vs =>
    rw [Value.bare_tuple]
    show Except.ok _ = Except.ok _
    rw [Value.bare_tuple]
  | _ => rfl

theorem bare_addChild (s : Scope) (v : Value) :
    { s with children := s.children.push v }.bare
      = { s.bare with children := s.bare.children.push v.bare } := by
  simp only [Scope.bare, Array.map_push]

namespace Akin

/-- What does not depend on places is the same. -/
theorem read {β : Type} (h : s.Akin alone s') (f : Scope → β) (hf : ∀ s : Scope, f s.bare = f s) :
    f s' = f s := by
  rw [← hf s', h.bare, hf]

theorem addChild (h : s.Akin alone s') (hv : v.Akin alone v') :
    Refines alone (Scope.Akin alone) Eq (Scope.addChild v s) (Scope.addChild v' s') := by
  refine .ok rfl ⟨?_, fun halone => ?_⟩
  · rw [bare_addChild, bare_addChild, h.bare, hv.bare]
  · refine { h.square halone with children := fun w hw => ?_ }
    rcases Array.mem_push.mp hw with hw | rfl
    · exact (h.square halone).children w hw
    · exact hv.square halone

theorem addLeaf (h : s.Akin alone s') (hv : v.Akin alone v') :
    Refines alone (Scope.Akin alone) Eq (Scope.addLeaf v s) (Scope.addLeaf v' s') := by
  have hkinds := h.read Scope.childKinds fun _ => rfl
  have htransform := h.read Scope.childTransform fun _ => rfl
  have hname := h.read Scope.name fun _ => rfl
  have hget (s : Scope) : (get : Step Scope Scope) s = .ok s s := rfl
  unfold Scope.addLeaf
  rw [Step.bind_ok _ (hget s), Step.bind_ok _ (hget s'), hkinds, htransform, hv.kind]
  split
  · have hplaced : Gives (fun f => alone → f.IsSlip) (Value.Akin alone)
        (placed s.childTransform v) (placed s.childTransform v') := by
      have hsure (halone : alone) :=
        sure_placed (h.square halone).childTransform (hv.square halone)
      refine Value.gives_of_bare ?_ (fun halone w hw => (hsure halone).of_ok hw)
        (fun f hf halone => (hsure halone).of_error hf)
      rw [← placed_bare, ← placed_bare, hv.bare]
    exact (Refines.ofExcept hplaced h).bind fun w w' _ _ hw hs => hs.addChild hw
  · cases v with
    | path p =>
      obtain rfl := hv.eq rfl
      dsimp only
      split
      · refine h.addChild ⟨?_, fun halone => ?_⟩
        · simp only [Value.bare_mesh, Node.bare, promoted, hname, htransform]
        · exact Value.isSquare_mesh.mpr (h.square halone).childTransform
      · exact .raise _ _
    | mesh n =>
      obtain ⟨n', rfl, -⟩ := Value.exists_of_bare_mesh hv.bare
      exact .raise _ _
    | tuple vs =>
      obtain ⟨vs', rfl, -⟩ := hv.exists_tuple
      exact .raise _ _
    | _ =>
      obtain rfl := hv.eq rfl
      exact .raise _ _

mutual

/-- **Adding a value.** -/
theorem add : ∀ {v v' : Value} {s s' : Scope}, s.Akin alone s' → v.Akin alone v' →
    Refines alone (Scope.Akin alone) Eq (Scope.add v s) (Scope.add v' s')
  | .tuple vs, v', s, s', h, hv => by
    obtain ⟨vs', rfl, hvs⟩ := hv.exists_tuple
    rw [Scope.add, Scope.add]
    exact h.addAll hvs
  | .mesh n, v', s, s', h, hv => by
    obtain ⟨n', rfl, -⟩ := Value.exists_of_bare_mesh hv.bare
    exact h.addLeaf hv
  | .number _, v', s, s', h, hv | .string _, v', s, s', h, hv | .color _, v', s, s', h, hv
  | .texture _, v', s, s', h, hv | .vector _, v', s, s', h, hv | .size _, v', s, s', h, hv
  | .path _, v', s, s', h, hv | .point _, v', s, s', h, hv | .range _, v', s, s', h, hv => by
    obtain rfl := hv.eq rfl
    exact h.addLeaf hv

/-- Adding the values of a list. -/
theorem addAll : ∀ {vs vs' : List Value} {s s' : Scope}, s.Akin alone s' →
    Value.AllAkin alone vs vs' →
    Refines alone (Scope.Akin alone) Eq (Scope.addAll vs s) (Scope.addAll vs' s')
  | [], vs', s, s', h, hvs => by
    obtain rfl := hvs.eq_nil
    exact .pure rfl h
  | v :: rest, vs', s, s', h, hvs => by
    obtain ⟨v', rest', rfl, hv, hrest⟩ := hvs.exists_cons
    rw [Scope.addAll, Scope.addAll]
    exact (h.add hv).bind_eq fun _ _ _ hs => hs.addAll hrest

end

/-- **The children of a block that is called with them.** -/
theorem gather (h : s.Akin alone s') (hvs : Value.AllAkin alone vs vs') (name : String)
    (place : SourceRange) :
    Gives (fun x => alone → x.IsUsual) (fun t t' => t.Akin alone t' ∧ s.Gains t)
      (Runner.gather name place vs s) (Runner.gather name place vs' s') := by
  induction vs generalizing vs' s s' with
  | nil =>
    obtain rfl := hvs.eq_nil
    exact .ok ⟨h, Gains.refl s⟩
  | cons v rest ih =>
    obtain ⟨v', rest', rfl, hv, hrest⟩ := hvs.exists_cons
    have hadd := h.add hv
    have hgains := (added_add v s).gains
    rw [Runner.gather, Runner.gather]
    generalize Scope.add v s = res at hadd hgains
    generalize Scope.add v' s' = res' at hadd
    cases hadd with
    | ok _ hs => exact (ih hs hrest).mono fun _ _ ht => ⟨ht.1, hgains.trans ht.2⟩
    | @error x hx t =>
      cases x with
      | error e => exact .error (fun _ => trivial) _
      | fault f => exact .error hx _
      | cancelled => exact .error hx _
      | exhausted => exact .error hx _

end Akin

end Scope

namespace Akin

variable {outer outer' : List Scope} {st st' : State} {setting : Setting}

/-- A step on the active scope that adds children. -/
theorem onScope (hM : Akin alone outer outer' st st') {act act' : Step Scope Unit}
    (hact : ∀ s s' : Scope, s.Akin alone s' →
      Refines alone (Scope.Akin alone) Eq (act s) (act' s'))
    (hadded : ∀ s : Scope, s.Added (act s)) :
    Refines alone (Akin alone outer outer') Eq (Eval.onScope act st) (Eval.onScope act' st') := by
  have hscope := hact st.scope st'.scope ⟨hM.scope, fun halone => (hM.orderly halone).top⟩
  have hgains := (hadded st.scope).gains
  unfold Eval.onScope Step.onPart
  generalize act st.scope = res at hscope hgains
  generalize act' st'.scope = res' at hscope
  cases hscope with
  | @ok a b s s' hab hs =>
    refine .ok hab (hM.keep hs.bare fun halone => ?_)
    have hsquare := hs.square halone
    exact (hM.orderly halone).keep hgains.definitions hgains.extends.callerDefinitions
      hsquare.transform hsquare.childTransform hsquare.children
  | error hx s => exact .error hx _ _

theorem addValue (hM : Akin alone outer outer' st st') {v v' : Value} (hv : v.Akin alone v') :
    Refines alone (Akin alone outer outer') Eq (Eval.addValue v st) (Eval.addValue v' st') :=
  hM.onScope (fun _ _ h => h.add hv) (Scope.added_add v)

theorem addAll (hM : Akin alone outer outer' st st') {vs vs' : List Value}
    (hvs : Value.AllAkin alone vs vs') :
    Refines alone (Akin alone outer outer') Eq (Eval.onScope (Scope.addAll vs) st)
      (Eval.onScope (Scope.addAll vs') st') :=
  hM.onScope (fun _ _ h => h.addAll hvs) (Scope.added_addAll vs)

/-! ### The world -/

/-- What a host hears. -/
theorem notify (hM : Akin alone outer outer' st st') {n n' : Notice} (hn : n'.bare = n.bare) :
    Refines alone (Akin alone outer outer') Eq (Eval.notify n st) (Eval.notify n' st') := by
  refine hM.modifyWorld ?_ hM.importing
  have hbare (w : World) (n : Notice) : { w with notices := w.notices.push n }.bare
      = { w.bare with notices := w.bare.notices.push n.bare } := by
    simp only [World.bare, Array.map_push]
  rw [hbare, hbare, hM.world, hn]

/-- **A turn of a loop starts**, if the host lets it. -/
theorem startTurn (hM : Akin alone outer outer' st st') :
    Refines alone (Akin alone outer outer') Eq (Runner.startTurn setting st)
      (Runner.startTurn setting st') := by
  have hpolls := hM.readWorld World.polls fun _ => rfl
  rw [Runner.startTurn_apply, Runner.startTurn_apply, hpolls]
  split
  · exact .error (x := .cancelled) (fun _ => trivial) _ _
  · refine .ok rfl ⟨hM.scope, hM.below, ?_, hM.importing, hM.orderly⟩
    have hturns := congrArg (fun w : World =>
      { w with polls := st.world.polls + 1, turns := w.turns + 1 }) hM.world
    exact hturns

theorem draw (hM : Akin alone outer outer' st st') :
    Refines alone (Akin alone outer outer') Eq (Eval.draw st) (Eval.draw st') := by
  have hrandom := hM.readWorld World.random fun _ => rfl
  have hdraw (st : State) : Eval.draw st = .ok st.world.random.draw.1
      { st with world := { st.world with random := st.world.random.draw.2 } } := rfl
  rw [hdraw, hdraw, hrandom]
  refine .ok rfl ⟨hM.scope, hM.below, ?_, hM.importing, hM.orderly⟩
  exact congrArg (fun w : World => { w with random := st.world.random.draw.2 }) hM.world

theorem reseed (hM : Akin alone outer outer' st st') (random : Random.Twister) :
    Refines alone (Akin alone outer outer') (Value.Akin alone) (Eval.reseed random st)
      (Eval.reseed random st') := by
  refine .ok Value.AllAkin.nil.tuple ⟨hM.scope, hM.below, ?_, hM.importing, hM.orderly⟩
  exact congrArg (fun w : World => { w with random }) hM.world

/-! ### Commands -/

/-- A change of where children are put. -/
theorem moveChildren (hM : Akin alone outer outer' st st')
    {f : Transform Float → Except Fault (Transform Float)}
    (hf : ∀ t, t.rotation.IsSquare → Sure (fun u => u.rotation.IsSquare) (f t)) :
    Refines alone (Akin alone outer outer') (Value.Akin alone) (Eval.moveChildren f st)
      (Eval.moveChildren f st') := by
  have hsure (halone : alone) := hf _ (hM.orderly halone).top.childTransform
  simp only [Eval.moveChildren, Eval.scope_bind]
  rw [hM.read Scope.childTransform fun _ => rfl]
  refine (Refines.ofExcept_same hsure hM).bind ?_
  rintro _ t _ _ ⟨rfl, ht⟩ hM₁
  refine .ok Value.AllAkin.nil.tuple (hM₁.keep ?_ fun halone => ?_)
  · exact congrArg (fun s : Scope => { s with childTransform := t }) hM₁.scope
  · have htop := (hM₁.orderly halone).top
    exact (hM₁.orderly halone).keep rfl rfl htop.transform (ht halone) htop.children

end Akin

/-- What writing a property leaves of a scope. -/
def Scope.Restyles (s s' : Scope) : Prop :=
  s' = { s with
    name := s'.name
    transform := s'.transform
    material := s'.material
    opacity := s'.opacity
    detail := s'.detail
    font := s'.font
    background := s'.background }

theorem rowNumbers_bare (command : String) (i : Nat) (vs : List Value) :
    rowNumbers command i ((vs.map Value.bare).map some) = rowNumbers command i (vs.map some) := by
  induction vs generalizing i with
  | nil => rfl
  | cons v rest ih =>
    cases v with
    | number x =>
      show (do let xs ← rowNumbers command (i + 1) ((rest.map Value.bare).map some)
               pure (x :: xs)) = _
      rw [ih]
      rfl
    | _ => rfl

theorem usual_rowNumbers (command : String) (i : Nat) (vs : List Value) :
    Usual (fun _ => True) (rowNumbers command i (vs.map some)) := by
  induction vs generalizing i with
  | nil => trivial
  | cons v rest ih =>
    cases v with
    | number x => exact (ih (i + 1)).bind fun _ _ => trivial
    | _ => trivial

/-- **The best of the numbers of a tuple**, without places. -/
theorem bestOf_bare (command : String) (pick : Float → Float → Float) (vs : List Value) :
    bestOf command pick (.tuple (vs.map Value.bare)) = bestOf command pick (.tuple vs) := by
  show (rowNumbers command 0 ((vs.map Value.bare).map some) >>= fun xs => _)
    = (rowNumbers command 0 (vs.map some) >>= fun xs => _)
  rw [rowNumbers_bare]

theorem usual_bestOf {command : String} (hcommand : command = "min" ∨ command = "max")
    (pick : Float → Float → Float) (vs : List Value) :
    Usual (fun _ => True) (bestOf command pick (.tuple vs)) := by
  refine (usual_rowNumbers command 0 vs).bind fun xs _ => ?_
  cases xs with
  | nil => exact hcommand
  | cons x rest => trivial

/-- An assertion, without places. -/
theorem checkAssertion_bare (vs : List Value) :
    checkAssertion (.tuple (vs.map Value.bare)) = checkAssertion (.tuple vs) := by
  have htext (vs : List Value) :
      assertionText ((vs.map Value.bare).map some) = assertionText (vs.map some) := by
    cases vs with
    | nil => rfl
    | cons v rest => cases v <;> rfl
  cases vs with
  | nil => rfl
  | cons v rest =>
    cases v with
    | number x =>
      show (do let message ← assertionText ((rest.map Value.bare).map some)
               if x == 0 then throw (.unplaced (.assertionFailure message)) : Except Exit Unit) = _
      rw [htext]
      rfl
    | _ => rfl

theorem usual_checkAssertion (vs : List Value) :
    Usual (fun _ => True) (checkAssertion (.tuple vs)) := by
  have htext (vs : List Value) : Usual (fun _ => True) (assertionText (vs.map some)) := by
    cases vs with
    | nil => trivial
    | cons v rest => cases v <;> trivial
  cases vs with
  | nil => trivial
  | cons v rest =>
    cases v with
    | number x =>
      refine (htext rest).bind fun message _ => ?_
      split
      · trivial
      · trivial
    | _ => trivial

/-- A pair has two numbers, or it is refused for having fewer. -/
theorem sure_pairOf {xs : List Float} (h : xs.length ≤ 2) :
    Sure (fun v => ∃ x y, v = (.number x, .number y)) (pairOf (.tuple (xs.map .number))) := by
  match xs with
  | [] => exact Nat.zero_lt_two
  | [x] => exact Nat.one_lt_two
  | [x, y] => exact ⟨x, y, rfl⟩
  | _ :: _ :: _ :: _ => simp at h

theorem wholeParts_tuple (vs : List Value) : (Value.tuple vs).wholeParts = .ok vs := by
  have hwhole : (vs.map some).mapM id = some vs := by
    induction vs with
    | nil => rfl
    | cons v rest ih => simp [ih]
  have hparts : (Value.tuple vs).parts = .ok (vs.map some) := rfl
  simp only [Value.wholeParts, hparts, bind, Except.bind, hwhole]
  rfl

namespace Akin

variable {outer outer' : List Scope} {st st' : State} {setting : Setting}

/-- **A command on a row of values.** -/
theorem runRow (hM : Akin alone outer outer' st st') {c : Command}
    (hc : c.parameter ∈ [.tuple, .void]) {vs vs' : List Value} (hvs : Value.AllAkin alone vs vs') :
    Refines alone (Akin alone outer outer') (Value.Akin alone) (c.run setting (.tuple vs) st)
      (c.run setting (.tuple vs') st') := by
  have hbest (command : String) (hcommand : command = "min" ∨ command = "max")
      (pick : Float → Float → Float) :
      Refines alone (Akin alone outer outer') (Value.Akin alone)
        ((Step.ofExit (bestOf command pick (.tuple vs)) >>= fun x =>
          pure (.number x) : Eval Value) st)
        ((Step.ofExit (bestOf command pick (.tuple vs')) >>= fun x =>
          pure (.number x) : Eval Value) st') := by
    rw [← bestOf_bare command pick vs', hvs.bare, bestOf_bare]
    refine (Refines.ofExit_same (usual_bestOf hcommand pick vs) hM).bind ?_
    rintro _ x _ _ ⟨rfl, -⟩ hM₁
    exact .pure (.flat _ rfl) hM₁
  cases c with
  | min => exact hbest "min" (.inl rfl) _
  | max => exact hbest "max" (.inr rfl) _
  | rnd => exact hM.draw.bind_eq fun x _ _ hM₁ => .pure (.flat _ rfl) hM₁
  | print =>
    simp only [Command.run, wholeParts_tuple]
    refine (Refines.ofExcept (.ok hvs) hM).bind fun ws ws' _ _ hws hM₁ => ?_
    cases setting.host.isSome with
    | false => exact .pure Value.AllAkin.nil.tuple hM₁
    | true =>
      have hprinted : (Notice.printed ws').bare = (Notice.printed ws).bare :=
        congrArg Notice.printed hws.bare
      refine (hM₁.notify hprinted).bind_eq fun _ _ _ hM₂ => ?_
      exact .pure Value.AllAkin.nil.tuple hM₂
  | assert =>
    simp only [Command.run]
    rw [← checkAssertion_bare vs', hvs.bare, checkAssertion_bare]
    refine (Refines.ofExit_same (usual_checkAssertion vs) hM).bind ?_
    exact fun _ _ _ _ _ hM₁ => .pure Value.AllAkin.nil.tuple hM₁
  | _ => simp [Command.parameter] at hc

/-- **A command on an argument that has no places.** -/
theorem runFlat (hM : Akin alone outer outer' st st') {c : Command}
    (hc : c.parameter ∉ [.tuple, .void]) {v : Value} (harg : v.IsArgument c.parameter) :
    Refines alone (Akin alone outer outer') (Value.Akin alone) (c.run setting v st)
      (c.run setting v st') := by
  have hpair {f : Value × Value → Except Fault Float}
      (hf : ∀ x y, Sure (fun _ => True) (f (.number x, .number y))) (hv : v.IsArgument .pair) :
      Refines alone (Akin alone outer outer') (Value.Akin alone)
        ((Step.ofExcept (pairOf v >>= f) >>= fun x => pure (.number x) : Eval Value) st)
        ((Step.ofExcept (pairOf v >>= f) >>= fun x => pure (.number x) : Eval Value) st') := by
    obtain ⟨xs, rfl, hxs⟩ := hv
    have hsure (_ : alone) : Sure (fun _ => True) (pairOf (.tuple (xs.map .number)) >>= f) := by
      refine (sure_pairOf hxs).bind ?_
      rintro _ ⟨x, y, rfl⟩
      exact hf x y
    refine (Refines.ofExcept_same hsure hM).bind ?_
    rintro _ x _ _ ⟨rfl, -⟩ hM₁
    exact .pure (.flat _ rfl) hM₁
  cases c with
  | function f =>
    cases v with
    | number x => cases f <;> exact .pure (.flat _ rfl) hM
    | _ => cases harg
  | atan2 => exact hpair (fun _ _ => trivial) harg
  | pow => exact hpair (fun _ _ => trivial) harg
  | seed =>
    cases v with
    | number x => exact hM.reseed _
    | _ => cases harg
  | translate =>
    cases v with
    | vector w => exact hM.moveChildren fun t ht => Transform.sure_translated ht w
    | _ => cases harg
  | rotate =>
    cases v with
    | vector w =>
      refine hM.moveChildren (f := fun t => Rotation.ofHalfTurns w.toList >>= t.rotated) ?_
      intro t ht
      exact (Rotation.sure_ofHalfTurns w).bind fun r hr => Transform.sure_rotated ht hr
    | _ => cases harg
  | scale =>
    cases v with
    | size w => exact hM.moveChildren (f := fun t => .ok (t.scaled w)) fun t ht => ht
    | _ => cases harg
  | point | curve =>
    cases v with
    | vector w => exact .pure (.flat _ rfl) hM
    | _ => cases harg
  | _ => simp [Command.parameter] at hc

/-- **A command on an argument that it takes.** -/
theorem run (hM : Akin alone outer outer' st st') (c : Command) {v v' : Value}
    (hv : v.Akin alone v') (harg : v.IsArgument c.parameter) :
    Refines alone (Akin alone outer outer') (Value.Akin alone) (c.run setting v st)
      (c.run setting v' st') := by
  cases c with
  | min | max | rnd | print | assert =>
    obtain ⟨vs, rfl⟩ := Value.exists_tuple_of_kind harg
    obtain ⟨vs', rfl, hvs⟩ := hv.exists_tuple
    exact hM.runRow (by simp [Command.parameter]) hvs
  | _ =>
    obtain rfl := harg.eq_of_bare hv.bare (by simp [Command.parameter])
    exact hM.runFlat (by simp [Command.parameter]) harg

/-! ### Properties -/

/-- **The value of a property.** -/
theorem get (hM : Akin alone outer outer' st st') (p : Property) :
    Refines alone (Akin alone outer outer') (Value.Akin alone) (p.get st) (p.get st') := by
  have hread (f : Scope → Value)
      (hf : ∀ s : Scope, f s.bare = f s ∧ (f s).kind.isFlat = true) :
      Refines alone (Akin alone outer outer') (Value.Akin alone)
        ((pure (f st.scope) : Eval Value) st) ((pure (f st'.scope) : Eval Value) st') := by
    rw [hM.read f fun s => (hf s).1]
    exact .pure (.flat _ (hf _).2) hM
  cases p with
  | detail => exact hread (fun s => .number (Decimal.ofInt s.detail)) fun _ => ⟨rfl, rfl⟩
  | font => exact hread (fun s => .string s.font) fun _ => ⟨rfl, rfl⟩
  | position => exact hread (fun s => .vector s.transform.offset) fun _ => ⟨rfl, rfl⟩
  | orientation =>
    have hsure (halone : alone) := Rotation.sure_halfTurns (hM.orderly halone).top.transform
    simp only [Property.get, Eval.scope_bind]
    rw [hM.read Scope.transform fun _ => rfl]
    refine (Refines.ofExcept_same hsure hM).bind ?_
    rintro _ w _ _ ⟨rfl, -⟩ hM₁
    exact .pure (.flat _ rfl) hM₁
  | size => exact hread (fun s => .size s.transform.scale) fun _ => ⟨rfl, rfl⟩
  | color =>
    exact hread (fun s => .color (s.material.color.getD .white)) fun _ => ⟨rfl, rfl⟩
  | texture => exact hread (fun s => .texture s.material.texture) fun _ => ⟨rfl, rfl⟩
  | opacity => exact hread (fun s => .number s.opacity) fun _ => ⟨rfl, rfl⟩
  | name => exact hread (fun s => .string s.name) fun _ => ⟨rfl, rfl⟩
  | background =>
    simp only [Property.get, Eval.scope_bind]
    rw [hM.read Scope.background fun _ => rfl]
    cases st.scope.background with
    | none => exact .pure (.flat _ rfl) hM
    | some b =>
      cases b with
      | color c => exact .pure (.flat _ rfl) hM
      | texture t => exact .pure (.flat _ rfl) hM

/-- A change of the node that is being built, and of nothing else. -/
theorem restyle (hM : Akin alone outer outer' st st') {f : Scope → Scope}
    (hf : ∀ s : Scope, (f s).bare = f s.bare) (hstyle : ∀ s : Scope, s.Restyles (f s))
    (hsquare : st.scope.IsSquare → (f st.scope).transform.rotation.IsSquare) :
    Refines alone (Akin alone outer outer') Eq (Eval.modifyScope f st)
      (Eval.modifyScope f st') := by
  refine hM.modifyScope hf fun ho => ?_
  rw [hstyle st.scope]
  exact ho.keep rfl rfl (hsquare ho.top) ho.top.childTransform ho.top.children

/-- **Writing a property** whose value is an argument that it takes. -/
theorem set (hM : Akin alone outer outer' st st') (p : Property) {v v' : Value}
    (hv : v.Akin alone v') (harg : v.IsArgument p.kind) :
    Refines alone (Akin alone outer outer') Eq (p.set v st) (p.set v' st') := by
  have hstyle {f : Scope → Scope} (hf : ∀ s : Scope, (f s).bare = f s.bare ∧ s.Restyles (f s) ∧
      (f s).transform.rotation = s.transform.rotation) :
      Refines alone (Akin alone outer outer') Eq (Eval.modifyScope f st)
        (Eval.modifyScope f st') :=
    hM.restyle (fun s => (hf s).1) (fun s => (hf s).2.1) fun h => (hf st.scope).2.2 ▸ h.transform
  have heq : v' = v := harg.eq_of_bare hv.bare (by cases p <;> simp [Property.kind])
  subst heq
  cases p with
  | detail | opacity =>
    cases v' with
    | number x =>
      simp only [Property.set]
      exact hstyle fun _ => ⟨rfl, rfl, rfl⟩
    | _ => cases harg
  | font | name =>
    cases v' with
    | string text =>
      simp only [Property.set]
      exact hstyle fun _ => ⟨rfl, rfl, rfl⟩
    | _ => cases harg
  | position =>
    cases v' with
    | vector w =>
      simp only [Property.set, Step.triple, Value.triple, Step.ofExcept, pure_bind, Property.place]
      exact hstyle fun _ => ⟨rfl, rfl, rfl⟩
    | _ => cases harg
  | size =>
    cases v' with
    | size w =>
      simp only [Property.set, Step.triple, Value.triple, Step.ofExcept, pure_bind, Property.place]
      exact hstyle fun _ => ⟨rfl, rfl, rfl⟩
    | _ => cases harg
  | orientation =>
    cases v' with
    | vector w =>
      have hsure (_ : alone) := Rotation.sure_ofHalfTurns w
      refine (Refines.ofExcept_same hsure hM).bind ?_
      rintro _ m st₁ st₁' ⟨rfl, hm⟩ hM₁
      refine .ok rfl (hM₁.keep ?_ fun halone => ?_)
      · exact congrArg (fun s : Scope => { s with transform := { s.transform with rotation := m } })
          hM₁.scope
      · have htop := (hM₁.orderly halone).top
        exact (hM₁.orderly halone).keep rfl rfl (hm halone) htop.childTransform htop.children
    | _ => cases harg
  | color =>
    cases v' with
    | color c =>
      simp only [Property.set, Property.paint]
      exact hstyle fun _ => ⟨rfl, rfl, rfl⟩
    | _ => cases harg
  | texture =>
    cases v' with
    | texture t =>
      simp only [Property.set, Property.paint]
      exact hstyle fun _ => ⟨rfl, rfl, rfl⟩
    | _ => cases harg
  | background =>
    cases v' with
    | color c =>
      simp only [Property.set]
      exact hstyle fun _ => ⟨rfl, rfl, rfl⟩
    | texture t =>
      simp only [Property.set]
      exact hstyle fun _ => ⟨rfl, rfl, rfl⟩
    | _ => rcases harg with harg | harg <;> cases harg

end Akin

/-! ### Blocks -/

namespace Scope

/-- **The number of sides of a polygon is a number**, if it is given. -/
def CountsSides (s : Scope) : Prop := ∀ v, s.option? "sides" = some v → v.kind = .number

theorem option?_bare (s : Scope) (name : String) :
    s.bare.option? name = (s.option? name).map Value.bare := by
  have hdefinitions : s.bare.definitions = s.definitions.bare := rfl
  rw [option?, option?, hdefinitions, Bindings.get?_bare]
  cases s.definitions.get? name with
  | none => rfl
  | some symbol => cases symbol <;> rfl

theorem sides_bare (s : Scope) : s.bare.sides = s.sides := by
  unfold sides
  rw [option?_bare]
  cases s.option? "sides" with
  | none => rfl
  | some v => cases v <;> rfl

theorem CountsSides.sure_sides {s : Scope} (h : s.CountsSides) :
    Sure (fun _ => True) s.sides := by
  unfold sides
  split
  · trivial
  · trivial
  · next v hnumber hv =>
    have hkind := h v hv
    cases v with
    | number x => exact absurd rfl (hnumber x)
    | _ => cases hkind

/-- What is picked from the children, without places. -/
theorem filterMap_bare {α : Type} {f : Value → Option α} {g : α → α}
    (hf : ∀ v : Value, f v.bare = (f v).map g) (s : Scope) :
    s.bare.children.toList.filterMap f = (s.children.toList.filterMap f).map g := by
  have hchildren : s.bare.children.toList = s.children.toList.map Value.bare := by
    simp [bare]
  rw [hchildren, List.filterMap_map, List.map_filterMap]
  exact congrArg (fun h => s.children.toList.filterMap h) (funext hf)

theorem childNodes_bare (s : Scope) : s.bare.childNodes = s.childNodes.map Node.bare :=
  filterMap_bare (fun v => by cases v <;> rfl) s

theorem childPaths_bare (s : Scope) : s.bare.childPaths = s.childPaths := by
  have h := filterMap_bare (f := Value.path?) (g := id) (fun v => by cases v <;> rfl) s
  rwa [List.map_id] at h

theorem childPoints_bare (s : Scope) : s.bare.childPoints = s.childPoints :=
  (filterMap_bare (g := id) (fun v => by cases v <;> rfl) s).trans (List.map_id _)

theorem childLines_bare (s : Scope) : s.bare.childLines = s.childLines :=
  (filterMap_bare (g := id) (fun v => by cases v <;> rfl) s).trans (List.map_id _)

/-- The node that a scope describes, without places. -/
theorem node_bare (s : Scope) (kind : NodeKind) (children : List Node) (paths : List Path) :
    (s.bare.node kind (children.map Node.bare) paths).bare = (s.node kind children paths).bare := by
  have hbare (ns : List Node) : (ns.map Node.bare).map Node.bare = ns.map Node.bare := by
    rw [List.map_map]
    exact List.map_congr_left fun n _ => Node.bare_bare n
  simp only [Node.bare_eq, node, hbare]
  rfl

theorem placedPaths_bare (s : Scope) (ps : List Path) :
    s.bare.placedPaths ps = s.placedPaths ps := by
  induction ps with
  | nil => rfl
  | cons p rest ih =>
    rw [placedPaths, placedPaths, ih]
    rfl

theorem resultNodes_bare (s : Scope) :
    (Runner.resultNodes s.bare).map Node.bare = (Runner.resultNodes s).map Node.bare := by
  have hchildren : s.bare.children.toList = s.children.toList.map Value.bare := by
    simp [bare]
  unfold Runner.resultNodes
  rw [hchildren, List.filterMap_map, List.map_filterMap, List.map_filterMap]
  refine congrArg (fun h => s.children.toList.filterMap h) (funext fun v => ?_)
  cases v with
  | mesh n => exact congrArg some (Node.bare_bare n)
  | _ => rfl

/-- **The value of a defined block**, without places. -/
theorem resultOf_bare (s : Scope) :
    (Runner.resultOf s.bare).map Value.bare = (Runner.resultOf s).map Value.bare := by
  have hchildren : s.bare.children.toList = s.children.toList.map Value.bare := by
    simp [bare]
  -- the value of a block that is not a single node or path
  have hseveral (vs : List Value) :
      (if s.name.isNone ∧ vs.map Value.bare ≠ [] ∧ (vs.map Value.bare).all (·.kind = .path) then
        (s.bare.placedPaths s.bare.childPaths).map .tuple
      else .ok (.mesh {
        kind := .group
        name := .ofText? s.name
        transform := s.transform
        children := Runner.resultNodes s.bare
        location := s.bare.location }) : Except Fault Value).map Value.bare
      = (if s.name.isNone ∧ vs ≠ [] ∧ vs.all (·.kind = .path) then
        (s.placedPaths s.childPaths).map .tuple
      else .ok (.mesh {
        kind := .group
        name := .ofText? s.name
        transform := s.transform
        children := Runner.resultNodes s
        location := s.location }) : Except Fault Value).map Value.bare := by
    have hall : (vs.map Value.bare).all (·.kind = .path) = vs.all (·.kind = .path) := by
      simp [List.all_map, Function.comp_def]
    simp only [hall, ne_eq, List.map_eq_nil_iff, placedPaths_bare, childPaths_bare]
    split
    · rfl
    · simp only [Except.map, Value.bare_mesh, Node.bare_eq, resultNodes_bare]
  unfold Runner.resultOf
  rw [hchildren]
  generalize s.children.toList = vs
  rcases vs with _ | ⟨v, _ | ⟨w, rest⟩⟩
  · exact hseveral []
  · cases v with
    | mesh n =>
      obtain ⟨kind, name, transform, material, children, paths, location⟩ := n
      simp only [List.map_cons, List.map_nil, Value.bare_mesh, Node.bare]
      show (transform.followedBy s.transform >>= fun t => _ : Except Fault Value).map Value.bare
        = (transform.followedBy s.transform >>= fun t => _ : Except Fault Value).map Value.bare
      cases transform.followedBy s.transform with
      | error f => rfl
      | ok t =>
        show Except.ok _ = Except.ok _
        simp only [Value.bare_mesh, Node.bare, Node.bareAll_bareAll]
        rfl
    | path p =>
      have hname : s.bare.name = s.name := rfl
      simp only [List.map_cons, List.map_nil, Value.bare, hname]
      cases s.name with
      | none => rfl
      | some name => rfl
    | tuple vs =>
      rw [List.map_cons, List.map_nil, Value.bare_tuple]
      have h := hseveral [.tuple vs]
      rw [List.map_cons, List.map_nil, Value.bare_tuple] at h
      exact h
    | _ => exact hseveral [_]
  · have hvs := hseveral (v :: w :: rest)
    cases v <;> exact hvs

end Scope

namespace Akin

variable {outer outer' : List Scope} {st st' : State} {setting : Setting}

/-- The outlines of a text. -/
theorem outlines (hM : Akin alone outer outer' st st') (text : String) (font : Option String)
    (detail : Int) :
    Refines alone (Akin alone outer outer') Eq (setting.outlines text font detail st)
      (setting.outlines text font detail st') := by
  unfold Setting.outlines
  cases setting.host with
  | none => exact .pure rfl hM
  | some host =>
    have hnotify := hM.notify (n := .outlined text font detail) rfl
    exact hnotify.bind_eq fun _ _ _ hM₁ => .pure rfl hM₁

/-- **What a standard block builds.** -/
theorem build (hM : Akin alone outer outer' st st') (shape : Shape)
    (hsides : alone → shape = .polygon → st.scope.CountsSides) :
    Refines alone (Akin alone outer outer') (Value.Akin alone) (shape.build setting st)
      (shape.build setting st') := by
  have hmesh (f : Scope → Node) (hf : ∀ s : Scope, (f s.bare).bare = (f s).bare)
      (htransform : ∀ s : Scope, (f s).transform = s.transform) :
      Refines alone (Akin alone outer outer') (Value.Akin alone)
        ((pure (.mesh (f st.scope)) : Eval Value) st)
        ((pure (.mesh (f st'.scope)) : Eval Value) st') := by
    refine .pure ⟨?_, fun halone => Value.isSquare_mesh.mpr ?_⟩ hM
    · exact congrArg Value.mesh (hM.read (fun s => (f s).bare) hf)
    · rw [htransform]
      exact (hM.orderly halone).top.transform
  have hpath {st₁ st₁' : State} (hM₁ : Akin alone outer outer' st₁ st₁') (p : Path) :
      Refines alone (Akin alone outer outer') (Value.Akin alone)
        (Step.ofExcept (st.scope.placedPath p) st₁)
        (Step.ofExcept (st'.scope.placedPath p) st₁') := by
    have hsure (halone : alone) := (hM.orderly halone).top.sure_placedPath p
    rw [hM.read (fun s => s.placedPath p) fun _ => rfl]
    exact (Refines.ofExcept_same hsure hM₁).mono fun v v' hv => ⟨congrArg Value.bare hv.1, hv.2⟩
  have hpaths := hM.read Scope.childPaths Scope.childPaths_bare
  simp only [Shape.build, Eval.scope_bind]
  cases shape with
  | solid kind =>
    exact hmesh (fun s => s.node kind [] []) (fun s => s.node_bare kind [] []) fun _ => rfl
  | circle =>
    simp only [hM.read Scope.detail fun _ => rfl]
    exact hpath hM _
  | square => exact hpath hM _
  | polygon =>
    have hsure (halone : alone) := (hsides halone rfl).sure_sides
    dsimp only
    rw [hM.read Scope.sides Scope.sides_bare]
    refine (Refines.ofExcept_same hsure hM).bind ?_
    rintro _ n _ _ ⟨rfl, -⟩ hM₁
    exact hpath hM₁ _
  | path =>
    dsimp only
    rw [hpaths, hM.read Scope.childPoints Scope.childPoints_bare]
    exact hpath hM _
  | built kind =>
    refine hmesh (fun s => s.node kind [] s.childPaths) (fun s => ?_) fun _ => rfl
    rw [s.childPaths_bare]
    exact s.node_bare kind [] s.childPaths
  | combined kind =>
    refine hmesh (fun s => s.node kind s.childNodes []) (fun s => ?_) fun _ => rfl
    rw [s.childNodes_bare]
    exact s.node_bare kind s.childNodes []
  | text =>
    dsimp only
    rw [hM.read Scope.childLines Scope.childLines_bare, hM.read Scope.font fun _ => rfl,
      hM.read Scope.detail fun _ => rfl]
    refine (hM.outlines _ _ _).bind_eq fun ps st₁ st₁' hM₁ => ?_
    have hsure (halone : alone) := (hM.orderly halone).top.sure_placedPaths ps
    rw [hM.read (fun s => s.placedPaths ps) fun s => s.placedPaths_bare ps]
    refine (Refines.ofExcept_same hsure hM₁).bind ?_
    rintro _ vs _ _ ⟨rfl, hvs⟩ hM₂
    exact .pure ⟨rfl, fun halone => Value.isSquare_tuple.mpr (hvs halone)⟩ hM₂

/-- **The value of a defined block**, from the scope that its body leaves. -/
theorem result (hM : Akin alone outer outer' st st') :
    Refines alone (Akin alone outer outer') (Value.Akin alone)
      ((Eval.scope >>= fun s => Step.ofExcept (Runner.resultOf s)) st)
      ((Eval.scope >>= fun s => Step.ofExcept (Runner.resultOf s)) st') := by
  have hsure (halone : alone) := (hM.orderly halone).top.sure_resultOf
  have hbare := hM.read (fun s => (Runner.resultOf s).map Value.bare) Scope.resultOf_bare
  rw [Eval.scope_bind, Eval.scope_bind]
  refine Refines.ofExcept (Value.gives_of_bare hbare ?_ ?_) hM
  · exact fun halone v hv => (hsure halone).of_ok hv
  · exact fun f hf halone => (hsure halone).of_error hf

end Akin

end SceneLang
