import SceneLang.Proofs.AkinSteps
import SceneLang.Proofs.Seats

/-!
# States that resemble each other

A step that runs no script looks neither at the seat of the active scope nor at where nodes were
written: it only hands places on.  States that differ in nothing else resemble each other
(`State.Resembles`), and such a step takes them to states that resemble each other.  The two results
match (`Matches`): both are values that are the same without places, or both stop for the very same
reason.

Most steps do not even hand places on, so that in both states they give the very same value
(`Step.Blind`).  The others add children, print values or build nodes.
-/

namespace SceneLang

/-! ### Results that match -/

/-- Operations that give the same up to a view of their values fail alike. -/
theorem except_of_map_eq {ε α β γ : Type} {r : Except ε α} {r' : Except ε β} {f : α → γ}
    {g : β → γ} (h : r'.map g = r.map f) :
    (∃ x, r = .error x ∧ r' = .error x) ∨ ∃ a b, r = .ok a ∧ r' = .ok b ∧ g b = f a := by
  cases r with
  | error x =>
    cases r' with
    | error x' =>
      cases h
      exact .inl ⟨x, rfl, rfl⟩
    | ok b => cases h
  | ok a =>
    cases r' with
    | error x' => cases h
    | ok b => exact .inr ⟨a, b, rfl, rfl, Except.ok.inj h⟩

/-- Lookups that find the same up to a view of what they find fail alike. -/
theorem option_of_map_eq {α β γ : Type} {o : Option α} {o' : Option β} {f : α → γ} {g : β → γ}
    (h : o'.map g = o.map f) :
    (o = none ∧ o' = none) ∨ ∃ a b, o = some a ∧ o' = some b ∧ g b = f a := by
  cases o with
  | none => exact .inl ⟨rfl, Option.map_eq_none_iff.mp h⟩
  | some a =>
    obtain ⟨b, rfl, hb⟩ := Option.map_eq_some_iff.mp h
    exact .inr ⟨a, b, rfl, rfl, hb⟩

/-- **Two results match**: both are values, or both stop for the same reason. -/
inductive Matches {σ α β : Type} (M : σ → σ → Prop) (V : α → β → Prop) :
    EStateM.Result Exit σ α → EStateM.Result Exit σ β → Prop
  | ok {a : α} {b : β} {s s' : σ} (hv : V a b) (hs : M s s') : Matches M V (.ok a s) (.ok b s')
  | error {s s' : σ} (x : Exit) (hs : M s s') : Matches M V (.error x s) (.error x s')

namespace Matches

variable {σ α β α' β' : Type} {M M' : σ → σ → Prop} {V : α → β → Prop} {W : α' → β' → Prop}
  {s s' : σ}

theorem pure {a : α} {b : β} (hv : V a b) (hs : M s s') :
    Matches M V ((Pure.pure a : Step σ α) s) ((Pure.pure b : Step σ β) s') :=
  .ok hv hs

theorem throw (x : Exit) (hs : M s s') :
    Matches M V ((MonadExcept.throw x : Step σ α) s) ((MonadExcept.throw x : Step σ β) s') :=
  .error x hs

theorem bind {x : Step σ α} {x' : Step σ β} {f : α → Step σ α'} {f' : β → Step σ β'}
    (hx : Matches M V (x s) (x' s'))
    (hf : ∀ a b s₁ s₁', V a b → M s₁ s₁' → Matches M W (f a s₁) (f' b s₁')) :
    Matches M W ((x >>= f) s) ((x' >>= f') s') := by
  generalize hres : x s = res at hx
  generalize hres' : x' s' = res' at hx
  cases hx with
  | ok hv hs =>
    rw [Step.bind_ok f hres, Step.bind_ok f' hres']
    exact hf _ _ _ _ hv hs
  | error x hs =>
    rw [Step.bind_error f hres, Step.bind_error f' hres']
    exact .error x hs

/-- The same value goes on in both runs. -/
theorem bind_eq {x x' : Step σ α} {f : α → Step σ α'} {f' : α → Step σ β'}
    (hx : Matches M Eq (x s) (x' s'))
    (hf : ∀ a s₁ s₁', M s₁ s₁' → Matches M W (f a s₁) (f' a s₁')) :
    Matches M W ((x >>= f) s) ((x' >>= f') s') :=
  hx.bind fun a _ s₁ s₁' hab hM => hab ▸ hf a s₁ s₁' hM

theorem mono {V' : α → β → Prop} {res : EStateM.Result Exit σ α} {res' : EStateM.Result Exit σ β}
    (h : Matches M V res res') (hM : ∀ s s', M s s' → M' s s') (hV : ∀ a b, V a b → V' a b) :
    Matches M' V' res res' := by
  cases h with
  | ok hv hs => exact .ok (hV _ _ hv) (hM _ _ hs)
  | error x hs => exact .error x (hM _ _ hs)

/-- Operations that give the same, up to a view of the values. -/
theorem ofExit {γ : Type} {r : Except Exit α} {r' : Except Exit β} {f : α → γ} {g : β → γ}
    (h : r'.map g = r.map f) (hs : M s s') :
    Matches M (fun a b => g b = f a) (Step.ofExit r s) (Step.ofExit r' s') := by
  rcases except_of_map_eq h with ⟨x, rfl, rfl⟩ | ⟨a, b, rfl, rfl, hab⟩
  · exact .error x hs
  · exact .ok hab hs

theorem ofExcept {γ : Type} {r : Except Fault α} {r' : Except Fault β} {f : α → γ} {g : β → γ}
    (h : r'.map g = r.map f) (hs : M s s') :
    Matches M (fun a b => g b = f a) (Step.ofExcept r s) (Step.ofExcept r' s') := by
  rcases except_of_map_eq h with ⟨f, rfl, rfl⟩ | ⟨a, b, rfl, rfl, hab⟩
  · exact .error (.fault f) hs
  · exact .ok hab hs

theorem mapExit {res : EStateM.Result Exit σ α} {res' : EStateM.Result Exit σ β}
    (f : Exit → Exit) (h : Matches M V res res') :
    Matches M V (Result.mapExit f res) (Result.mapExit f res') := by
  cases h with
  | ok hv hs => exact .ok hv hs
  | error x hs => exact .error (f x) hs

theorem locate {act : Step σ α} {act' : Step σ β} (h : Matches M V (act s) (act' s'))
    (r : SourceRange) : Matches M V (Step.locate r act s) (Step.locate r act' s') :=
  h.mapExit _

theorem settle {res : EStateM.Result Exit σ α} {res' : EStateM.Result Exit σ β} {f f' : σ → σ}
    (h : Matches M V res res') (hf : ∀ s s', M s s' → M' (f s) (f' s')) :
    Matches M' V (Result.settle f res) (Result.settle f' res') := by
  cases h with
  | ok hv hs => exact .ok hv (hf _ _ hs)
  | error x hs => exact .error x (hf _ _ hs)

/-- Only the second run settles its state. -/
theorem settle_right {res : EStateM.Result Exit σ α} {res' : EStateM.Result Exit σ β} {f : σ → σ}
    (h : Matches M V res res') (hf : ∀ s s', M s s' → M' s (f s')) :
    Matches M' V res (Result.settle f res') := by
  cases h with
  | ok hv hs => exact .ok hv (hf _ _ hs)
  | error x hs => exact .error x (hf _ _ hs)

/-- Two results that match the same one. -/
theorem pair {res : EStateM.Result Exit σ α} {res₁ res₂ : EStateM.Result Exit σ β}
    (h₁ : Matches M V res res₁) (h₂ : Matches M V res res₂) :
    Matches (fun s₁ s₂ => ∃ s, M s s₁ ∧ M s s₂) (fun b₁ b₂ => ∃ a, V a b₁ ∧ V a b₂) res₁ res₂ := by
  cases h₁ with
  | ok hv₁ hs₁ =>
    cases h₂ with
    | ok hv₂ hs₂ => exact .ok ⟨_, hv₁, hv₂⟩ ⟨_, hs₁, hs₂⟩
  | error x hs₁ =>
    cases h₂ with
    | error _ hs₂ => exact .error x ⟨_, hs₁, hs₂⟩

end Matches

/-! ### What steps see -/

/-- **What a step sees of a scope**: everything but its seat and where nodes were written. -/
def Scope.seen (s : Scope) : Scope :=
  { s with
    sourceIndex := none
    parent := none
    definitions := .empty
    callerDefinitions := .empty
    children := s.children.map Value.bare }

/-- **What is seen of the world**: everything but where printed nodes were written. -/
def World.seen (w : World) : World := { w with notices := w.notices.map Notice.bare }

/-- **Scopes that look the same.** -/
def Scope.Resembles (s s' : Scope) : Prop := s'.seen = s.seen

/-- **States that look the same.** -/
structure State.Resembles (st st' : State) : Prop where
  scope : st.scope.Resembles st'.scope
  world : st'.world.seen = st.world.seen

/-- What is read off the world without looking at places is the same. -/
theorem State.Resembles.readWorld {β : Type} {st st' : State} (h : st.Resembles st')
    (f : World → β) (hf : ∀ w : World, f w.seen = f w) : f st'.world = f st.world := by
  rw [← hf st'.world, h.world, hf]

namespace Scope.Resembles

variable {s s' : Scope}

/-- What is read off a scope without looking at its seat and at places is the same. -/
theorem read {β : Type} (h : s.Resembles s') (f : Scope → β) (hbare : ∀ s : Scope, f s.bare = f s)
    (hseated : ∀ seat (s : Scope), f (s.seated seat) = f s) : f s' = f s := by
  -- a scope without places in an empty seat is what is seen of it, less its source and file
  have hempty : s'.bare.seated ⟨none, .empty, .empty, 0, 0⟩
      = s.bare.seated ⟨none, .empty, .empty, 0, 0⟩ :=
    congrArg (fun t : Scope => { t with source := "", file := none }) h
  rw [← hbare s', ← hseated ⟨none, .empty, .empty, 0, 0⟩, hempty, hseated, hbare]

theorem source (h : s.Resembles s') : s'.source = s.source := by
  have hseen : s'.seen.source = s.seen.source := congrArg Scope.source h
  exact hseen

theorem file (h : s.Resembles s') : s'.file = s.file := by
  have hseen : s'.seen.file = s.seen.file := congrArg Scope.file h
  exact hseen

/-! ### Adding children -/

variable {v v' : Value} {vs vs' : List Value}

theorem addChild (h : s.Resembles s') (hv : v.Akin False v') :
    Matches Resembles Eq (Scope.addChild v s) (Scope.addChild v' s') := by
  refine .ok rfl ?_
  have hseen (s : Scope) (v : Value) : { s with children := s.children.push v }.seen
      = { s.seen with children := s.seen.children.push v.bare } := by
    simp only [Scope.seen, Array.map_push]
  unfold Resembles
  rw [hseen, hseen, h, hv.bare]

theorem addLeaf (h : s.Resembles s') (hv : v.Akin False v') :
    Matches Resembles Eq (Scope.addLeaf v s) (Scope.addLeaf v' s') := by
  have hkinds := h.read Scope.childKinds (fun _ => rfl) fun _ _ => rfl
  have htransform := h.read Scope.childTransform (fun _ => rfl) fun _ _ => rfl
  have hname := h.read Scope.name (fun _ => rfl) fun _ _ => rfl
  have hget (s : Scope) : (get : Step Scope Scope) s = .ok s s := rfl
  unfold Scope.addLeaf
  rw [Step.bind_ok _ (hget s), Step.bind_ok _ (hget s'), hkinds, htransform, hv.kind]
  split
  · have hplaced : (placed s.childTransform v').map Value.bare
        = (placed s.childTransform v).map Value.bare := by
      rw [← placed_bare, ← placed_bare, hv.bare]
    exact (Matches.ofExcept hplaced h).bind fun w w' _ _ hw hs => hs.addChild (.of_bare hw)
  · cases v with
    | path p =>
      obtain rfl := hv.eq rfl
      dsimp only
      split
      · refine h.addChild (.of_bare ?_)
        simp only [Value.bare_mesh, Node.bare, promoted, hname, htransform]
      · exact .throw _ h
    | mesh n =>
      obtain ⟨n', rfl, -⟩ := Value.exists_of_bare_mesh hv.bare
      exact .throw _ h
    | tuple vs =>
      obtain ⟨vs', rfl, -⟩ := hv.exists_tuple
      exact .throw _ h
    | _ =>
      obtain rfl := hv.eq rfl
      exact .throw _ h

mutual

/-- **Adding a value.** -/
theorem add : ∀ {v v' : Value} {s s' : Scope}, s.Resembles s' → v.Akin False v' →
    Matches Resembles Eq (Scope.add v s) (Scope.add v' s')
  | .tuple vs, v', s, s', h, hv => by
    obtain ⟨vs', rfl, hvs⟩ := hv.exists_tuple
    rw [Scope.add, Scope.add]
    exact h.addAll hvs
  | .mesh n, v', s, s', h, hv => by
    obtain ⟨n', rfl, -⟩ := Value.exists_of_bare_mesh hv.bare
    exact h.addLeaf hv
  | .number _, v', s, s', h, hv | .string _, v', s, s', h, hv | .color _, v', s, s', h, hv
  | .texture _, v', s, s', h, hv | .vector _, v', s, s', h, hv | .size _, v', s, s', h, hv
  | .path _, v', s, s', h, hv | .point _, v', s, s', h, hv | .range _, v', s, s', h, hv => by
    obtain rfl := hv.eq rfl
    exact h.addLeaf hv

/-- Adding the values of a list. -/
theorem addAll : ∀ {vs vs' : List Value} {s s' : Scope}, s.Resembles s' →
    Value.AllAkin False vs vs' →
    Matches Resembles Eq (Scope.addAll vs s) (Scope.addAll vs' s')
  | [], vs', s, s', h, hvs => by
    obtain rfl := hvs.eq_nil
    exact .pure rfl h
  | v :: rest, vs', s, s', h, hvs => by
    obtain ⟨v', rest', rfl, hv, hrest⟩ := hvs.exists_cons
    rw [Scope.addAll, Scope.addAll]
    exact (h.add hv).bind_eq fun _ _ _ hs => hs.addAll hrest

end

/-- **The children of a block that is called with them.** -/
theorem gather (h : s.Resembles s') (hvs : Value.AllAkin False vs vs') (name : String)
    (place : SourceRange) : (Runner.gather name place vs' s').map Scope.seen
      = (Runner.gather name place vs s).map Scope.seen := by
  induction vs generalizing vs' s s' with
  | nil =>
    obtain rfl := hvs.eq_nil
    exact congrArg Except.ok h
  | cons v rest ih =>
    obtain ⟨v', rest', rfl, hv, hrest⟩ := hvs.exists_cons
    have hadd := h.add hv
    rw [Runner.gather, Runner.gather]
    generalize Scope.add v s = res at hadd
    generalize Scope.add v' s' = res' at hadd
    cases hadd with
    | ok _ hs => exact ih hs hrest
    | error x hs =>
      -- the message names the kind of the child, which is the same
      cases x with
      | error e => rw [hv.kind]
      | _ => rfl

end Scope.Resembles

/-! ### Steps that do not even hand places on -/

/-- **A step that gives the same value in states that look the same.** -/
def Step.Blind {α : Type} (act : Eval α) : Prop :=
  ∀ st st', st.Resembles st' → Matches State.Resembles Eq (act st) (act st')

open Step (Blind)

namespace Step.Blind

variable {α β : Type}

theorem pure (a : α) : Blind (Pure.pure a : Eval α) := fun _ _ h => .pure rfl h

theorem throw (x : Exit) : Blind (MonadExcept.throw x : Eval α) := fun _ _ h => .throw x h

theorem bind {x : Eval α} {f : α → Eval β} (hx : Blind x) (hf : ∀ a, Blind (f a)) :
    Blind (x >>= f) :=
  fun st st' h => (hx st st' h).bind_eq fun a st₁ st₁' h₁ => hf a st₁ st₁' h₁

theorem ofExcept (r : Except Fault α) : Blind (Step.ofExcept r : Eval α) := by
  cases r with
  | ok a => exact pure a
  | error f => exact throw (.fault f)

theorem ofExit (r : Except Exit α) : Blind (Step.ofExit r : Eval α) := by
  cases r with
  | ok a => exact pure a
  | error x => exact throw x

/-- Reading what is seen of a scope. -/
theorem scope_bind {f : Scope → Eval β} (hread : ∀ s : Scope, f s.seen = f s)
    (hf : ∀ s, Blind (f s)) : Blind (Eval.scope >>= f) := by
  intro st st' h
  have hscope : st'.scope.seen = st.scope.seen := h.scope
  rw [Eval.scope_bind, Eval.scope_bind, ← hread st'.scope, hscope, hread]
  exact hf st.scope st st' h

theorem modifyScope {f : Scope → Scope} (hf : ∀ s : Scope, (f s).seen = f s.seen) :
    Blind (Eval.modifyScope f) := by
  intro st st' h
  refine .ok rfl ⟨?_, h.world⟩
  have hscope : st'.scope.seen = st.scope.seen := h.scope
  exact (hf st'.scope).trans ((congrArg f hscope).trans (hf st.scope).symm)

theorem modifyWorld {f : World → World} (hf : ∀ w : World, (f w).seen = f w.seen) :
    Blind (Eval.modifyWorld f) := by
  intro st st' h
  exact .ok rfl ⟨h.scope, (hf st'.world).trans ((congrArg f h.world).trans (hf st.world).symm)⟩

end Step.Blind

theorem blind_resolve (setting : Setting) (path : String) : Blind (setting.resolve path) := by
  unfold Setting.resolve
  cases setting.host with
  | none => exact .throw _
  | some host =>
    exact .bind (.ofExcept _) fun place => .bind (.modifyWorld fun _ => rfl) fun _ => .pure _

/-! ### Arguments -/

namespace Argument

theorem blind_texture (setting : Setting) (a : Argument) (values : List Value) :
    Blind (a.texture setting values) := by
  unfold texture
  split
  · exact .pure _
  · exact .pure _
  · exact .bind (blind_resolve setting _) fun _ => .pure _
  · exact .ofExit _

theorem blind_read (setting : Setting) (a : Argument) (kind : Kind) (values : List Value) :
    Blind (a.read setting kind values) := by
  cases kind with
  | vector | size | pair | paths => exact .bind (.ofExit _) fun _ => .pure _
  | tuple => exact .pure _
  | texture => exact blind_texture setting a values
  | colorOrTexture =>
    unfold read colorOrTexture
    dsimp only
    split
    · exact .throw _
    · split
      · exact blind_texture setting a _
      · exact .ofExit _
  | _ => exact .ofExit _

end Argument

/-! ### Commands and properties -/

theorem blind_moveChildren (f : Transform Float → Except Fault (Transform Float)) :
    Blind (Eval.moveChildren f) :=
  .scope_bind (fun _ => rfl) fun _ => .bind (.ofExcept _) fun _ =>
    .bind (.modifyScope fun _ => rfl) fun _ => .pure _

theorem blind_draw : Blind Eval.draw := by
  intro st st' h
  have hrandom := h.readWorld World.random fun _ => rfl
  have hdraw (st : State) : Eval.draw st = .ok st.world.random.draw.1
      { st with world := { st.world with random := st.world.random.draw.2 } } := rfl
  rw [hdraw, hdraw, hrandom]
  refine .ok rfl ⟨h.scope, ?_⟩
  exact congrArg (fun w : World => { w with random := st.world.random.draw.2 }) h.world

theorem blind_get (p : Property) : Blind p.get := by
  refine .scope_bind (fun _ => rfl) fun s => ?_
  cases p with
  | orientation => exact .bind (.ofExcept _) fun _ => .pure _
  | background =>
    dsimp only
    split <;> exact .pure _
  | _ => exact .pure _

theorem blind_set (p : Property) (v : Value) : Blind (p.set v) := by
  have hplace (f : Transform Float → Transform Float) : Blind (Property.place f) :=
    .modifyScope fun _ => rfl
  have hpaint (f : Material Float → Material Float) : Blind (Property.paint f) :=
    .modifyScope fun _ => rfl
  have hmissing {w : Value} {act : Eval Unit} (h : Blind act) :
      Blind (Property.orMissing w act) := by
    unfold Property.orMissing
    split
    · exact h
    · exact .throw _
  cases p with
  | position | size => exact .bind (.ofExcept _) fun _ => hplace _
  | orientation => exact .bind (.ofExcept _) fun _ => .bind (.ofExcept _) fun _ => hplace _
  | color | texture =>
    unfold Property.set
    dsimp only
    split
    · exact hpaint _
    · exact hmissing (hpaint _)
  | detail | opacity =>
    unfold Property.set
    dsimp only
    split
    · exact .modifyScope fun _ => rfl
    · exact .throw _
  | font | name =>
    unfold Property.set
    dsimp only
    split
    · exact .modifyScope fun _ => rfl
    · exact .modifyScope fun _ => rfl
    · exact .throw _
  | background =>
    unfold Property.set
    dsimp only
    split
    · exact .modifyScope fun _ => rfl
    · exact .modifyScope fun _ => rfl
    · exact hmissing (.modifyScope fun _ => rfl)

/-- Writing a property does not look at places. -/
theorem set_bare (p : Property) (v : Value) : p.set v.bare = p.set v := by
  cases v with
  | mesh n => cases p <;> rfl
  | tuple vs =>
    rw [Value.bare_tuple]
    cases vs <;> cases p <;> rfl
  | _ => rfl

/-- What is read off a pair of values does not depend on places, if this holds of each of them. -/
theorem pairOf_bare {f : Value × Value → Except Fault Float}
    (hf : ∀ x y : Value, f (x.bare, y.bare) = f (x, y)) (vs : List Value) :
    pairOf (.tuple (vs.map Value.bare)) >>= f = pairOf (.tuple vs) >>= f := by
  match vs with
  | [] | [_] => rfl
  | [x, y] => exact hf x y
  | x :: y :: z :: rest =>
    show Except.error (Fault.invalid (.notPair _)) = Except.error (Fault.invalid (.notPair _))
    simp

/-- Running a command does not look at places, unless it prints. -/
theorem run_bare (setting : Setting) {c : Command} (hc : c ≠ .print) (v : Value) :
    c.run setting v.bare = c.run setting v := by
  cases v with
  | mesh n =>
    cases c with
    | print => exact absurd rfl hc
    | function f => cases f <;> rfl
    | _ => rfl
  | tuple vs =>
    rw [Value.bare_tuple]
    cases c with
    | print => exact absurd rfl hc
    | function f => cases f <;> rfl
    | atan2 =>
      have hangle (x y : Value) : angleOf (x.bare, y.bare) = angleOf (x, y) := by
        cases x <;> cases y <;> rfl
      simp only [Command.run, pairOf_bare hangle]
    | pow =>
      have hnumber (x : Value) : x.bare.toDouble = x.toDouble := by cases x <;> rfl
      have hpower (x y : Value) : powerOf (x.bare, y.bare) = powerOf (x, y) := by
        simp only [powerOf, hnumber]
      simp only [Command.run, pairOf_bare hpower]
    | min | max => simp only [Command.run, bestOf_bare]
    | assert => simp only [Command.run, checkAssertion_bare]
    | _ => rfl
  | _ => rfl

theorem blind_run (setting : Setting) {c : Command} (hc : c ≠ .print) (v : Value) :
    Blind (c.run setting v) := by
  have hreseed (random : Random.Twister) : Blind (Eval.reseed random) :=
    .bind (.modifyWorld fun _ => rfl) fun _ => .pure _
  cases c with
  | print => exact absurd rfl hc
  | function f =>
    cases f with
    | round =>
      cases v with
      | number x => exact .pure _
      | _ => exact .throw _
    | _ => exact .bind (.ofExcept _) fun _ => .pure _
  | atan2 | pow => exact .bind (.ofExcept _) fun _ => .pure _
  | min | max => exact .bind (.ofExit _) fun _ => .pure _
  | rnd => exact .bind blind_draw fun _ => .pure _
  | seed =>
    unfold Command.run
    dsimp only
    split
    · exact hreseed _
    · exact hreseed _
    · exact .pure _
    · exact .pure _
    · exact .throw _
  | assert => exact .bind (.ofExit _) fun _ => .pure _
  | translate | rotate | scale => exact .bind (.ofExcept _) fun _ => blind_moveChildren _
  | point | curve => exact .bind (.ofExcept _) fun _ => .pure _

/-! ### Steps that hand places on -/

namespace State.Resembles

variable {st st' : State} {v v' : Value} {values values' : List Value} {setting : Setting}

/-- A step on the active scope. -/
theorem onScope (h : st.Resembles st') {act act' : Step Scope Unit}
    (hact : Matches Scope.Resembles Eq (act st.scope) (act' st'.scope)) :
    Matches State.Resembles Eq (Eval.onScope act st) (Eval.onScope act' st') := by
  unfold Eval.onScope Step.onPart
  generalize act st.scope = res at hact
  generalize act' st'.scope = res' at hact
  cases hact with
  | ok hv hs => exact .ok hv ⟨hs, h.world⟩
  | error x hs => exact .error x ⟨hs, h.world⟩

theorem addValue (h : st.Resembles st') (hv : v.Akin False v') :
    Matches State.Resembles Eq (Eval.addValue v st) (Eval.addValue v' st') :=
  h.onScope (h.scope.add hv)

theorem addAll (h : st.Resembles st') (hvalues : Value.AllAkin False values values') :
    Matches State.Resembles Eq (Eval.onScope (Scope.addAll values) st)
      (Eval.onScope (Scope.addAll values') st') :=
  h.onScope (h.scope.addAll hvalues)

/-- What the host hears. -/
theorem notify (h : st.Resembles st') {n n' : Notice} (hn : n'.bare = n.bare) :
    Matches State.Resembles Eq (Eval.notify n st) (Eval.notify n' st') := by
  have hseen (w : World) (n : Notice) : { w with notices := w.notices.push n }.seen
      = { w.seen with notices := w.seen.notices.push n.bare } := by
    simp only [World.seen, Array.map_push]
  refine .ok rfl ⟨h.scope, ?_⟩
  dsimp only
  rw [hseen, hseen, h.world, hn]

/-- **The value of an argument.** -/
theorem coerce (h : st.Resembles st') (a : Argument) (kind : Kind)
    (hvalues : Value.AllAkin False values values') :
    Matches State.Resembles (Value.Akin False) (a.coerce setting kind values st)
      (a.coerce setting kind values' st') := by
  cases hparameters : a.parameters with
  | nil =>
    simp only [Argument.coerce, hparameters]
    split
    · exact .pure Value.AllAkin.nil.tuple h
    · exact .throw _ h
  | cons first rest =>
    have hasIs : (Argument.asIs? kind values').map Value.bare
        = (Argument.asIs? kind values).map Value.bare := by
      rw [← Argument.asIs?_bare, ← Argument.asIs?_bare, hvalues.bare]
    rcases option_of_map_eq hasIs with ⟨hv, hv'⟩ | ⟨v, v', hv, hv', hbare⟩
    · simp only [Argument.coerce, hparameters, hv, hv']
      refine Matches.locate ?_ first.sourceRange
      -- a tuple holds the values as they are; whatever else is read off them has no places
      by_cases hkind : kind = .tuple
      · subst hkind
        exact .pure hvalues.tuple h
      · have hread : a.read setting kind values' = a.read setting kind values := by
          rw [← a.read_bare setting hkind, hvalues.bare, a.read_bare setting hkind]
        rw [hread]
        refine (a.blind_read setting kind values st st' h).mono (fun _ _ => id) ?_
        rintro v _ rfl
        exact .of_bare rfl
    · simp only [Argument.coerce, hparameters, hv, hv']
      exact .pure (.of_bare hbare) h

/-- **A command on its argument.** -/
theorem run (h : st.Resembles st') (c : Command) (hv : v.Akin False v') :
    Matches State.Resembles (Value.Akin False) (c.run setting v st) (c.run setting v' st') := by
  -- of all commands only this one lets the host see places
  by_cases hc : c = .print
  · subst hc
    have hparts : v'.wholeParts.map (List.map Value.bare)
        = v.wholeParts.map (List.map Value.bare) := by
      cases v with
      | mesh n =>
        obtain ⟨n', rfl, -⟩ := Value.exists_of_bare_mesh hv.bare
        rfl
      | tuple vs =>
        obtain ⟨vs', rfl, hvs⟩ := hv.exists_tuple
        rw [wholeParts_tuple, wholeParts_tuple]
        exact congrArg Except.ok hvs.bare
      | _ => rw [hv.eq rfl]
    refine (Matches.ofExcept hparts h).bind fun vs vs' st₁ st₁' hvs h₁ => ?_
    cases setting.host.isSome with
    | false => exact .pure Value.AllAkin.nil.tuple h₁
    | true =>
      have hprinted : (Notice.printed vs').bare = (Notice.printed vs).bare :=
        congrArg Notice.printed hvs
      refine (h₁.notify hprinted).bind_eq fun _ _ _ h₂ => ?_
      exact .pure Value.AllAkin.nil.tuple h₂
  · have hrun : c.run setting v' = c.run setting v := by
      rw [← run_bare setting hc, hv.bare, run_bare setting hc]
    rw [hrun]
    refine (blind_run setting hc v st st' h).mono (fun _ _ => id) ?_
    rintro w _ rfl
    exact .of_bare rfl

theorem set (h : st.Resembles st') (p : Property) (hv : v.Akin False v') :
    Matches State.Resembles Eq (p.set v st) (p.set v' st') := by
  rw [← set_bare p v', hv.bare, set_bare]
  exact blind_set p v st st' h

/-! ### Blocks -/

/-- **What a standard block builds.**  Only the sides of a polygon are read off its names. -/
theorem build (h : st.Resembles st') (shape : Shape) (hsides : st'.scope.sides = st.scope.sides) :
    Matches State.Resembles (Value.Akin False) (shape.build setting st)
      (shape.build setting st') := by
  have hpath (p : Path) {st₁ st₁' : State} (h₁ : st₁.Resembles st₁') :
      Matches State.Resembles (Value.Akin False) (Step.ofExcept (st.scope.placedPath p) st₁)
        (Step.ofExcept (st'.scope.placedPath p) st₁') := by
    rw [h.scope.read (fun s => s.placedPath p) (fun _ => rfl) fun _ _ => rfl]
    refine (Step.Blind.ofExcept _ st₁ st₁' h₁).mono (fun _ _ => id) ?_
    rintro w _ rfl
    exact .of_bare rfl
  have hmesh (f : Scope → Node) (hbare : ∀ s : Scope, (f s.bare).bare = (f s).bare)
      (hseated : ∀ seat (s : Scope), f (s.seated seat) = f s) :
      Matches State.Resembles (Value.Akin False) ((pure (.mesh (f st.scope)) : Eval Value) st)
        ((pure (.mesh (f st'.scope)) : Eval Value) st') := by
    refine .pure (.of_bare (congrArg Value.mesh ?_)) h
    exact h.scope.read (fun s => (f s).bare) hbare fun seat s => congrArg Node.bare (hseated seat s)
  have hpaths := h.scope.read Scope.childPaths Scope.childPaths_bare fun _ _ => rfl
  simp only [Shape.build, Eval.scope_bind]
  cases shape with
  | solid kind =>
    exact hmesh (fun s => s.node kind [] []) (fun s => s.node_bare kind [] []) fun _ _ => rfl
  | circle =>
    simp only [h.scope.read Scope.detail (fun _ => rfl) fun _ _ => rfl]
    exact hpath _ h
  | square => exact hpath _ h
  | polygon =>
    dsimp only
    rw [hsides]
    exact (Step.Blind.ofExcept _ st st' h).bind_eq fun _ _ _ h₁ => hpath _ h₁
  | path =>
    dsimp only
    rw [hpaths, h.scope.read Scope.childPoints Scope.childPoints_bare fun _ _ => rfl]
    exact hpath _ h
  | built kind =>
    refine hmesh (fun s => s.node kind [] s.childPaths) (fun s => ?_) fun _ _ => rfl
    rw [s.childPaths_bare]
    exact s.node_bare kind [] s.childPaths
  | combined kind =>
    refine hmesh (fun s => s.node kind s.childNodes []) (fun s => ?_) fun _ _ => rfl
    rw [s.childNodes_bare]
    exact s.node_bare kind s.childNodes []
  | text =>
    have houtlines (text : String) (font : Option String) (detail : Int) :
        Matches State.Resembles Eq (setting.outlines text font detail st)
          (setting.outlines text font detail st') := by
      unfold Setting.outlines
      cases setting.host with
      | none => exact .pure rfl h
      | some host =>
        have hnotify := h.notify (n := .outlined text font detail) rfl
        exact hnotify.bind_eq fun _ _ _ h₁ => .pure rfl h₁
    dsimp only
    rw [h.scope.read Scope.childLines Scope.childLines_bare fun _ _ => rfl,
      h.scope.read Scope.font (fun _ => rfl) fun _ _ => rfl,
      h.scope.read Scope.detail (fun _ => rfl) fun _ _ => rfl]
    refine (houtlines _ _ _).bind_eq fun ps st₁ st₁' h₁ => ?_
    rw [h.scope.read (fun s => s.placedPaths ps) (fun s => s.placedPaths_bare ps)
      fun _ s => placedPaths_seated s ps]
    exact (Step.Blind.ofExcept _ st₁ st₁' h₁).bind_eq fun _ _ _ h₂ => .pure (.of_bare rfl) h₂

/-- **The value of a defined block**, from the scope that its body leaves. -/
theorem result (h : st.Resembles st') :
    Matches State.Resembles (Value.Akin False)
      ((Eval.scope >>= fun s => Step.ofExcept (Runner.resultOf s)) st)
      ((Eval.scope >>= fun s => Step.ofExcept (Runner.resultOf s)) st') := by
  have hresult := h.scope.read (fun s => (Runner.resultOf s).map Value.bare) Scope.resultOf_bare
    fun _ s => congrArg (Except.map Value.bare) (resultOf_seated s)
  rw [Eval.scope_bind, Eval.scope_bind]
  exact (Matches.ofExcept hresult h).mono (fun _ _ => id) fun _ _ hw => .of_bare hw

end State.Resembles

end SceneLang
