import SceneLang.Evaluation.Run

/-!
# What a part of a run can change

An expression changes nothing of the scope that it stands in but where children are put from now on
(`Scope.Moves`).  A statement adds children that the scope takes and changes the state of its node,
but neither the children that are there nor where the scope stands (`Scope.Extends`).  The world
only grows, and the stack of the files that are being imported is balanced (`World.Grows`).
`Frame` puts these together, as a relation between the state before and the state after, and is
transitive.

A step that runs no script is `Primitive`: it stays in its frame, defines nothing, does not count as
a turn of a loop, and stops only for a reason that fits the place where it stands (`Exit.Allowed`)
and points only at given places (`Exit.PointsIn`).  The lemmas of the last section build primitive
steps from primitive steps.
-/

namespace SceneLang

/-! ### Results -/

namespace Result

variable {σ α : Type}

/-- The state that a step leaves, whether it stopped or not. -/
def state : EStateM.Result Exit σ α → σ
  | .ok _ s => s
  | .error _ s => s

/-- Whether a step came to its end. -/
def isOk : EStateM.Result Exit σ α → Bool
  | .ok _ _ => true
  | .error _ _ => false

theorem eq_ok_of_isOk {res : EStateM.Result Exit σ Unit} (h : isOk res = true) :
    res = .ok () (state res) := by
  cases res with
  | ok a s => rfl
  | error x s => cases h

/-- A result with a settled state. -/
def settle (f : σ → σ) : EStateM.Result Exit σ α → EStateM.Result Exit σ α
  | .ok a s => .ok a (f s)
  | .error x s => .error x (f s)

/-- A result with another reason to stop. -/
def mapExit (f : Exit → Exit) : EStateM.Result Exit σ α → EStateM.Result Exit σ α
  | .ok a s => .ok a s
  | .error x s => .error (f x) s

@[simp] theorem state_settle (f : σ → σ) (res : EStateM.Result Exit σ α) :
    state (settle f res) = f (state res) := by
  cases res <;> rfl

@[simp] theorem state_mapExit (f : Exit → Exit) (res : EStateM.Result Exit σ α) :
    state (mapExit f res) = state res := by
  cases res <;> rfl

theorem settle_eq_ok_iff {f : σ → σ} {res : EStateM.Result Exit σ α} {a : α} {t : σ} :
    settle f res = .ok a t ↔ ∃ s, res = .ok a s ∧ f s = t := by
  constructor
  · intro h
    cases res with
    | ok b s =>
      cases h
      exact ⟨s, rfl, rfl⟩
    | error x s => cases h
  · rintro ⟨s, rfl, rfl⟩
    rfl

theorem mapExit_eq_ok_iff {f : Exit → Exit} {res : EStateM.Result Exit σ α} {a : α} {t : σ} :
    mapExit f res = .ok a t ↔ res = .ok a t := by
  cases res <;> simp [mapExit]

end Result

namespace Step

variable {σ α β : Type}

theorem mapExit_apply (f : Exit → Exit) (act : Step σ α) (s : σ) :
    mapExit f act s = Result.mapExit f (act s) := rfl

theorem bind_ok {x : Step σ α} {s t : σ} {a : α} (f : α → Step σ β) (h : x s = .ok a t) :
    (x >>= f) s = f a t := by
  show EStateM.bind x f s = f a t
  rw [EStateM.bind, h]

theorem bind_error {x : Step σ α} {s t : σ} {e : Exit} (f : α → Step σ β) (h : x s = .error e t) :
    (x >>= f) s = .error e t := by
  show EStateM.bind x f s = .error e t
  rw [EStateM.bind, h]

/-- Steps in a row succeed when each of them does. -/
theorem bind_eq_ok_iff {x : Step σ α} {f : α → Step σ β} {s t : σ} {b : β} :
    (x >>= f) s = .ok b t ↔ ∃ a u, x s = .ok a u ∧ f a u = .ok b t := by
  constructor
  · intro h
    cases hx : x s with
    | ok a u => exact ⟨a, u, rfl, (bind_ok f hx).symm.trans h⟩
    | error e u =>
      rw [bind_error f hx] at h
      cases h
  · rintro ⟨a, u, hx, hf⟩
    exact (bind_ok f hx).trans hf

theorem ofExit_eq_ok_iff {r : Except Exit α} {s t : σ} {a : α} :
    ofExit r s = .ok a t ↔ r = .ok a ∧ t = s := by
  constructor
  · intro h
    cases r with
    | ok b =>
      cases h
      exact ⟨rfl, rfl⟩
    | error x => cases h
  · rintro ⟨rfl, rfl⟩
    rfl

theorem mapExit_eq_ok_iff {f : Exit → Exit} {x : Step σ α} {s t : σ} {a : α} :
    mapExit f x s = .ok a t ↔ x s = .ok a t := Result.mapExit_eq_ok_iff

end Step

/-! ### Frames -/

/-- What a world can turn into: the host hears more and is asked for more files, and the stack of
the files that are being imported is as it was. -/
structure World.Grows (w w' : World) : Prop where
  notices : w.notices.toList <+: w'.notices.toList
  linked : w.linked.toList <+: w'.linked.toList
  importing : w'.importing = w.importing

theorem World.Grows.refl (w : World) : w.Grows w := ⟨List.prefix_rfl, List.prefix_rfl, rfl⟩

theorem World.Grows.trans {w₁ w₂ w₃ : World} (h : w₁.Grows w₂) (h' : w₂.Grows w₃) : w₁.Grows w₃ :=
  ⟨h.notices.trans h'.notices, h.linked.trans h'.linked, h'.importing.trans h.importing⟩

/-- **A blind pop undoes a push**, if what runs in between leaves the stack as it was. -/
theorem World.Grows.leaveFile {w w' : World} {place : FilePath}
    (h : (w.enterFile place).Grows w') : w.Grows w'.leaveFile where
  notices := h.notices
  linked := h.linked
  importing := by
    -- what is on top in the end is the file that was put there
    rw [importing_leaveFile, h.importing]
    rfl

/-- What an expression makes of the scope that it stands in: children are put elsewhere. -/
def Scope.Moves (s s' : Scope) : Prop := s' = { s with childTransform := s'.childTransform }

/-- What statements make of the scope that they stand in: children of the right kinds are added, and
the scope keeps its place and the children that it has. -/
structure Scope.Extends (s s' : Scope) : Prop where
  source : s'.source = s.source
  file : s'.file = s.file
  parent : s'.parent = s.parent
  table : s'.table = s.table
  callerDefinitions : s'.callerDefinitions = s.callerDefinitions
  childKinds : s'.childKinds = s.childKinds
  depth : s'.depth = s.depth
  children : ∃ vs, s'.children.toList = s.children.toList ++ vs ∧ ∀ v ∈ vs, v.kind ∈ s.childKinds

/-- What a part of a run is: an expression, or statements. -/
inductive Effect where
  | expression
  | statement
  deriving DecidableEq

/-- What a part of a run can make of the active scope. -/
def Effect.Permits : Effect → Scope → Scope → Prop
  | .expression => Scope.Moves
  | .statement => Scope.Extends

/-- **What a part of a run can make of the state.** -/
structure Frame (effect : Effect) (st st' : State) : Prop where
  scope : effect.Permits st.scope st'.scope
  world : st.world.Grows st'.world

namespace Scope

theorem Moves.refl (s : Scope) : s.Moves s := rfl

theorem Moves.trans {s₁ s₂ s₃ : Scope} (h : s₁.Moves s₂) (h' : s₂.Moves s₃) : s₁.Moves s₃ := by
  unfold Moves at *
  rw [h', h]

theorem Moves.push {s s' : Scope} (h : s.Moves s') (level : Nat) (block : BlockType) :
    s'.push level block = s.push level block := by
  rw [h]
  rfl

/-- Definitions and the state of the node can be changed freely. -/
theorem Extends.of_eq {s s' : Scope}
    (h : s' = { s with
      sourceIndex := s'.sourceIndex
      definitions := s'.definitions
      name := s'.name
      transform := s'.transform
      childTransform := s'.childTransform
      material := s'.material
      opacity := s'.opacity
      detail := s'.detail
      font := s'.font
      background := s'.background }) : s.Extends s' := by
  rw [h]
  exact ⟨rfl, rfl, rfl, rfl, rfl, rfl, rfl, [], by simp, by simp⟩

theorem Extends.refl (s : Scope) : s.Extends s := .of_eq rfl

theorem Extends.trans {s₁ s₂ s₃ : Scope} (h : s₁.Extends s₂) (h' : s₂.Extends s₃) :
    s₁.Extends s₃ := by
  obtain ⟨vs, hvs, hk⟩ := h.children
  obtain ⟨vs', hvs', hk'⟩ := h'.children
  refine ⟨h'.source.trans h.source, h'.file.trans h.file, h'.parent.trans h.parent,
    h'.table.trans h.table, h'.callerDefinitions.trans h.callerDefinitions,
    h'.childKinds.trans h.childKinds, h'.depth.trans h.depth, vs ++ vs', ?_, ?_⟩
  · rw [hvs', hvs, List.append_assoc]
  · intro v hv
    rcases List.mem_append.mp hv with hv | hv
    · exact hk v hv
    · rw [← h.childKinds]
      exact hk' v hv

theorem Moves.extends {s s' : Scope} (h : s.Moves s') : s.Extends s' := by
  rw [h]
  exact .of_eq rfl

/-- A scope takes the children of a turn of a loop that ran in a copy of it. -/
theorem Extends.absorb {s inner : Scope} {level : Nat} (h : (s.pushLoop level).Extends inner) :
    s.Extends (s.absorb inner) :=
  ⟨rfl, rfl, rfl, rfl, rfl, rfl, rfl, h.children⟩

end Scope

namespace Effect

theorem Permits.refl (effect : Effect) (s : Scope) : effect.Permits s s := by
  cases effect with
  | expression => exact Scope.Moves.refl s
  | statement => exact Scope.Extends.refl s

theorem Permits.trans {effect : Effect} {s₁ s₂ s₃ : Scope} (h : effect.Permits s₁ s₂)
    (h' : effect.Permits s₂ s₃) : effect.Permits s₁ s₃ := by
  cases effect with
  | expression => exact Scope.Moves.trans h h'
  | statement => exact Scope.Extends.trans h h'

theorem Permits.extends {effect : Effect} {s s' : Scope} (h : effect.Permits s s') :
    s.Extends s' := by
  cases effect with
  | expression => exact Scope.Moves.extends h
  | statement => exact h

end Effect

namespace Frame

variable {effect : Effect} {st st₁ st₂ : State}

theorem refl (effect : Effect) (st : State) : Frame effect st st :=
  ⟨Effect.Permits.refl effect st.scope, World.Grows.refl st.world⟩

theorem trans (h : Frame effect st st₁) (h' : Frame effect st₁ st₂) : Frame effect st st₂ :=
  ⟨h.scope.trans h'.scope, h.world.trans h'.world⟩

/-- What fits the frame of an expression fits that of statements. -/
theorem statement (h : Frame effect st st₁) : Frame .statement st st₁ :=
  ⟨h.scope.extends, h.world⟩

/-- An expression defines nothing where it stands. -/
theorem definitions (h : Frame .expression st st₁) :
    st₁.scope.definitions = st.scope.definitions := by
  rw [h.scope]

/-- What leaves the scope alone fits every frame. -/
theorem of_world (effect : Effect) (st : State) {w : World} (h : st.world.Grows w) :
    Frame effect st { st with world := w } :=
  ⟨Effect.Permits.refl effect st.scope, h⟩

end Frame

/-! ### Reasons to stop -/

/-- What is known of the script errors that a part of a run can stop with. -/
inductive Blame where
  /-- They arose while a script ran, and their place is known. -/
  | placed
  /-- They arose while a script ran. -/
  | unplaced
  /-- Nothing. -/
  | unknown
  deriving DecidableEq

/-- How little is known of script errors. -/
def Blame.rank : Blame → Nat
  | .placed => 0
  | .unplaced => 1
  | .unknown => 2

/-- **A reason to stop that fits what is known of script errors.**  Being cancelled never fits: that
is decided only where a turn of a loop starts. -/
def Exit.Allowed : Blame → Exit → Prop
  | _, .cancelled => False
  | .placed, .error e => ∃ cause range, e = .evaluation cause (some range)
  | .unplaced, .error e => ∃ cause range, e = .evaluation cause range
  | _, _ => True

namespace Exit

theorem Allowed.mono {b b' : Blame} {x : Exit} (h : x.Allowed b) (hb : b.rank ≤ b'.rank) :
    x.Allowed b' := by
  cases x with
  | error e =>
    cases b with
    | placed =>
      obtain ⟨cause, range, rfl⟩ := h
      cases b' with
      | placed => exact ⟨cause, range, rfl⟩
      | unplaced => exact ⟨cause, some range, rfl⟩
      | unknown => trivial
    | unplaced =>
      cases b' with
      | placed => exact absurd hb (by decide)
      | unplaced => exact h
      | unknown => trivial
    | unknown =>
      cases b' with
      | placed => exact absurd hb (by decide)
      | unplaced => exact absurd hb (by decide)
      | unknown => trivial
  | fault f => cases b' <;> trivial
  | cancelled => cases b <;> exact h.elim
  | exhausted => cases b' <;> trivial

theorem allowed_raise (b : Blame) (cause : ErrorCause) (range : SourceRange) :
    (raise cause range).Allowed b := by
  cases b with
  | placed => exact ⟨cause, range, rfl⟩
  | unplaced => exact ⟨cause, some range, rfl⟩
  | unknown => trivial

theorem allowed_unplaced (cause : ErrorCause) : (unplaced cause).Allowed .unplaced :=
  ⟨cause, none, rfl⟩

theorem allowed_fault (b : Blame) (f : Fault) : (fault f).Allowed b := by cases b <;> trivial

theorem allowed_exhausted (b : Blame) : exhausted.Allowed b := by cases b <;> trivial

/-- A place is all that an error of a running script can lack. -/
theorem Allowed.located {x : Exit} (h : x.Allowed .unplaced) (r : SourceRange) :
    (x.located r).Allowed .placed := by
  cases x with
  | error e =>
    obtain ⟨cause, range, rfl⟩ := h
    cases range with
    | none => exact ⟨cause, r, rfl⟩
    | some range => exact ⟨cause, range, rfl⟩
  | fault f => trivial
  | cancelled => exact h.elim
  | exhausted => trivial

end Exit

/-- **A script error that points only at places of a kind**, and is none of another file. -/
def Exit.PointsIn (points : SourceRange → Prop) : Exit → Prop
  | .error e => e.isImported = false ∧ ∀ r, e.range = some r → points r
  | _ => True

/-- A place does not make an error one of another file. -/
theorem ScriptError.isImported_evaluation (cause : ErrorCause) (r r' : Option SourceRange) :
    (evaluation cause r).isImported = (evaluation cause r').isImported := by
  cases cause <;> rfl

/-- **A reason to stop that a step can have by itself.**  Steps are never used up. -/
structure Exit.Proper (points : SourceRange → Prop) (blame : Blame) (x : Exit) : Prop where
  allowed : x.Allowed blame
  within : x.PointsIn points
  ends : x ≠ .exhausted

namespace Exit.Proper

variable {points : SourceRange → Prop} {blame : Blame}

theorem mono {blame' : Blame} {x : Exit} (h : x.Proper points blame)
    (hb : blame.rank ≤ blame'.rank) : x.Proper points blame' :=
  ⟨h.allowed.mono hb, h.within, h.ends⟩

theorem raise {cause : ErrorCause} {range : SourceRange} (blame : Blame)
    (hcause : (ScriptError.evaluation cause none).isImported = false) (hrange : points range) :
    (Exit.raise cause range).Proper points blame := by
  refine ⟨allowed_raise blame cause range, ⟨?_, ?_⟩, nofun⟩
  · exact (ScriptError.isImported_evaluation cause _ _).trans hcause
  · rintro r ⟨⟩
    exact hrange

theorem unplaced {cause : ErrorCause} (points : SourceRange → Prop)
    (hcause : (ScriptError.evaluation cause none).isImported = false) :
    (Exit.unplaced cause).Proper points .unplaced :=
  ⟨allowed_unplaced cause, ⟨hcause, nofun⟩, nofun⟩

theorem fault (points : SourceRange → Prop) (blame : Blame) (f : Fault) :
    (Exit.fault f).Proper points blame :=
  ⟨allowed_fault blame f, trivial, nofun⟩

/-- An error without a place is given one of the right kind. -/
theorem located {x : Exit} {r : SourceRange} (h : x.Proper points .unplaced) (hr : points r) :
    (x.located r).Proper points .placed := by
  obtain ⟨hallowed, hwithin, hends⟩ := h
  refine ⟨hallowed.located r, ?_, ?_⟩
  · cases x with
    | error e =>
      obtain ⟨cause, range, rfl⟩ := hallowed
      cases range with
      | none =>
        refine ⟨?_, ?_⟩
        · exact (ScriptError.isImported_evaluation cause _ _).trans hwithin.1
        · rintro r' ⟨⟩
          exact hr
      | some range => exact hwithin
    | fault f => trivial
    | cancelled => trivial
    | exhausted => trivial
  · cases x with
    | exhausted => exact hends
    | _ => exact nofun

end Exit.Proper

/-! ### Primitive steps -/

/-- **The result of a step that runs no script.** -/
structure Plain {α : Type} (effect : Effect) (blame : Blame) (st : State)
    (res : EStateM.Result Exit State α) : Prop where
  frame : Frame effect st (Result.state res)
  polls : (Result.state res).world.polls = st.world.polls
  turns : (Result.state res).world.turns = st.world.turns
  exit : ∀ x st', res = .error x st' → x.Allowed blame

/-- **A step that runs no script**, and defines nothing. -/
structure Primitive {α : Type} (points : SourceRange → Prop) (effect : Effect) (blame : Blame)
    (act : Eval α) : Prop where
  frame : ∀ st, Frame effect st (Result.state (act st))
  definitions : ∀ st, (Result.state (act st)).scope.definitions = st.scope.definitions
  polls : ∀ st, (Result.state (act st)).world.polls = st.world.polls
  turns : ∀ st, (Result.state (act st)).world.turns = st.world.turns
  exit : ∀ st x st', act st = .error x st' → x.Proper points blame

namespace Primitive

variable {α β : Type} {points : SourceRange → Prop} {effect : Effect} {blame : Blame}

theorem plain {act : Eval α} (h : Primitive points effect blame act) (st : State) :
    Plain .statement blame st (act st) :=
  ⟨(h.frame st).statement, h.polls st, h.turns st, fun x st' hx => (h.exit st x st' hx).allowed⟩

theorem pure (a : α) : Primitive points effect blame (Pure.pure a : Eval α) :=
  ⟨fun st => Frame.refl effect st, fun _ => rfl, fun _ => rfl, fun _ => rfl,
    fun _ _ _ h => by cases h⟩

theorem throw {x : Exit} (h : x.Proper points blame) :
    Primitive points effect blame (MonadExcept.throw x : Eval α) :=
  ⟨fun st => Frame.refl effect st, fun _ => rfl, fun _ => rfl, fun _ => rfl,
    fun _ _ _ hx => by cases hx; exact h⟩

theorem bind {x : Eval α} {f : α → Eval β} (hx : Primitive points effect blame x)
    (hf : ∀ a, Primitive points effect blame (f a)) :
    Primitive points effect blame (x >>= f) := by
  have hstate (st : State) : Result.state ((x >>= f) st) = Result.state (x st) ∨
      ∃ a, Result.state ((x >>= f) st) = Result.state (f a (Result.state (x st))) := by
    cases hres : x st with
    | ok a st₁ => exact .inr ⟨a, congrArg _ (Step.bind_ok f hres)⟩
    | error e st₁ => exact .inl (congrArg _ (Step.bind_error f hres))
  refine ⟨fun st => ?_, fun st => ?_, fun st => ?_, fun st => ?_, fun st e st₂ he => ?_⟩
  · rcases hstate st with h | ⟨a, h⟩ <;> rw [h]
    · exact hx.frame st
    · exact (hx.frame st).trans ((hf a).frame _)
  · rcases hstate st with h | ⟨a, h⟩ <;> rw [h]
    · exact hx.definitions st
    · exact ((hf a).definitions _).trans (hx.definitions st)
  · rcases hstate st with h | ⟨a, h⟩ <;> rw [h]
    · exact hx.polls st
    · exact ((hf a).polls _).trans (hx.polls st)
  · rcases hstate st with h | ⟨a, h⟩ <;> rw [h]
    · exact hx.turns st
    · exact ((hf a).turns _).trans (hx.turns st)
  · cases hres : x st with
    | ok a st₁ => exact (hf a).exit st₁ e st₂ ((Step.bind_ok f hres).symm.trans he)
    | error e' st₁ =>
      rw [Step.bind_error f hres] at he
      cases he
      exact hx.exit st e st₂ hres

/-- Reading the active scope. -/
theorem scope_bind {f : Scope → Eval β} (hf : ∀ s, Primitive points effect blame (f s)) :
    Primitive points effect blame (Eval.scope >>= f) :=
  ⟨fun st => (hf st.scope).frame st, fun st => (hf st.scope).definitions st,
    fun st => (hf st.scope).polls st, fun st => (hf st.scope).turns st,
    fun st => (hf st.scope).exit st⟩

theorem ofExcept (r : Except Fault α) :
    Primitive points effect blame (Step.ofExcept r : Eval α) := by
  cases r with
  | ok a => exact pure a
  | error f => exact throw (.fault points blame f)

theorem ofExit {r : Except Exit α} (h : ∀ x, r = .error x → x.Proper points blame) :
    Primitive points effect blame (Step.ofExit r : Eval α) := by
  cases r with
  | ok a => exact pure a
  | error x => exact throw (h x rfl)

theorem wrongKind : Primitive points effect blame (Step.wrongKind : Eval α) :=
  throw (.fault points blame .wrongKind)

theorem locate {act : Eval α} {r : SourceRange} (h : Primitive points effect .unplaced act)
    (hr : points r) : Primitive points effect .placed (Step.locate r act) := by
  have hstate (st : State) : Result.state (Step.locate r act st) = Result.state (act st) :=
    Result.state_mapExit _ _
  refine ⟨fun st => ?_, fun st => ?_, fun st => ?_, fun st => ?_, fun st x st' hx => ?_⟩
  · exact hstate st ▸ h.frame st
  · exact hstate st ▸ h.definitions st
  · exact hstate st ▸ h.polls st
  · exact hstate st ▸ h.turns st
  · rw [Step.locate, Step.mapExit_apply] at hx
    cases hres : act st with
    | ok a st₁ => rw [hres] at hx; cases hx
    | error e st₁ =>
      rw [hres] at hx
      injection hx with hx
      rw [← hx]
      exact (h.exit st e st₁ hres).located hr

theorem modifyWorld {f : World → World} (hgrows : ∀ w : World, w.Grows (f w))
    (hpolls : ∀ w : World, (f w).polls = w.polls) (hturns : ∀ w : World, (f w).turns = w.turns) :
    Primitive points effect blame (Eval.modifyWorld f) :=
  ⟨fun st => Frame.of_world effect st (hgrows st.world), fun _ => rfl, fun st => hpolls st.world,
    fun st => hturns st.world, fun _ _ _ h => by cases h⟩

theorem modifyScope {f : Scope → Scope} (h : ∀ s, effect.Permits s (f s))
    (hdefinitions : ∀ s, (f s).definitions = s.definitions) :
    Primitive points effect blame (Eval.modifyScope f) :=
  ⟨fun st => ⟨h st.scope, World.Grows.refl st.world⟩, fun st => hdefinitions st.scope,
    fun _ => rfl, fun _ => rfl, fun _ _ _ h => by cases h⟩

end Primitive

end SceneLang
