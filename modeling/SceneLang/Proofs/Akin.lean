import SceneLang.Proofs.Bare
import SceneLang.Proofs.Runs
import SceneLang.Proofs.Square

/-!
# Runs that differ in places only

Two runs of the same script side by side, from states that are the same without places (`Akin`).
The second refines the first (`Refines`): wherever the first gives a value, the second gives the
same value up to places, and leaves the same state up to places.  Where the first stops, nothing is
said of the second, since errors and circular imports depend on files.

If the first run has no host (`alone`), everything in it comes from scripts.  Then its matrices are
square and its blocks were defined below where they are named (`Orderly`), and it stops for usual
reasons only (`Exit.IsUsual`): a script error, a slip, or because it is stopped.

Here: the relations, and the scopes that are entered and left.  Arguments are in `Proofs.Arguments`,
and what single steps do to the active scope in `Proofs.AkinSteps`.
-/

namespace SceneLang

/-! ### Usual reasons to stop -/

/-- **The reasons for which a run without a host stops**: anything but a fault that is no slip. -/
def Exit.IsUsual : Exit → Prop
  | .fault f => f.IsSlip
  | _ => True

theorem Exit.IsUsual.located {x : Exit} (h : x.IsUsual) (r : SourceRange) :
    (x.located r).IsUsual := by
  cases x with
  | error e => trivial
  | _ => exact h

theorem Exit.IsUsual.inFile {x : Exit} (h : x.IsUsual) (file source : String) :
    (Runner.inFile file source x).IsUsual := by
  cases x with
  | error e => trivial
  | _ => exact h

/-! ### Refinement -/

/-- **The second of two operations gives what the first gives**, up to a relation; the reasons of
the first to fail are of a kind. -/
inductive Gives {ε α β : Type} (E : ε → Prop) (V : α → β → Prop) : Except ε α → Except ε β → Prop
  | ok {a : α} {b : β} (hv : V a b) : Gives E V (.ok a) (.ok b)
  | error {x : ε} (hx : E x) (r' : Except ε β) : Gives E V (.error x) r'

/-- **The second of two steps does what the first does**, up to relations between the states and
between the values; the first stops for usual reasons only if it is `alone`. -/
inductive Refines {σ α β : Type} (alone : Prop) (M : σ → σ → Prop) (V : α → β → Prop) :
    EStateM.Result Exit σ α → EStateM.Result Exit σ β → Prop
  | ok {a : α} {b : β} {s s' : σ} (hv : V a b) (hs : M s s') :
    Refines alone M V (.ok a s) (.ok b s')
  | error {x : Exit} (hx : alone → x.IsUsual) (s : σ) (res' : EStateM.Result Exit σ β) :
    Refines alone M V (.error x s) res'

namespace Gives

variable {ε α β γ : Type} {E : ε → Prop} {V : α → β → Prop}

/-- Operations that give the same without places. -/
theorem of_map {r : Except ε α} {r' : Except ε β} {f : α → γ} {g : β → γ}
    (h : r'.map g = r.map f) (hok : ∀ a b, r = .ok a → g b = f a → V a b)
    (herror : ∀ x, r = .error x → E x) : Gives E V r r' := by
  cases r with
  | ok a =>
    cases r' with
    | ok b => exact .ok (hok a b rfl (Except.ok.inj h))
    | error x => cases h
  | error x => exact .error (herror x rfl) r'

theorem mono {V' : α → β → Prop} {r : Except ε α} {r' : Except ε β} (h : Gives E V r r')
    (hV : ∀ a b, V a b → V' a b) : Gives E V' r r' := by
  cases h with
  | ok hv => exact .ok (hV _ _ hv)
  | error hx r' => exact .error hx r'

end Gives

namespace Refines

variable {σ α β α' β' : Type} {alone : Prop} {M M' : σ → σ → Prop} {V : α → β → Prop}
  {W : α' → β' → Prop} {s s' : σ}

theorem pure {a : α} {b : β} (hv : V a b) (hs : M s s') :
    Refines alone M V ((Pure.pure a : Step σ α) s) ((Pure.pure b : Step σ β) s') :=
  .ok hv hs

theorem throw {x : Exit} (hx : alone → x.IsUsual) (res' : EStateM.Result Exit σ β) :
    Refines alone M V ((MonadExcept.throw x : Step σ α) s) res' :=
  .error hx s res'

/-- A script error is a usual reason to stop. -/
theorem raise (e : ScriptError) (res' : EStateM.Result Exit σ β) :
    Refines alone M V ((MonadExcept.throw (Exit.error e) : Step σ α) s) res' :=
  throw (x := .error e) (fun _ => trivial) res'

theorem bind {x : Step σ α} {x' : Step σ β} {f : α → Step σ α'} {f' : β → Step σ β'}
    (hx : Refines alone M V (x s) (x' s'))
    (hf : ∀ a b s₁ s₁', V a b → M s₁ s₁' → Refines alone M W (f a s₁) (f' b s₁')) :
    Refines alone M W ((x >>= f) s) ((x' >>= f') s') := by
  generalize hres : x s = res at hx
  generalize hres' : x' s' = res' at hx
  cases hx with
  | ok hv hs =>
    rw [Step.bind_ok f hres, Step.bind_ok f' hres']
    exact hf _ _ _ _ hv hs
  | error hx s₁ =>
    rw [Step.bind_error f hres]
    exact .error hx s₁ _

/-- The same value goes on in both runs. -/
theorem bind_eq {x x' : Step σ α} {f : α → Step σ α'} {f' : α → Step σ β'}
    (hx : Refines alone M Eq (x s) (x' s'))
    (hf : ∀ a s₁ s₁', M s₁ s₁' → Refines alone M W (f a s₁) (f' a s₁')) :
    Refines alone M W ((x >>= f) s) ((x' >>= f') s') :=
  hx.bind fun a _ s₁ s₁' hab hM => hab ▸ hf a s₁ s₁' hM

theorem mono {V' : α → β → Prop} {res : EStateM.Result Exit σ α} {res' : EStateM.Result Exit σ β}
    (h : Refines alone M V res res') (hV : ∀ a b, V a b → V' a b) :
    Refines alone M V' res res' := by
  cases h with
  | ok hv hs => exact .ok (hV _ _ hv) hs
  | error hx s => exact .error hx s _

theorem ofExit {r : Except Exit α} {r' : Except Exit β}
    (h : Gives (fun x => alone → x.IsUsual) V r r') (hs : M s s') :
    Refines alone M V (Step.ofExit r s) (Step.ofExit r' s') := by
  cases h with
  | ok hv => exact .ok hv hs
  | error hx => exact .error hx s _

theorem ofExcept {r : Except Fault α} {r' : Except Fault β}
    (h : Gives (fun f => alone → f.IsSlip) V r r') (hs : M s s') :
    Refines alone M V (Step.ofExcept r s) (Step.ofExcept r' s') := by
  cases h with
  | ok hv => exact .ok hv hs
  | error hx => exact .error hx s _

/-- Where the first run gives a value, so does the second. -/
theorem of_ok {res : EStateM.Result Exit σ α} {res' : EStateM.Result Exit σ β} {a : α}
    (h : Refines alone M V res res') (hres : res = .ok a s) :
    ∃ b s', res' = .ok b s' ∧ V a b ∧ M s s' := by
  subst hres
  cases h with
  | ok hv hs => exact ⟨_, _, rfl, hv, hs⟩

/-- Where the first run stops, it does so for a usual reason. -/
theorem of_error {res : EStateM.Result Exit σ α} {res' : EStateM.Result Exit σ β} {x : Exit}
    (h : Refines alone M V res res') (hres : res = .error x s) : alone → x.IsUsual := by
  subst hres
  cases h with
  | error hx => exact hx

/-- An operation that is the same in both runs. -/
theorem ofExcept_same {r : Except Fault α} {P : α → Prop} (hr : alone → Sure P r) (hs : M s s') :
    Refines alone M (fun a b => b = a ∧ (alone → P a)) (Step.ofExcept r s)
      (Step.ofExcept r s') := by
  cases r with
  | ok a => exact .ok ⟨rfl, hr⟩ hs
  | error f => exact .error hr s _

theorem mapExit {res : EStateM.Result Exit σ α} {res' : EStateM.Result Exit σ β}
    (f f' : Exit → Exit) (h : Refines alone M V res res')
    (hf : ∀ x : Exit, x.IsUsual → (f x).IsUsual) :
    Refines alone M V (Result.mapExit f res) (Result.mapExit f' res') := by
  cases h with
  | ok hv hs => exact .ok hv hs
  | error hx s => exact .error (fun halone => hf _ (hx halone)) s _

theorem locate {act : Step σ α} {act' : Step σ β} (h : Refines alone M V (act s) (act' s'))
    (r : SourceRange) : Refines alone M V (Step.locate r act s) (Step.locate r act' s') :=
  h.mapExit _ _ fun _ hx => hx.located r

theorem settle {res : EStateM.Result Exit σ α} {res' : EStateM.Result Exit σ β} {f f' : σ → σ}
    (h : Refines alone M V res res') (hf : ∀ s s', M s s' → M' (f s) (f' s')) :
    Refines alone M' V (Result.settle f res) (Result.settle f' res') := by
  cases h with
  | ok hv hs => exact .ok hv (hf _ _ hs)
  | error hx s => exact .error hx (f s) _

end Refines

/-! ### Values and names -/

variable {alone : Prop}

/-- **Values that are the same without places.** -/
structure Value.Akin (alone : Prop) (v v' : Value) : Prop where
  bare : v'.bare = v.bare
  square : alone → v.IsSquare

/-- Lists of values that are the same without places. -/
structure Value.AllAkin (alone : Prop) (vs vs' : List Value) : Prop where
  bare : vs'.map Value.bare = vs.map Value.bare
  square : alone → ∀ v ∈ vs, v.IsSquare

namespace Value

variable {v v' : Value} {vs vs' : List Value}

/-- A value without nodes is akin to itself. -/
theorem Akin.flat (v : Value) (hflat : v.kind.isFlat = true) : Akin alone v v :=
  ⟨rfl, fun _ => isSquare_of_flat hflat⟩

/-- Where nothing is known of the matrices, only places count. -/
theorem Akin.of_bare (h : v'.bare = v.bare) : Akin False v v' := ⟨h, False.elim⟩

theorem Akin.kind (h : Akin alone v v') : v'.kind = v.kind := kind_eq_of_bare h.bare

theorem Akin.eq (h : Akin alone v v') (hflat : v.kind.isFlat = true) : v' = v :=
  eq_of_bare h.bare hflat

theorem Akin.unwrap (h : Akin alone v v') : Akin alone v.unwrap v'.unwrap :=
  ⟨by rw [bare_unwrap, bare_unwrap, h.bare], fun halone => (h.square halone).unwrap⟩

theorem Akin.elements (h : Akin alone v v') : AllAkin alone v.elements v'.elements := by
  refine ⟨?_, fun halone w hw => (h.square halone).elements hw⟩
  rw [← elements_bare, ← elements_bare, h.bare]

theorem AllAkin.nil : AllAkin alone [] [] := ⟨rfl, fun _ _ hv => absurd hv List.not_mem_nil⟩

theorem AllAkin.cons (hv : Akin alone v v') (hvs : AllAkin alone vs vs') :
    AllAkin alone (v :: vs) (v' :: vs') :=
  ⟨by rw [List.map_cons, List.map_cons, hv.bare, hvs.bare],
    fun halone => List.forall_mem_cons.mpr ⟨hv.square halone, hvs.square halone⟩⟩

theorem AllAkin.singleton (hv : Akin alone v v') : AllAkin alone [v] [v'] := .cons hv .nil

theorem AllAkin.eq_nil (h : AllAkin alone [] vs') : vs' = [] := List.map_eq_nil_iff.mp h.bare

theorem AllAkin.exists_cons (h : AllAkin alone (v :: vs) vs') :
    ∃ v' rest', vs' = v' :: rest' ∧ Akin alone v v' ∧ AllAkin alone vs rest' := by
  have hbare := h.bare
  rw [List.map_cons, List.map_eq_cons_iff] at hbare
  obtain ⟨v', rest', rfl, hv, hrest⟩ := hbare
  exact ⟨v', rest', rfl, ⟨hv, fun halone => h.square halone v List.mem_cons_self⟩,
    ⟨hrest, fun halone w hw => h.square halone w (List.mem_cons_of_mem v hw)⟩⟩

theorem AllAkin.unwrap (h : AllAkin alone vs vs') :
    AllAkin alone (vs.map Value.unwrap) (vs'.map Value.unwrap) := by
  induction vs generalizing vs' with
  | nil =>
    rw [h.eq_nil]
    exact .nil
  | cons v rest ih =>
    obtain ⟨v', rest', rfl, hv, hrest⟩ := h.exists_cons
    exact .cons hv.unwrap (ih hrest)

theorem AllAkin.tuple (h : AllAkin alone vs vs') : Akin alone (.tuple vs) (.tuple vs') :=
  ⟨by rw [bare_tuple, bare_tuple, h.bare], fun halone => isSquare_tuple.mpr (h.square halone)⟩

theorem Akin.exists_tuple (h : Akin alone (.tuple vs) v') :
    ∃ vs', v' = .tuple vs' ∧ AllAkin alone vs vs' := by
  obtain ⟨vs', rfl, hbare⟩ := exists_of_bare_tuple h.bare
  exact ⟨vs', rfl, hbare, fun halone => isSquare_tuple.mp (h.square halone)⟩

/-- An operation that does not look at places. -/
theorem gives_of_bare {ε : Type} {E : ε → Prop} {r r' : Except ε Value}
    (h : r'.map Value.bare = r.map Value.bare)
    (hok : alone → ∀ v, r = .ok v → v.IsSquare) (herror : ∀ x, r = .error x → E x) :
    Gives E (Akin alone) r r' :=
  .of_map h (fun a _ ha hb => ⟨hb, fun halone => hok halone a ha⟩) herror

end Value

/-- **What a name stands for in two runs**, at a height of the stack. -/
inductive Symbol.Akin (alone : Prop) (height : Nat) : Symbol → Symbol → Prop
  | command (c : Command) : Akin alone height (.command c) (.command c)
  | property (p : Property) : Akin alone height (.property p) (.property p)
  | shape (s : Shape) : Akin alone height (.shape s) (.shape s)
  | closure {c c' : Closure} (hbare : c'.bare = c.bare) (hlevel : alone → c.level ≤ height) :
    Akin alone height (.closure c) (.closure c')
  | constant {v v' : Value} (h : v.Akin alone v') : Akin alone height (.constant v) (.constant v')

namespace Symbol.Akin

variable {height : Nat} {y y' : Symbol}

theorem of_bare (hbare : y'.bare = y.bare) (hsquare : alone → y.IsSquare)
    (hlevel : alone → ∀ c, y = .closure c → c.level ≤ height) : Symbol.Akin alone height y y' := by
  cases y with
  | closure c =>
    cases y' with
    | closure c' => exact .closure (Symbol.closure.inj hbare) fun halone => hlevel halone c rfl
    | _ => cases hbare
  | constant v =>
    cases y' with
    | constant v' => exact .constant ⟨Symbol.constant.inj hbare, hsquare⟩
    | _ => cases hbare
  | _ => cases y' <;> cases hbare <;> constructor

theorem bare (h : Symbol.Akin alone height y y') : y'.bare = y.bare := by
  cases h with
  | closure hbare => exact congrArg Symbol.closure hbare
  | constant h => exact congrArg Symbol.constant h.bare
  | _ => rfl

theorem square (h : Symbol.Akin alone height y y') (halone : alone) : y.IsSquare := by
  cases h with
  | constant h => exact h.square halone
  | _ => trivial

theorem level (h : Symbol.Akin alone height y y') (halone : alone) (c : Closure)
    (hc : y = .closure c) : c.level ≤ height := by
  cases h with
  | closure _ hlevel =>
    cases hc
    exact hlevel halone
  | _ => cases hc

/-- Blocks of the same kind. -/
theorem blockType? (h : Symbol.Akin alone height y y') : y'.blockType? = y.blockType? := by
  cases h with
  | closure hbare => exact congrArg some (Closure.blockType_of_bare hbare)
  | _ => rfl

end Symbol.Akin

/-! ### States -/

/-- **States that are the same without places**, on stacks that are the same without places.  In the
first one further files may be being imported. -/
structure Akin (alone : Prop) (outer outer' : List Scope) (st st' : State) : Prop where
  scope : st'.scope.bare = st.scope.bare
  below : outer'.map Scope.bare = outer.map Scope.bare
  world : st'.world.bare = st.world.bare
  importing : st'.world.importing.Sublist st.world.importing
  orderly : alone → Orderly (st.scope :: outer)

namespace Akin

variable {outer outer' : List Scope} {st st' : State} {α β : Type} {V : α → β → Prop}

theorem length_eq (h : Akin alone outer outer' st st') : outer'.length = outer.length := by
  simpa using congrArg List.length h.below

theorem stack (h : Akin alone outer outer' st st') :
    (st'.scope :: outer').map Scope.bare = (st.scope :: outer).map Scope.bare := by
  rw [List.map_cons, List.map_cons, h.scope, h.below]

/-- What does not depend on places is the same. -/
theorem read {γ : Type} (h : Akin alone outer outer' st st') (f : Scope → γ)
    (hf : ∀ s : Scope, f s.bare = f s) : f st'.scope = f st.scope := by
  rw [← hf st'.scope, h.scope, hf]

/-- What does not depend on places is the same in the world. -/
theorem readWorld {γ : Type} (h : Akin alone outer outer' st st') (f : World → γ)
    (hf : ∀ w : World, f w.bare = f w) : f st'.world = f st.world := by
  rw [← hf st'.world, h.world, hf]

/-- **A name stands for the same** in both runs. -/
theorem symbol (h : Akin alone outer outer' st st') (name : String) :
    (Scope.symbol? (st.scope :: outer) name = none ∧
      Scope.symbol? (st'.scope :: outer') name = none) ∨
    ∃ y y', Scope.symbol? (st.scope :: outer) name = some y ∧
      Scope.symbol? (st'.scope :: outer') name = some y' ∧
      Symbol.Akin alone outer.length y y' := by
  have hbare : (Scope.symbol? (st'.scope :: outer') name).map Symbol.bare
      = (Scope.symbol? (st.scope :: outer) name).map Symbol.bare := by
    rw [← Scope.symbol?_bare, ← Scope.symbol?_bare, h.stack]
  cases hy : Scope.symbol? (st.scope :: outer) name with
  | none =>
    rw [hy, Option.map_none, Option.map_eq_none_iff] at hbare
    exact .inl ⟨rfl, hbare⟩
  | some y =>
    rw [hy, Option.map_some, Option.map_eq_some_iff] at hbare
    obtain ⟨y', hy', hbare⟩ := hbare
    refine .inr ⟨y, y', rfl, hy', .of_bare hbare ?_ ?_⟩
    · exact fun halone => ((h.orderly halone).symbol hy).1
    · exact fun halone => ((h.orderly halone).symbol hy).2

/-- Other scopes in place of the active ones. -/
theorem keep (h : Akin alone outer outer' st st') {s s' : Scope} (hscope : s'.bare = s.bare)
    (horderly : alone → Orderly (s :: outer)) :
    Akin alone outer outer' { st with scope := s } { st' with scope := s' } :=
  ⟨hscope, h.below, h.world, h.importing, horderly⟩

/-- A change of the active scope that does not look at places. -/
theorem modifyScope (h : Akin alone outer outer' st st') {f : Scope → Scope}
    (hf : ∀ s : Scope, (f s).bare = f s.bare)
    (horderly : Orderly (st.scope :: outer) → Orderly (f st.scope :: outer)) :
    Refines alone (Akin alone outer outer') Eq (Eval.modifyScope f st)
      (Eval.modifyScope f st') := by
  refine .ok rfl (h.keep ?_ fun halone => horderly (h.orderly halone))
  rw [hf, hf, h.scope]

/-- A change of the world that does not look at places. -/
theorem modifyWorld (h : Akin alone outer outer' st st') {f f' : World → World}
    (hf : (f' st'.world).bare = (f st.world).bare)
    (hfiles : (f' st'.world).importing.Sublist (f st.world).importing) :
    Refines alone (Akin alone outer outer') Eq (Eval.modifyWorld f st)
      (Eval.modifyWorld f' st') :=
  .ok rfl ⟨h.scope, h.below, hf, hfiles, h.orderly⟩

/-- Saying where the node being built was written: the two runs may stand in different places. -/
theorem sourceIndex (h : Akin alone outer outer' st st') (index index' : Option Int) :
    Refines alone (Akin alone outer outer') Eq
      (Eval.modifyScope (fun s => { s with sourceIndex := index }) st)
      (Eval.modifyScope (fun s => { s with sourceIndex := index' }) st') := by
  refine .ok rfl (h.keep h.scope fun halone => ?_)
  have htop := (h.orderly halone).top
  exact (h.orderly halone).keep rfl rfl htop.transform htop.childTransform htop.children

/-- Defining a name. -/
theorem define (h : Akin alone outer outer' st st') (name : String) {y y' : Symbol}
    (hy : Symbol.Akin alone outer.length y y') :
    Refines alone (Akin alone outer outer') Eq
      (Eval.modifyScope (fun s => s.define name y) st)
      (Eval.modifyScope (fun s => s.define name y') st') := by
  refine .ok rfl (h.keep ?_ fun halone =>
    (h.orderly halone).define name (hy.square halone) (hy.level halone))
  have hbare (s : Scope) (y : Symbol) : (s.define name y).bare = s.bare.define name y.bare := by
    simp only [Scope.bare, Scope.define, Bindings.bare_set]
  rw [hbare, hbare, h.scope, hy.bare]

/-! ### Scopes that are entered and left -/

/-- A scope that is entered. -/
theorem enter (h : Akin alone outer outer' st st') {s s' : Scope} (hscope : s'.bare = s.bare)
    (horderly : Orderly (st.scope :: outer) → Orderly (s :: st.scope :: outer)) :
    Akin alone (st.scope :: outer) (st'.scope :: outer') { st with scope := s }
      { st' with scope := s' } :=
  ⟨hscope, h.stack, h.world, h.importing, fun halone => horderly (h.orderly halone)⟩

/-- **A block**: the scope around it is as it was, in both runs. -/
theorem block (h : Akin alone outer outer' st st') {setting : Setting} {s s' : Scope}
    {act act' : Env → Eval α} {V : α → α → Prop}
    (hact : Refines alone (Akin alone (st.scope :: outer) (st'.scope :: outer')) V
      (act ⟨setting, st.scope :: outer⟩ { st with scope := s })
      (act' ⟨setting, st'.scope :: outer'⟩ { st' with scope := s' })) :
    Refines alone (Akin alone outer outer') V
      (Env.inside ⟨setting, outer⟩ s Env.leaveBlock act st)
      (Env.inside ⟨setting, outer'⟩ s' Env.leaveBlock act' st') := by
  rw [Env.inside_apply, Env.inside_apply]
  exact hact.settle fun _ _ hM => ⟨h.scope, h.below, hM.world, hM.importing, h.orderly⟩

/-- **A turn of a loop**: the scope around it takes over, in both runs. -/
theorem turn (h : Akin alone outer outer' st st') {setting : Setting} {s s' : Scope}
    {act act' : Env → Eval α} {V : α → α → Prop}
    (hact : Refines alone (Akin alone (st.scope :: outer) (st'.scope :: outer')) V
      (act ⟨setting, st.scope :: outer⟩ { st with scope := s })
      (act' ⟨setting, st'.scope :: outer'⟩ { st' with scope := s' })) :
    Refines alone (Akin alone outer outer') V
      (Env.inside ⟨setting, outer⟩ s Env.leaveLoop act st)
      (Env.inside ⟨setting, outer'⟩ s' Env.leaveLoop act' st') := by
  rw [Env.inside_apply, Env.inside_apply]
  refine hact.settle fun st₁ st₁' hM => ⟨?_, h.below, hM.world, hM.importing, fun halone => ?_⟩
  · have hbare (s inner : Scope) : (s.absorb inner).bare = s.bare.absorb inner.bare := rfl
    show (st'.scope.absorb st₁'.scope).bare = (st.scope.absorb st₁.scope).bare
    rw [hbare, hbare, h.scope, hM.scope]
  · have hinner := (hM.orderly halone).top
    exact (h.orderly halone).keep rfl rfl hinner.transform hinner.childTransform hinner.children

theorem bare_push_eq (h : Akin alone outer outer' st st') (block : BlockType) :
    (st'.scope.push outer'.length block).bare = (st.scope.push outer.length block).bare := by
  rw [Scope.bare_push, Scope.bare_push, h.scope, h.length_eq]

/-- The scope of a block. -/
theorem push (h : Akin alone outer outer' st st') (block : BlockType) :
    Akin alone (st.scope :: outer) (st'.scope :: outer')
      { st with scope := st.scope.push outer.length block }
      { st' with scope := st'.scope.push outer'.length block } :=
  h.enter (h.bare_push_eq block) fun ho => ho.push block

/-- The scope of a block that is called with a body. -/
theorem pushCall (h : Akin alone outer outer' st st') (block : BlockType) :
    Akin alone (st.scope :: outer) (st'.scope :: outer')
      { st with scope := { st.scope.push outer.length block with
        callerDefinitions := Scope.visibleDefinitions (st.scope :: outer) } }
      { st' with scope := { st'.scope.push outer'.length block with
        callerDefinitions := Scope.visibleDefinitions (st'.scope :: outer') } } := by
  refine h.enter ?_ fun ho => ho.call block
  have hvisible : (Scope.visibleDefinitions (st'.scope :: outer')).bare
      = (Scope.visibleDefinitions (st.scope :: outer)).bare := by
    rw [← Scope.visibleDefinitions_bare, ← Scope.visibleDefinitions_bare, h.stack]
  show { (st'.scope.push outer'.length block).bare with
    callerDefinitions := (Scope.visibleDefinitions (st'.scope :: outer')).bare } = _
  rw [h.bare_push_eq block, hvisible]
  rfl

/-- The scope of a definition. -/
theorem pushDefinition (h : Akin alone outer outer' st st') :
    Akin alone (st.scope :: outer) (st'.scope :: outer')
      { st with scope := st.scope.pushDefinition outer.length }
      { st' with scope := st'.scope.pushDefinition outer'.length } := by
  refine h.enter ?_ fun ho => ho.definition
  exact congrArg
    (fun s : Scope => { s with table := .definition, childKinds := definitionChildKinds })
    (h.bare_push_eq .group)

/-- The scope of a turn of a loop. -/
theorem pushLoop (h : Akin alone outer outer' st st') :
    Akin alone (st.scope :: outer) (st'.scope :: outer')
      { st with scope := st.scope.pushLoop outer.length }
      { st' with scope := st'.scope.pushLoop outer'.length } := by
  refine h.enter ?_ fun ho => ho.turn
  rw [h.length_eq]
  exact congrArg (fun s : Scope => { s with parent := some outer.length, definitions := .empty })
    h.scope

end Akin

end SceneLang
