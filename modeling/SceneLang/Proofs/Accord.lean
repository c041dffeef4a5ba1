import SceneLang.Proofs.Runs

/-!
# Two runs side by side

Many facts about runs compare two of them, under two settings and by two runners, and do not depend
on what the script is.  An `Accord` is a relation between the results of two steps that start in the
same state, and an `Invariant` a condition on the surroundings and the state in which expressions
and statements start.  Together they are a law of two runs (`Accord.law`), which bodies of defined
blocks obey like everything else.  So runners in accord are in accord one layer further
(`Accord.Agree.next`), and by induction over the fuel the runners of every depth are in accord
(`Accord.agree_ofFuel`).  Facts about a single run are the case of an accord that looks at one of
its sides.

Besides, both runs stay in their frames (`Accord.Holds`), whatever the accord is.
-/

namespace SceneLang

/-! ### Invariants and accords -/

/-- **The scopes that can be entered** from a scope, other than for a turn of a loop. -/
inductive Opening (env : Env) (outer : Scope) : Scope → Prop
  | entrance {s : Scope} (h : Entrance env.enclosing outer s) : Opening env outer s
  /-- The scope of the body of a defined block; the caller takes no children. -/
  | body {c : Closure} {defining : Scope}
    (hlevel : Scope.atLevel? env.enclosing c.level = some defining)
    (hkinds : outer.childKinds = []) :
    Opening env outer (Runner.bodyScope c defining outer)

/-- **A condition on the surroundings and the state in which a part of a run starts**, which all
parts of a run keep. -/
structure Invariant where
  Holds : Effect → Env → State → Prop
  expression {env : Env} {st : State} : Holds .statement env st → Holds .expression env st
  frame {effect : Effect} {env : Env} {st st' : State} :
    Holds effect env st → Frame effect st st' → Holds effect env st'
  enter {env : Env} {st : State} {s : Scope} : Holds .expression env st →
    Opening env st.scope s → Holds .statement (env.below st.scope) { st with scope := s }
  turn {env : Env} {st : State} : Holds .statement env st →
    Holds .statement (env.below st.scope) { st with scope := st.scope.pushLoop env.level }
  source {env : Env} {st : State} (text : String) : Holds .statement env st →
    Holds .statement env { st with scope := { st.scope with source := text } }
  file {env : Env} {st : State} {place : FilePath} : Holds .statement env st →
    place ∉ st.world.importing → Holds .statement env (st.entering place)

/-- The condition that always holds. -/
def Invariant.always : Invariant where
  Holds _ _ _ := True
  expression _ := trivial
  frame _ _ := trivial
  enter _ _ := trivial
  turn _ := trivial
  source _ _ := trivial
  file _ _ := trivial

/-- **A relation between the results of two steps that start in the same state**, which all parts
of a run keep. -/
structure Accord (left right : Setting) where
  Rel {α : Type} : Blame → State → EStateM.Result Exit State α → EStateM.Result Exit State α → Prop
  similar : left.Similar right
  mono {α : Type} {b b' : Blame} {st : State} {res res' : EStateM.Result Exit State α} :
    Rel b st res res' → b.rank ≤ b'.rank → Rel b' st res res'
  plain {α : Type} {b : Blame} {st : State} {res : EStateM.Result Exit State α} :
    Plain .statement b st res → Rel b st res res
  startTurn (st : State) : Rel .placed st (Runner.startTurn left st) (Runner.startTurn right st)
  bind {α β : Type} {b : Blame} {st : State} {x x' : Eval α} {f f' : α → Eval β} :
    Rel b st (x st) (x' st) →
    (∀ a st₁, x st = .ok a st₁ ∨ x' st = .ok a st₁ →
      Frame .statement st₁ (Result.state (f' a st₁)) ∧ Rel b st₁ (f a st₁) (f' a st₁)) →
    Rel b st ((x >>= f) st) ((x' >>= f') st)
  locate {α : Type} {st : State} {res res' : EStateM.Result Exit State α} (r : SourceRange) :
    Rel .unplaced st res res' →
    Rel .placed st (Result.mapExit (Exit.located r) res) (Result.mapExit (Exit.located r) res')
  inFile {α : Type} {st : State} {res res' : EStateM.Result Exit State α} (file source : String) :
    Rel .unknown st res res' →
    Rel .unplaced st (Result.mapExit (Runner.inFile file source) res)
      (Result.mapExit (Runner.inFile file source) res')
  settle {α : Type} {b : Blame} {st st₀ : State} {f : State → State}
    {res res' : EStateM.Result Exit State α} :
    Detour st st₀ f → Rel b st₀ res res' → Rel b st (Result.settle f res) (Result.settle f res')
  geometry {α : Type} {host : Host} {place : FilePath} {x : Exit} (path : String) (st : State) :
    left.host = some host → host.importNode place = .error x →
    Rel .unplaced st (.error (Runner.geometryExit path place x) st : EStateM.Result Exit State α)
      (.error (Runner.geometryExit path place x) st)
  parse {α : Type} {parse : String → Except Exit Program} {text : String} {x : Exit} (st : State) :
    left.parse = some parse → parse text = .error x →
    Rel .unknown st (.error x st : EStateM.Result Exit State α) (.error x st)

variable {left right : Setting}

/-- **Two results in accord**, both in their frame. -/
structure Accord.Holds {α : Type} (A : Accord left right) (effect : Effect) (blame : Blame)
    (st : State) (res res' : EStateM.Result Exit State α) : Prop where
  frame : Frame effect st (Result.state res)
  frame' : Frame effect st (Result.state res')
  rel : A.Rel blame st res res'

/-- **Two runners in accord** on everything that is run where an invariant holds. -/
structure Accord.Agree (A : Accord left right) (I : Invariant) (r r' : Runner) : Prop where
  turns : r'.turns = r.turns
  expression (outer : List Scope) (e : Expr) (st : State) :
    I.Holds .expression ⟨left, outer⟩ st →
    A.Holds .expression .placed st (r.expression ⟨left, outer⟩ e st)
      (r'.expression ⟨right, outer⟩ e st)
  statement (outer : List Scope) (s : Statement) (st : State) :
    I.Holds .statement ⟨left, outer⟩ st →
    A.Holds .statement .placed st (r.statement ⟨left, outer⟩ s st)
      (r'.statement ⟨right, outer⟩ s st)
  build (outer : List Scope) (symbol : Symbol) (st : State) :
    I.Holds .statement ⟨left, outer⟩ st → st.scope.Suits symbol →
    A.Holds .expression .unplaced st (r.build ⟨left, outer⟩ symbol st)
      (r'.build ⟨right, outer⟩ symbol st)
  body (outer : List Scope) (block : Block) (st : State) :
    I.Holds .statement ⟨left, outer⟩ st → st.scope.table = .definition →
    A.Holds .statement .placed st (r.body ⟨left, outer⟩ block st)
      (r'.body ⟨right, outer⟩ block st)

/-! ### Accords as laws -/

namespace Accord

variable {A : Accord left right} {I : Invariant} {r r' : Runner} {outer : List Scope} {st : State}

/-- **The law of two runs in accord**; it is the same for all scripts. -/
def law (A : Accord left right) (I : Invariant) : Law left Bool where
  Writes _ _ := True
  part _ _ := trivial
  Points _ _ := True
  own _ _ := trivial
  upperBound _ := trivial
  through _ _ := trivial
  Holds effect outer files st := I.Holds effect ⟨left, outer⟩ st ∧ st.world.importing = files
  importing_eq h := h.2
  expression h := ⟨I.expression h.1, h.2⟩
  keep h hframe _ := ⟨I.frame h.1 hframe, hframe.world.importing.trans h.2⟩
  define _ h _ _ := ⟨I.frame h.1 ⟨Scope.Extends.of_eq rfl, World.Grows.refl _⟩, h.2⟩
  enter h hs := ⟨I.enter h.1 (.entrance hs), h.2⟩
  turn h := ⟨I.turn h.1, h.2⟩
  script h hplace _ :=
    ⟨⟨I.source _ (I.file h.1 (h.2 ▸ hplace)), congrArg _ h.2⟩, fun _ _ => trivial⟩
  resume h _ hframe := ⟨I.frame h.1 hframe, hframe.world.importing.trans h.2⟩
  setting k := bif k then right else left
  similar k := by
    cases k with
    | false => exact .refl left
    | true => exact A.similar
  Rel _ b st F := A.Rel b st (F false) (F true)
  mono h hb := A.mono h hb
  plain h _ := A.plain h
  startTurn _ st := A.startTurn st
  bind hx hf := by
    refine A.bind hx fun a st₁ h => ?_
    have hk : _ ∧ _ := hf a st₁ (h.elim (fun h => ⟨false, h⟩) fun h => ⟨true, h⟩)
    exact ⟨hk.1 true, hk.2⟩
  locate _ h := A.locate _ h
  settle hd h := A.settle hd h
  imported _ _ h := A.inFile _ _ (A.mono h (by decide))
  unreadable _ st _ _ hparse hx := A.inFile _ _ (A.parse st hparse hx)
  geometry _ path st hhost hx := A.geometry path st hhost hx

/-- Where an invariant holds, so does the law's condition for the files that are being imported. -/
theorem law_holds (A : Accord left right) {effect : Effect} (hI : I.Holds effect ⟨left, outer⟩ st) :
    (A.law I).Holds effect outer st.world.importing st :=
  ⟨hI, rfl⟩

theorem Holds.good {α : Type} {effect : Effect} {blame : Blame} {files : List FilePath}
    {F : Bool → EStateM.Result Exit State α} (h : A.Holds effect blame st (F false) (F true))
    (hI : (A.law I).Holds effect outer files st) :
    (A.law I).Good effect blame outer files st F := by
  have hframe (k : Bool) : Frame effect st (Result.state (F k)) := by
    cases k with
    | false => exact h.frame
    | true => exact h.frame'
  exact ⟨hframe, fun k => ⟨I.frame hI.1 (hframe k), (hframe k).world.importing.trans hI.2⟩, h.rel⟩

theorem holds_of_good {α : Type} {effect : Effect} {blame : Blame} {files : List FilePath}
    {F : Bool → EStateM.Result Exit State α} (h : (A.law I).Good effect blame outer files st F) :
    A.Holds effect blame st (F false) (F true) :=
  ⟨h.frame false, h.frame true, h.rel⟩

/-- To be used up is no reason against an accord. -/
theorem plain_exhausted {α : Type} (effect : Effect) (blame : Blame) (st : State) :
    Plain effect blame st (.error .exhausted st : EStateM.Result Exit State α) :=
  ⟨Frame.refl effect st, rfl, rfl, fun _ _ h => by cases h; exact Exit.allowed_exhausted blame⟩

/-- Everything belongs to the script. -/
theorem law_owns (A : Accord left right) (I : Invariant) (files : List FilePath) (t : Task) :
    (A.law I).Owns files t :=
  ⟨fun _ _ => trivial, fun _ _ => trivial⟩

namespace Agree

/-- Runners in accord obey the law. -/
theorem law (h : A.Agree I r r') : (A.law I).Agree fun k => bif k then r' else r where
  expression _ hI := (h.expression _ _ _ hI.1).good hI
  statement _ hI := (h.statement _ _ _ hI.1).good hI
  build _ hs hI := (h.build _ _ _ hI.1 hs).good (Regime.expression _ hI)

/-! ### Defined blocks -/

theorem call (h : A.Agree I r r') (c : Closure) (hI : I.Holds .statement ⟨left, outer⟩ st)
    (hs : st.scope.Suits (.closure c)) :
    A.Holds .expression .unplaced st (r.call ⟨left, outer⟩ c st)
      (r'.call ⟨right, outer⟩ c st) := by
  suffices hgood : (A.law I).Good .expression .unplaced outer st.world.importing st fun k =>
      (bif k then r' else r).call ⟨(A.law I).setting k, outer⟩ c st from holds_of_good hgood
  simp only [Runner.call, Eval.scope_bind]
  have hI' := A.law_holds (I.expression hI)
  cases hlevel : Scope.atLevel? outer c.level with
  | none => exact .primitive (.throw (.fault _ .unplaced _)) hI'
  | some defining =>
    by_cases hdepth : Runner.deepestCall < (Runner.bodyScope c defining st.scope).depth
    · simp only [hdepth, if_true]
      exact .primitive (.throw (.unplaced _ rfl)) hI'
    · simp only [hdepth, if_false]
      have hinner := I.enter hI'.1 (.body hlevel (hs c.blockType rfl))
      have hinner' := A.law_holds hinner
      have hbody := h.body (st.scope :: outer) c.body _ hinner rfl
      refine .block hI' (Law.Good.bind_primitive ((hbody.good hinner').mono (by decide)) ?_)
      exact fun _ => .scope_bind fun s => .ofExcept _

theorem callFromFile (h : A.Agree I r r') (c : Closure) (hI : I.Holds .statement ⟨left, outer⟩ st)
    (hs : st.scope.Suits (.closure c)) :
    A.Holds .expression .unplaced st (r.callFromFile ⟨left, outer⟩ c st)
      (r'.callFromFile ⟨right, outer⟩ c st) := by
  have hcall := h.call c hI hs
  simp only [Runner.callFromFile, Eval.scope_bind]
  split
  · exact hcall
  · rw [Step.mapExit_apply, Step.mapExit_apply]
    refine ⟨?_, ?_, A.inFile _ _ (A.mono hcall.rel (by decide))⟩
    · rw [Result.state_mapExit]
      exact hcall.frame
    · rw [Result.state_mapExit]
      exact hcall.frame'

theorem construct (h : A.Agree I r r') (symbol : Symbol) (hI : I.Holds .statement ⟨left, outer⟩ st)
    (hs : st.scope.Suits symbol) :
    A.Holds .expression .unplaced st (r.construct ⟨left, outer⟩ symbol st)
      (r'.construct ⟨right, outer⟩ symbol st) := by
  have hI' := A.law_holds (I.expression hI)
  cases symbol with
  | shape s => exact holds_of_good ((A.law I).good_shape s hI')
  | closure c => exact h.callFromFile c hI hs
  | _ => exact holds_of_good (.primitive (.throw (.fault _ .unplaced _)) hI')

/-! ### All layers -/

/-- **Runners in accord are in accord one layer further.** -/
theorem next (h : A.Agree I r r') : A.Agree I r.next r'.next where
  turns := by rw [Runner.next, Runner.next, h.turns]
  expression _ e _ hI := holds_of_good (h.law.evaluate (A.law_owns I _ _) (A.law_holds hI))
  statement _ s _ hI := by
    have hturns (k : Bool) : (bif k then r' else r).turns = r.turns := by
      cases k with
      | false => rfl
      | true => exact h.turns
    refine holds_of_good (h.law.execute (A.law_owns I _ _) ?_ (A.law_holds hI))
    exact fun _ _ _ _ _ _ _ _ range _ _ =>
      Law.loops_of_turns hturns (fun _ st => A.plain (plain_exhausted .statement .placed st)) range
  build _ symbol _ hI hs := h.construct symbol hI hs
  body _ block _ hI _ := holds_of_good (h.law.bodyStatements (fun _ _ => trivial) (A.law_holds hI))

theorem program (h : A.Agree I r r') (p : Program) (hI : I.Holds .statement ⟨left, outer⟩ st) :
    A.Holds .statement .placed st (r.program ⟨left, outer⟩ p st)
      (r'.program ⟨right, outer⟩ p st) := by
  have hstart := A.law_holds (I.source p.source hI)
  have hrun := holds_of_good
    (h.law.statements (fun s (_ : s ∈ p.statements) => trivial) hstart)
  have hd : Detour st _ _ := .source p.source
  refine ⟨?_, ?_, A.settle hd hrun.rel⟩
  · exact (Result.state_settle _ _).symm ▸ hd.frame hrun.frame
  · exact (Result.state_settle _ _).symm ▸ hd.frame hrun.frame'

end Agree

/-- **Runners of the same depth are in accord**, whatever the two settings do about going on. -/
theorem agree_ofFuel (A : Accord left right) (I : Invariant) (fuel : Nat) :
    A.Agree I (Runner.ofFuel fuel) (Runner.ofFuel fuel) := by
  have hexhausted {α : Type} (effect : Effect) (blame : Blame) (st : State) :
      A.Holds effect blame st ((throw .exhausted : Eval α) st) ((throw .exhausted : Eval α) st) :=
    ⟨Frame.refl effect st, Frame.refl effect st, A.plain (plain_exhausted .statement blame st)⟩
  induction fuel with
  | zero =>
    exact ⟨rfl, fun _ _ st _ => hexhausted _ _ st, fun _ _ st _ => hexhausted _ _ st,
      fun _ _ st _ _ => hexhausted _ _ st, fun _ _ st _ _ => hexhausted _ _ st⟩
  | succ fuel ih =>
    rw [Runner.ofFuel_succ]
    exact ih.next

end Accord

end SceneLang
