import SceneLang.Proofs.Watch

/-!
# How deep defined blocks call each other

A scope says how many defined blocks are running, and the body of a block that is called counts one
more than the scope of its caller, wherever the block was defined.  So at every moment of a run this
number is that of the bodies that are active (`Program.depth_eq_bodies`), and it never passes
`Runner.deepestCall`: a block that is called starts its body if the number is less, and fails
otherwise.

That the scope of a definition is still there when the block is called takes a fact about all blocks
that have a name: they were defined no higher in the stack than where the name is visible.
-/

namespace SceneLang

/-- What is known where a given number of bodies are active. -/
def Regime.counting (setting : Setting) (calls : Nat) : Regime setting where
  Writes _ _ := True
  part _ _ := trivial
  Points _ _ := True
  own _ _ := trivial
  upperBound _ := trivial
  through _ _ := trivial
  Holds _ outer files st := st.scope.depth = calls ∧ calls ≤ Runner.deepestCall ∧
    Knows (fun height c => c.level ≤ height) (st.scope :: outer) ∧ st.world.importing = files
  importing_eq h := h.2.2.2
  expression h := h
  keep h hframe hdefinitions := by
    obtain ⟨hdepth, hle, hknows, hfiles⟩ := h
    have hextends := hframe.scope.extends
    exact ⟨hextends.depth.trans hdepth, hle, hknows.congr hdefinitions hextends.callerDefinitions,
      hframe.world.importing.trans hfiles⟩
  define name h hmade _ := by
    refine ⟨h.1, h.2.1, h.2.2.1.define name ?_, h.2.2.2⟩
    rintro c rfl
    cases hmade
    exact Nat.le_refl _
  enter h hs :=
    ⟨hs.depth.trans h.1, h.2.1, h.2.2.1.enter (fun _ _ => Nat.le_succ_of_le) hs, h.2.2.2⟩
  turn h := ⟨h.1, h.2.1, h.2.2.1.turn (fun _ _ => Nat.le_succ_of_le) _, h.2.2.2⟩
  script h _ _ :=
    ⟨⟨h.1, h.2.1, h.2.2.1.congr rfl rfl, congrArg _ h.2.2.2⟩, fun _ _ => trivial⟩
  resume h h' hframe :=
    ⟨h'.1, h'.2.1, h'.2.2.1.congr rfl rfl, hframe.world.importing.trans h.2.2.2⟩

/-- The body of a block starts, and nothing else is active. -/
def Closure.Starts (c : Closure) (calls : List Moment) (m : Moment) : Prop :=
  calls = [] ∧ m.task = .body c.body ∧ m.isOver = false

/-- How a reason to stop leaves a call: an error in a block of another file says so. -/
def Closure.leaving (c : Closure) (file : Option FilePath) (x : Exit) : Exit :=
  if file = c.file then x else Runner.inFile ((c.file.map FilePath.name).getD "") c.source x

/-- **What a defined block builds** is the value of its call. -/
theorem Runner.construct_closure (r : Runner) (env : Env) (c : Closure) (st : State) :
    r.construct env (.closure c) st
      = Result.mapExit (c.leaving st.scope.file) (r.call env c st) := by
  show r.callFromFile env c st = _
  rw [callFromFile_apply]
  by_cases hfile : st.scope.file = c.file
  · have hleaving : c.leaving st.scope.file = id := funext fun x => if_pos hfile
    rw [if_pos hfile, hleaving]
    cases r.call env c st <;> rfl
  · have hleaving : c.leaving st.scope.file
        = inFile ((c.file.map FilePath.name).getD "") c.source := funext fun x => if_neg hfile
    rw [if_neg hfile, hleaving]

/-- **What the depth of a scope says at a moment**: how many bodies are active, which are never more
than the deepest call.  A block whose value is built there starts its body if and only if they are
less, and fails if not. -/
structure Moment.CountsBodies (active : List Moment) (m : Moment) : Prop where
  depth : m.state.scope.depth = bodies (m :: active)
  bound : bodies (m :: active) ≤ Runner.deepestCall
  starts : ∀ c, m.task = .build (.closure c) → m.isOver = false →
    (Visits (fun r => r.construct m.env (.closure c)) m.state c.Starts ↔
      bodies active < Runner.deepestCall)
  fails : ∀ c, m.task = .build (.closure c) → m.isOver = false →
    Runner.deepestCall ≤ bodies active → ∀ r : Runner, r.construct m.env (.closure c) m.state
      = .error (c.leaving m.state.scope.file
          (.unplaced (.assertionFailure "Too much recursion"))) m.state

/-- A block that is called too deep fails. -/
theorem construct_of_deep {r : Runner} {setting : Setting} {outer : List Scope} {c : Closure}
    {defining : Scope} {st : State} (hlevel : Scope.atLevel? outer c.level = some defining)
    (hdepth : Runner.deepestCall ≤ st.scope.depth) :
    r.construct ⟨setting, outer⟩ (.closure c) st
      = .error (c.leaving st.scope.file
          (.unplaced (.assertionFailure "Too much recursion"))) st := by
  rw [Runner.construct_closure, Runner.call_of_deep hlevel hdepth]
  rfl

open Classical in
/-- A block whose definition is still there starts its body unless it is called too deep. -/
theorem visits_body_iff {setting : Setting} {outer : List Scope} {c : Closure} {defining : Scope}
    {st : State} (hlevel : Scope.atLevel? outer c.level = some defining) :
    Visits (fun r => r.construct ⟨setting, outer⟩ (.closure c)) st c.Starts ↔
      st.scope.depth < Runner.deepestCall := by
  rcases Nat.lt_or_ge st.scope.depth Runner.deepestCall with hlt | hge
  · refine ⟨fun _ => hlt, fun _ => ⟨0, .cancelled, fun heq => ?_⟩⟩
    -- without fuel the body stops as exhausted, with the alarm as cancelled
    dsimp only at heq
    have halarm : (Runner.trapped (fun calls m => decide (c.Starts calls m)) .cancelled 0 []).body
        ⟨setting, st.scope :: outer⟩ c.body
        { st with scope := Runner.bodyScope c defining st.scope } = .error .cancelled _ :=
      if_pos (decide_eq_true ⟨rfl, rfl, rfl⟩)
    rw [Runner.construct_closure, Runner.construct_closure, Runner.call_of_body hlevel hlt,
      Runner.call_of_body hlevel hlt, Step.bind_error _ halarm] at heq
    -- neither of the two is changed on the way out of the block
    have hout (x : Exit) (hx : ∀ file source, Runner.inFile file source x = x) :
        c.leaving st.scope.file x = x := by
      unfold Closure.leaving
      split
      · rfl
      · exact hx _ _
    injection heq with hexit
    rw [hout .cancelled fun _ _ => rfl, hout .exhausted fun _ _ => rfl] at hexit
    cases hexit
  · refine ⟨fun ⟨fuel, alarm, hheard⟩ => absurd ?_ hheard, fun hlt => absurd hlt (by omega)⟩
    dsimp only
    rw [construct_of_deep hlevel hge, construct_of_deep hlevel hge]

/-- The watch over calls. -/
def Watch.counting (setting : Setting) : Watch setting Moment.CountsBodies where
  regime := Regime.counting setting
  at_moment := by
    intro active task outer files st isOver hat
    obtain ⟨hdepth, hbound, hknows, -⟩ : (Regime.counting setting (bodies
        (⟨task, ⟨setting, outer⟩, st, isOver⟩ :: active))).Holds .statement outer files st := by
      cases task <;> exact hat.2
    -- a block that has a name was defined below the scope that names it
    have hlevel (c : Closure) (htask : task = .build (.closure c)) :
        ∃ defining, Scope.atLevel? outer c.level = some defining := by
      subst htask
      obtain ⟨name, hname⟩ := hat.1
      cases outer with
      | nil => cases hname
      | cons s below =>
        have hle := Knows.of_symbol? (fun _ _ => Nat.le_succ_of_le) hknows.2 hname
        exact Scope.exists_atLevel? (Nat.lt_succ_of_le hle)
    refine ⟨hdepth, hbound, fun c htask _ => ?_, fun c htask _ hge r => ?_⟩
    · obtain ⟨defining, hdefining⟩ := hlevel c htask
      subst htask
      rw [visits_body_iff hdefining, hdepth]
      rfl
    · obtain ⟨defining, hdefining⟩ := hlevel c htask
      subst htask
      exact construct_of_deep hdefining (hdepth ▸ hge)
  call {k outer files st name c defining} _ _ hdepth h := by
    refine ⟨fun _ _ => trivial, congrArg (· + 1) h.1, ?_, ?_, h.2.2.2⟩
    · exact h.1 ▸ hdepth
    · exact h.2.2.1.body (fun _ _ => Nat.le_succ_of_le) c defining

/-- **The depth of the active scope is the number of bodies of defined blocks that are active**, at
every moment of every run of every program, however they were called.  It never passes the deepest
call, and a block that is called starts its body exactly if there are fewer. -/
theorem Program.depth_eq_bodies (setting : Setting) (p : Program) (fuel : Nat) :
    Throughout fuel (fun r => r.program { setting } p) p.start Moment.CountsBodies :=
  (Watch.counting setting).throughout fuel (fun _ _ => trivial)
    ⟨rfl, Nat.zero_le _, ⟨⟨Bindings.blocks_empty _, Bindings.blocks_empty _⟩, trivial⟩, rfl⟩

end SceneLang
