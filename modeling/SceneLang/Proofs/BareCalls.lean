import SceneLang.Proofs.LoopTurns
import SceneLang.Proofs.RaisedStatements

/-!
# Bare calls

A defined block is called bare when nothing stands after its name.  From such a caller its body
takes the depth of the call, the opacity and the level of detail, and nothing else
(`Runner.bodyScope_push`).  Everything that the caller has defined lies in the gap above the scope
of the definition, which a body overlooks.  So two callers that agree on these three, and on the
file that they stand in, get the same from the same block (`bare_calls_are_lexical`).

What they get may differ in where nodes were written.  A call that is a statement marks the scope
that it stands in, and a body starts with the mark of the scope of its definition.  If the two are
one and the same, nodes of the body remember the call, and otherwise they do not.  A host that
prints nodes shows the difference (`Shown.notices_differ`).
-/

namespace SceneLang

/-! ### The body of a bare call -/

/-- **The scope in which the body of a block starts that is called bare**: of the caller it has
nothing but the depth, the opacity and the detail. -/
def Closure.bareScope (c : Closure) (defining caller : Scope) : Scope :=
  { defining.pushDefinition c.level with
    depth := caller.depth + 1
    opacity := caller.opacity
    detail := caller.detail }

theorem Runner.bodyScope_push (c : Closure) (defining s : Scope) (level : Nat) :
    Runner.bodyScope c defining (s.push level c.blockType) = c.bareScope defining s := rfl

/-- Scopes that differ in nothing but where their statements stand. -/
def Scope.Remarked (s s' : Scope) : Prop := s' = { s with sourceIndex := s'.sourceIndex }

/-- What is known of a stack is known of the scopes further down. -/
theorem Knows.of_append {known : Nat → Closure → Prop} {above base : List Scope}
    (h : Knows known (above ++ base)) : Knows known base := by
  induction above with
  | nil => exact h
  | cons s rest ih => exact ih h.2

/-- **The scopes below a gap**, if no block that they name was defined above it. -/
theorem Raised.forall₂_of_grounded {g : Gap} {base base' : List Scope} (h : Scope.Grounded base)
    (hlow : base.length ≤ g.low) (hbase : List.Forall₂ Scope.Remarked base base') :
    List.Forall₂ (fun s s' => s.Raised g s' ∧ s'.parent = s.parent) base base' := by
  induction hbase with
  | nil => exact .nil
  | @cons s s' rest rest' hs hrest ih =>
    rw [List.length_cons] at hlow
    have hblocks {b : Bindings Symbol} (hb : b.Blocks fun c => c.level ≤ rest.length) :
        b.Raised g b :=
      .of_blocks (hb.mono fun c hc => Nat.lt_of_le_of_lt hc hlow)
    refine .cons ?_ (ih h.2 (Nat.le_of_succ_le hlow))
    rw [hs]
    exact ⟨⟨rfl, hblocks h.1.1, hblocks h.1.2⟩, rfl⟩

/-- A scope on top of a stack that is marked, in the stack and in what lies at the bottom of it. -/
theorem Scope.Remarked.append {s s' : Scope} {outer above base : List Scope} (hs : s.Remarked s')
    (hstack : s :: outer = above ++ base) :
    ∃ above' base', s' :: outer = above' ++ base' ∧ above'.length = above.length ∧
      List.Forall₂ Remarked base base' := by
  have hrefl (stack : List Scope) : List.Forall₂ Remarked stack stack :=
    List.forall₂_same.mpr fun _ _ => rfl
  cases above with
  | nil =>
    subst hstack
    exact ⟨[], s' :: outer, rfl, rfl, .cons hs (hrefl outer)⟩
  | cons t rest =>
    obtain ⟨rfl, rfl⟩ := List.cons.inj hstack
    exact ⟨s' :: rest, base, rfl, rfl, hrefl base⟩

/-- **What a body gives that runs right on the scope of its definition**, as if the caller were not
there. -/
def Runner.direct (r : Runner) (setting : Setting) (base : List Scope)
    (c : Closure) (scope : Scope) (world : World) : EStateM.Result Exit State Value :=
  if Runner.deepestCall < scope.depth then
    .error (.unplaced (.assertionFailure "Too much recursion")) ⟨scope, world⟩
  else
    (r.body ⟨setting, base⟩ c.body >>= fun _ => Eval.scope >>= fun s =>
      Step.ofExcept (Runner.resultOf s)) ⟨scope, world⟩

section Calls

variable {c : Closure} {defining s s' : Scope} {below outer above : List Scope}

/-- **A bare call does what its body does on the scope of the definition.** -/
theorem call_matches_direct (fuel : Nat) (setting : Setting) (world : World)
    (hlevel : below.length = c.level) (hgrounded : Scope.Grounded (defining :: below))
    (hs : s.Remarked s') (hstack : s :: outer = above ++ defining :: below) :
    Matches (fun st st' => st'.world.seen = st.world.seen) (Value.Akin False)
      ((Runner.ofFuel fuel).direct setting (defining :: below) c (c.bareScope defining s)
        world)
      ((Runner.ofFuel fuel).call ⟨setting, s' :: outer⟩ c
        ⟨s'.push outer.length c.blockType, world⟩) := by
  obtain ⟨above', base', hstack', habove, hbase⟩ := hs.append hstack
  obtain ⟨defining', below', hdefining, hbelow, rfl⟩ :
      ∃ defining' below', defining.Remarked defining' ∧
        List.Forall₂ Scope.Remarked below below' ∧ base' = defining' :: below' := by
    cases hbase with
    | cons hd hb => exact ⟨_, _, hd, hb, rfl⟩
  have hlevel' : below'.length = c.level := hbelow.length_eq ▸ hlevel
  -- seen from the caller, the scope of the definition is where the block remembers it
  have hat : Scope.atLevel? (s' :: outer) c.level = some defining' := by
    rw [hstack', Scope.atLevel?, Scope.chainFrom_append above' (by simp [hlevel']),
      ← Scope.atLevel?, Scope.atLevel?_cons, if_pos hlevel']
  have hdepth : s'.depth = s.depth := by rw [hs]
  have hscope : (c.bareScope defining s).depth = s.depth + 1 := rfl
  rw [Runner.direct, hscope]
  rcases Nat.lt_or_ge s.depth Runner.deepestCall with hlt | hge
  · rw [Runner.call_of_body hat (hdepth ▸ hlt), if_neg (Nat.not_lt_of_le hlt)]
    -- the callers stand between the body and the scope of its definition
    let g : Gap := ⟨c.level + 1, above.length + 1⟩
    have hraised : Raised g (defining :: below)
        (s'.push outer.length c.blockType :: s' :: outer) := by
      rw [hstack', ← List.cons_append]
      refine .gap (congrArg (· + 1) hlevel) (congrArg (· + 1) habove) ?_
      exact Raised.forall₂_of_grounded hgrounded (Nat.le_of_eq (congrArg (· + 1) hlevel)) hbase
    have hseen : (c.bareScope defining s).Resembles (c.bareScope defining' s') := by
      rw [hs, hdefining]
      rfl
    have hparent : some c.level = (some c.level).map g.raise :=
      congrArg some (Gap.raise_of_lt (Nat.lt_succ_self c.level)).symm
    have hbody : Lifted g (defining :: below) (s'.push outer.length c.blockType :: s' :: outer)
        ⟨c.bareScope defining s, world⟩ ⟨c.bareScope defining' s', world⟩ :=
      ⟨⟨hseen, .empty, .empty⟩, hparent, hraised, rfl⟩
    have hvalue := (overlooks_ofFuel g setting fuel).bodyValue c.body hbody
    rw [Runner.bodyScope_push]
    exact hvalue.settle_right fun _ _ hM => hM.world
  · rw [Runner.call_of_deep hat (hdepth ▸ hge), if_pos (Nat.lt_succ_of_le hge)]
    exact .error _ rfl

end Calls

/-! ### Bare calls and what they end with -/

/-- **A bare call**: a name with nothing after it, as a statement or as an expression. -/
inductive BareCall where
  | statement (callee : Identifier)
  | expression (range : SourceRange) (name : String)

namespace BareCall

/-- The name that is called. -/
def name : BareCall → String
  | .statement callee => callee.name
  | .expression _ name => name

/-- Where the call stands. -/
def range : BareCall → SourceRange
  | .statement callee => callee.range
  | .expression range _ => range

/-- The scope of the caller when the block is built: a statement says where it was written. -/
def marked (s : Scope) : BareCall → Scope
  | .statement callee => { s with sourceIndex := some callee.range.start }
  | .expression _ _ => s

/-- **The value of a bare call.** -/
def value (r : Runner) (env : Env) : BareCall → Eval Value
  | .statement callee => do
    Runner.mark callee.range.start
    r.identifier env callee.range callee.name
  | .expression range name => r.identifier env range name

/-- **How the call is run**: an expression gives its value, and a statement adds it to the children
of the scope that it stands in. -/
def RunBy (r : Runner) (env : Env) (st : State) : BareCall → Prop
  | .statement callee =>
    r.command env callee none st = (value r env (.statement callee) >>= fun v =>
      Step.locate callee.range (Eval.addValue v)) st
  | .expression range name =>
    r.evaluate env (.identifier range name) st = value r env (.expression range name) st

/-- **Two calls end alike**: with values that are the same without places, or for the same reason,
apart from a range that the call fills in.  What the host has heard is the same without places, and
the rest of the world is the same. -/
inductive EndAlike (call₁ call₂ : BareCall) :
    EStateM.Result Exit State Value → EStateM.Result Exit State Value → Prop
  | value {v₁ v₂ : Value} {st₁ st₂ : State} (hvalue : v₂.bare = v₁.bare)
    (hworld : st₂.world.seen = st₁.world.seen) : EndAlike call₁ call₂ (.ok v₁ st₁) (.ok v₂ st₂)
  | stop {st₁ st₂ : State} (x : Exit) (hworld : st₂.world.seen = st₁.world.seen) :
    EndAlike call₁ call₂ (.error (x.located call₁.range) st₁) (.error (x.located call₂.range) st₂)

/-- Blocks that are built alike, with the callers as they were and the range of the call filled
in. -/
theorem EndAlike.of_matches {call₁ call₂ : BareCall} {res₁ res₂ : EStateM.Result Exit State Value}
    (h : Matches (fun st₁ st₂ => st₂.world.seen = st₁.world.seen) (fun v₁ v₂ => v₂.bare = v₁.bare)
      res₁ res₂) (s₁ s₂ : Scope) :
    EndAlike call₁ call₂
      (Result.mapExit (Exit.located call₁.range)
        (Result.settle (fun st => { st with scope := s₁ }) res₁))
      (Result.mapExit (Exit.located call₂.range)
        (Result.settle (fun st => { st with scope := s₂ }) res₂)) := by
  cases h with
  | ok hvalue hworld => exact .value hvalue hworld
  | error x hworld => exact .stop x hworld

theorem remarked (s : Scope) (call : BareCall) : s.Remarked (call.marked s) := by
  cases call <;> rfl

/-- A mark changes nothing about names. -/
theorem symbol?_marked (call : BareCall) (s : Scope) (outer : List Scope) (name : String) :
    Scope.symbol? (call.marked s :: outer) name = Scope.symbol? (s :: outer) name := by
  have hs : s.Extends (call.marked s) ∧ (call.marked s).definitions = s.definitions := by
    rw [call.remarked s]
    exact ⟨.of_eq rfl, rfl⟩
  exact Scope.symbol?_congr outer name hs.1 hs.2

section Value

variable {r : Runner} {setting : Setting} {outer : List Scope} {s : Scope} {world : World}
  {call : BareCall} {c : Closure}

/-- **A bare call builds the block in a scope of its own**, and script errors without a range get
that of the call. -/
theorem value_apply (hname : Scope.symbol? (s :: outer) call.name = some (.closure c)) :
    call.value r ⟨setting, outer⟩ ⟨s, world⟩
      = Result.mapExit (Exit.located call.range)
          (r.buildIn ⟨setting, outer⟩ ((call.marked s).push outer.length c.blockType)
            (.closure c) ⟨call.marked s, world⟩) := by
  -- a statement marks its scope and then does what an expression does
  have hvalue : call.value r ⟨setting, outer⟩ ⟨s, world⟩
      = r.identifier ⟨setting, outer⟩ call.range call.name ⟨call.marked s, world⟩ := by
    cases call <;> rfl
  rw [← call.symbol?_marked] at hname
  rw [hvalue]
  simp only [Runner.identifier, Env.symbol?_bind, hname]
  rfl

theorem runBy (hname : Scope.symbol? (s :: outer) call.name = some (.closure c)) :
    call.RunBy r ⟨setting, outer⟩ ⟨s, world⟩ := by
  cases call with
  | expression range name => rfl
  | statement callee =>
    have hvalue : (statement callee).value r ⟨setting, outer⟩ ⟨s, world⟩ = _ :=
      value_apply hname
    have hcommand : r.command ⟨setting, outer⟩ callee none ⟨s, world⟩
        = Result.mapExit (Exit.located callee.range)
            ((r.buildIn ⟨setting, outer⟩
              (((statement callee).marked s).push outer.length c.blockType) (.closure c) >>=
                Eval.addValue) ⟨(statement callee).marked s, world⟩) := by
      have hcallee : Scope.symbol? (s :: outer) callee.name = some (.closure c) := hname
      simp only [Runner.command, Env.symbol?_bind, hcallee]
      rfl
    rw [RunBy, hcommand]
    -- whether the block or the adding of its value fails, the range is that of the call
    cases hbuild : r.buildIn ⟨setting, outer⟩
        (((statement callee).marked s).push outer.length c.blockType) (.closure c)
        ⟨(statement callee).marked s, world⟩ with
    | ok v st₁ =>
      rw [hbuild] at hvalue
      rw [Step.bind_ok _ hbuild, Step.bind_ok _ hvalue]
      rfl
    | error x st₁ =>
      rw [hbuild] at hvalue
      rw [Step.bind_error _ hbuild, Step.bind_error _ hvalue]
      rfl

end Value

end BareCall

/-! ### Callers that agree -/

/-- **Two callers of the same block in the same state of a run.**  The block was defined in the
scope on top of `base`, above which the callers have nothing in common but what a body takes from
them and the file that they stand in. -/
structure SameBlock (c : Closure) (base : List Scope) (s₁ s₂ : Scope) (outer₁ outer₂ : List Scope) :
    Prop where
  height : base.length = c.level + 1
  below₁ : base <:+ s₁ :: outer₁
  below₂ : base <:+ s₂ :: outer₂
  opacity : s₂.opacity = s₁.opacity
  detail : s₂.detail = s₁.detail
  depth : s₂.depth = s₁.depth
  file : s₂.file = s₁.file

namespace SameBlock

variable {c : Closure} {base : List Scope} {s₁ s₂ s₁' s₂' : Scope} {outer₁ outer₂ : List Scope}

/-- **The block is called alike** by both callers: what it does is what its body does alone, and
that sees of the callers only what they agree on. -/
theorem call (h : SameBlock c base s₁ s₂ outer₁ outer₂) (hgrounded : Scope.Grounded base)
    (hs₁ : s₁.Remarked s₁') (hs₂ : s₂.Remarked s₂') (fuel : Nat) (setting : Setting)
    (world : World) :
    Matches (fun st₁ st₂ => st₂.world.seen = st₁.world.seen) (fun v₁ v₂ => v₂.bare = v₁.bare)
      ((Runner.ofFuel fuel).call ⟨setting, s₁' :: outer₁⟩ c
        ⟨s₁'.push outer₁.length c.blockType, world⟩)
      ((Runner.ofFuel fuel).call ⟨setting, s₂' :: outer₂⟩ c
        ⟨s₂'.push outer₂.length c.blockType, world⟩) := by
  obtain ⟨defining, below, rfl⟩ := List.exists_cons_of_length_eq_add_one h.height
  obtain ⟨above₁, hstack₁⟩ := h.below₁
  obtain ⟨above₂, hstack₂⟩ := h.below₂
  have hlevel : below.length = c.level := Nat.succ.inj h.height
  have hscope : c.bareScope defining s₂ = c.bareScope defining s₁ := by
    rw [Closure.bareScope, h.depth, h.opacity, h.detail, Closure.bareScope]
  -- both calls match one and the same run of the body
  have hcall₁ := call_matches_direct fuel setting world hlevel hgrounded hs₁ hstack₁.symm
  have hcall₂ := call_matches_direct fuel setting world hlevel hgrounded hs₂ hstack₂.symm
  rw [hscope] at hcall₂
  refine (hcall₁.pair hcall₂).mono ?_ ?_
  · rintro _ _ ⟨st, hw₁, hw₂⟩
    exact hw₂.trans hw₁.symm
  · rintro _ _ ⟨v, hv₁, hv₂⟩
    exact hv₂.bare.trans hv₁.bare.symm

theorem build (h : SameBlock c base s₁ s₂ outer₁ outer₂) (hgrounded : Scope.Grounded base)
    (hs₁ : s₁.Remarked s₁') (hs₂ : s₂.Remarked s₂') (fuel : Nat) (setting : Setting)
    (world : World) :
    Matches (fun st₁ st₂ => st₂.world.seen = st₁.world.seen) (fun v₁ v₂ => v₂.bare = v₁.bare)
      ((Runner.ofFuel fuel).build ⟨setting, s₁' :: outer₁⟩ (.closure c)
        ⟨s₁'.push outer₁.length c.blockType, world⟩)
      ((Runner.ofFuel fuel).build ⟨setting, s₂' :: outer₂⟩ (.closure c)
        ⟨s₂'.push outer₂.length c.blockType, world⟩) := by
  cases fuel with
  | zero => exact .error .exhausted rfl
  | succ fuel =>
    have hcall := h.call hgrounded hs₁ hs₂ fuel setting world
    have hfile : s₂'.file = s₁'.file := by
      rw [hs₁, hs₂]
      exact h.file
    rw [Runner.ofFuel_succ]
    show Matches _ _ (Runner.callFromFile _ _ c _) (Runner.callFromFile _ _ c _)
    rw [Runner.callFromFile_apply, Runner.callFromFile_apply]
    -- an error in a block of another file says so to both, since they stand in the same file
    show Matches _ _ (if s₁'.file = c.file then _ else _) (if s₂'.file = c.file then _ else _)
    rw [hfile]
    split
    · exact hcall
    · exact hcall.mapExit _

end SameBlock

/-- **Bare calls are lexically scoped.**  Two callers of the same block in the same state of a run
that agree on opacity, detail, depth and file get the same from it, whatever else they are and
whichever way they call it: the same value up to where nodes were written, or the same reason to
stop up to a range that the call fills in.  The host hears the same up to where nodes were written,
and the random numbers and everything else outside of the scopes are the same afterwards. -/
theorem bare_calls_are_lexical (fuel : Nat) (setting : Setting) (world : World) {c : Closure}
    {base : List Scope} {s₁ s₂ : Scope} {outer₁ outer₂ : List Scope}
    (h : SameBlock c base s₁ s₂ outer₁ outer₂) (hgrounded : Scope.Grounded (s₁ :: outer₁))
    (call₁ call₂ : BareCall) (hname₁ : Scope.symbol? (s₁ :: outer₁) call₁.name = some (.closure c))
    (hname₂ : Scope.symbol? (s₂ :: outer₂) call₂.name = some (.closure c)) :
    let r := Runner.ofFuel fuel
    BareCall.EndAlike call₁ call₂ (call₁.value r ⟨setting, outer₁⟩ ⟨s₁, world⟩)
      (call₂.value r ⟨setting, outer₂⟩ ⟨s₂, world⟩) ∧
    call₁.RunBy r ⟨setting, outer₁⟩ ⟨s₁, world⟩ ∧
    call₂.RunBy r ⟨setting, outer₂⟩ ⟨s₂, world⟩ := by
  intro r
  refine ⟨?_, BareCall.runBy hname₁, BareCall.runBy hname₂⟩
  obtain ⟨above, hstack⟩ := h.below₁
  have hbase : Scope.Grounded base := Knows.of_append (hstack ▸ hgrounded)
  have hbuild := h.build hbase (call₁.remarked s₁) (call₂.remarked s₂) fuel setting world
  rw [BareCall.value_apply hname₁, BareCall.value_apply hname₂]
  exact .of_matches hbuild (call₁.marked s₁) (call₂.marked s₂)

namespace Shown

/-- The body of a block that prints a cube. -/
def body : Block := .mk ⟨11, 25⟩ [
  .command ⟨13, 23⟩ ⟨⟨13, 18⟩, "print"⟩ (some (.identifier ⟨19, 23⟩ "cube"))]

/-- The call in a loop. -/
def inLoop : Identifier := ⟨⟨39, 42⟩, "foo"⟩

/-- The call next to the definition. -/
def atRoot : Identifier := ⟨⟨45, 48⟩, "foo"⟩

/-- A program that defines the block and calls it from both places. -/
def program : Program where
  source := "define foo \x7b print cube \x7d\nfor 1 to 1 \x7b foo \x7d\nfoo"
  statements := [
    .define ⟨0, 25⟩ ⟨⟨7, 10⟩, "foo"⟩ (.block body),
    .loop ⟨26, 44⟩ none (.range ⟨30, 36⟩ (.number ⟨30, 31⟩ 1) (.number ⟨35, 36⟩ 1) none)
      (.mk ⟨37, 44⟩ [.command ⟨39, 42⟩ inLoop none]),
    .command ⟨45, 48⟩ atRoot none]

/-- The block. -/
def foo : Closure := ⟨body, .empty, 0, program.source, none⟩

/-- The outermost scope once the block is defined. -/
def root : Scope := { source := program.source, definitions := ⟨[("foo", .closure foo)]⟩ }

/-- The scope of a turn of the loop. -/
def turn : Scope := root.pushLoop 0

/-- A turn that has a cube of its own. -/
def shadowing : Scope := turn.define "cube" (.constant (.number 2))

/-- A host without files. -/
def setting : Setting where
  host := some {
    resolve := fun path => .ok ⟨"/", [path]⟩
    importNode := fun _ => .ok none
    readText := fun _ => .ok "" }

theorem grounded_root : Scope.Grounded [root] := by
  refine ⟨⟨fun name c hc => ?_, Bindings.blocks_empty _⟩, trivial⟩
  cases List.mem_singleton.mp hc
  exact Nat.le_refl 0

/-- The two callers are the scope of the definition and something above it. -/
theorem sameBlock_turn : SameBlock foo [root] root turn [] [root] :=
  ⟨rfl, List.suffix_refl _, List.suffix_cons _ _, rfl, rfl, rfl, rfl⟩

theorem sameBlock_shadowing : SameBlock foo [root] root shadowing [] [root] :=
  ⟨rfl, List.suffix_refl _, List.suffix_cons _ _, rfl, rfl, rfl, rfl⟩

/-- **The block prints a cube for a caller that has a cube of its own**, as it does for a statement
next to its definition. -/
theorem bare_calls_are_lexical_shadowed :
    let statement := BareCall.statement atRoot
    let expression := BareCall.expression ⟨39, 42⟩ "foo"
    SameBlock foo [root] root shadowing [] [root] ∧ Scope.Grounded [root] ∧
    Scope.symbol? [root] "foo" = some (.closure foo) ∧
    Scope.symbol? [shadowing, root] "foo" = some (.closure foo) ∧
    Scope.symbol? [shadowing, root] "cube" = some (.constant (.number 2)) ∧
    BareCall.EndAlike statement expression
      (statement.value (Runner.ofFuel 8) ⟨setting, []⟩ ⟨root, {}⟩)
      (expression.value (Runner.ofFuel 8) ⟨setting, [root]⟩ ⟨shadowing, {}⟩) ∧
    statement.RunBy (Runner.ofFuel 8) ⟨setting, []⟩ ⟨root, {}⟩ ∧
    expression.RunBy (Runner.ofFuel 8) ⟨setting, [root]⟩ ⟨shadowing, {}⟩ :=
  ⟨sameBlock_shadowing, grounded_root, rfl, rfl, rfl,
    bare_calls_are_lexical 8 setting {} sameBlock_shadowing grounded_root _ _ rfl rfl⟩

/-- Whether a node was printed first that has a place. -/
def isFirstPlaced (res : EStateM.Result Exit State Value) : Bool :=
  match (Result.state res).world.notices.toList with
  | .printed [.mesh n] :: _ => n.location.isSome
  | _ => false

/-- **The host hears where a printed node was written, and that depends on the caller**: called next
to its definition the block prints a cube that was written there, and called in the loop it prints a
cube that was written nowhere. -/
theorem notices_differ :
    (Runner.ofFuel 8).statements ⟨setting, []⟩ (program.statements.take 1) program.start
      = .ok () ⟨root, {}⟩ ∧
    SameBlock foo [root] root turn [] [root] ∧ Scope.Grounded [root] ∧
    Scope.symbol? [root] "foo" = some (.closure foo) ∧
    Scope.symbol? [turn, root] "foo" = some (.closure foo) ∧
    (Result.state ((BareCall.statement inLoop).value (Runner.ofFuel 8) ⟨setting, [root]⟩
      ⟨turn, {}⟩)).world.notices
      ≠ (Result.state ((BareCall.statement atRoot).value (Runner.ofFuel 8) ⟨setting, []⟩
          ⟨root, {}⟩)).world.notices := by
  refine ⟨rfl, sameBlock_turn, grounded_root, rfl, rfl, fun heq => ?_⟩
  have hloop : isFirstPlaced ((BareCall.statement inLoop).value (Runner.ofFuel 8)
      ⟨setting, [root]⟩ ⟨turn, {}⟩) = false := by decide +kernel
  have hroot : isFirstPlaced ((BareCall.statement atRoot).value (Runner.ofFuel 8)
      ⟨setting, []⟩ ⟨root, {}⟩) = true := by decide +kernel
  rw [isFirstPlaced, heq, ← isFirstPlaced, hroot] at hloop
  cases hloop

end Shown

end SceneLang
