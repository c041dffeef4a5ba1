import SceneLang.Proofs.Collapse
import SceneLang.Proofs.Resemblance
import Mathlib.Data.List.Forall2

/-!
# Stacks with a gap

When a defined block is called, its body runs on top of all scopes of the caller, but it looks names
up from the scope of its definition outwards.  The scopes between the two are a gap in the stack: no
name is looked up there.  `Raised` relates a stack to the same stack with a gap in it.  Above the
gap everything stands higher, and so do the heights by which blocks and scopes remember where they
belong (`Gap.raise`); apart from that, and from where nodes were written, the scopes are the same.

Names stand for the same in both stacks (`Lifted.symbol`, `Lifted.visibleNames`), and a body that is
entered in both starts from the same scope (`Scope.Raised.body`), whatever the gap consists of.
-/

namespace SceneLang

/-! ### Heights above a gap -/

/-- **A gap in a stack**: `size` scopes above the `low` lowest ones. -/
structure Gap where
  low : Nat
  size : Nat

/-- **A height of a stack, when there is a gap in it.** -/
def Gap.raise (g : Gap) (height : Nat) : Nat :=
  if height < g.low then height else height + g.size

theorem Gap.raise_of_lt {g : Gap} {height : Nat} (h : height < g.low) : g.raise height = height :=
  if_pos h

theorem Gap.raise_of_le {g : Gap} {height : Nat} (h : g.low ≤ height) :
    g.raise height = height + g.size :=
  if_neg (Nat.not_lt_of_le h)

/-- A defined block in the stack with the gap. -/
def Closure.raise (g : Gap) (c : Closure) : Closure := { c with level := g.raise c.level }

/-- What a name stands for, without places; blocks keep the source and the file that they tell in
messages. -/
def Symbol.unmarked : Symbol → Symbol
  | .constant v => .constant v.bare
  | symbol => symbol

/-- What a name stands for in the stack with the gap, without places. -/
def Symbol.raise (g : Gap) : Symbol → Symbol
  | .closure c => .closure (c.raise g)
  | .constant v => .constant v.bare
  | symbol => symbol

variable {g : Gap}

/-- **What a name stands for in both stacks.** -/
inductive Symbol.Raised (g : Gap) : Symbol → Symbol → Prop
  | command (c : Command) : Raised g (.command c) (.command c)
  | property (p : Property) : Raised g (.property p) (.property p)
  | shape (s : Shape) : Raised g (.shape s) (.shape s)
  | closure (c : Closure) : Raised g (.closure c) (.closure (c.raise g))
  | constant {v v' : Value} (h : v.Akin False v') : Raised g (.constant v) (.constant v')

namespace Symbol.Raised

variable {y y' : Symbol}

theorem of_unmarked (h : y'.unmarked = y.raise g) : Symbol.Raised g y y' := by
  cases y with
  | closure c =>
    cases y' with
    | closure c' =>
      obtain rfl := Symbol.closure.inj h
      exact .closure c
    | _ => cases h
  | constant v =>
    cases y' with
    | constant v' => exact .constant (.of_bare (Symbol.constant.inj h))
    | _ => cases h
  | _ =>
    cases y' <;> cases h
    constructor

theorem unmarked (h : Symbol.Raised g y y') : y'.unmarked = y.raise g := by
  cases h with
  | constant h => exact congrArg Symbol.constant h.bare
  | _ => rfl

theorem blockType? (h : Symbol.Raised g y y') : y'.blockType? = y.blockType? := by
  cases h <;> rfl

end Symbol.Raised

/-! ### Tables -/

/-- **Tables of names in both stacks.** -/
def Bindings.Raised (g : Gap) (b b' : Bindings Symbol) : Prop :=
  b'.map Symbol.unmarked = b.map (Symbol.raise g)

namespace Bindings.Raised

variable {b b' other other' : Bindings Symbol}

theorem empty : Bindings.Raised g .empty .empty := rfl

theorem names (h : b.Raised g b') : b'.names = b.names := by
  rw [← names_map Symbol.unmarked b', h, names_map]

theorem get? (h : b.Raised g b') (name : String) :
    (b'.get? name).map Symbol.unmarked = (b.get? name).map (Symbol.raise g) := by
  rw [← get?_map, h, get?_map]

theorem set (h : b.Raised g b') (name : String) {y y' : Symbol} (hy : y.Raised g y') :
    (b.set name y).Raised g (b'.set name y') := by
  unfold Bindings.Raised
  rw [map_set, map_set, h, hy.unmarked]

theorem update (h : b.Raised g b') (hother : other.Raised g other') :
    (b.update other).Raised g (b'.update other') := by
  unfold Bindings.Raised
  rw [map_update, map_update, h, hother]

/-- Blocks that were defined below the gap stay where they are. -/
theorem of_blocks (h : b.Blocks fun c => c.level < g.low) : b.Raised g b := by
  obtain ⟨entries⟩ := b
  simp only [Bindings.Raised, map, Bindings.mk.injEq]
  refine List.map_congr_left fun e he => ?_
  obtain ⟨name, symbol⟩ := e
  cases symbol with
  | closure c =>
    have hlow : c.level < g.low := h name c he
    simp only [Symbol.unmarked, Symbol.raise, Closure.raise, Gap.raise_of_lt hlow]
  | _ => rfl

end Bindings.Raised

/-! ### Scopes and stacks -/

/-- **A scope in both stacks**, apart from its parent. -/
structure Scope.Raised (g : Gap) (s s' : Scope) : Prop where
  seen : s.Resembles s'
  definitions : s.definitions.Raised g s'.definitions
  callerDefinitions : s.callerDefinitions.Raised g s'.callerDefinitions

/-- **A stack, and the same stack with a gap in it.** -/
inductive Raised (g : Gap) : List Scope → List Scope → Prop
  | gap {stack stack' between : List Scope} (hlow : stack.length = g.low)
    (hsize : between.length = g.size)
    (h : List.Forall₂ (fun s s' => s.Raised g s' ∧ s'.parent = s.parent) stack stack') :
    Raised g stack (between ++ stack')
  | above {s s' : Scope} {stack stack' : List Scope} (hs : s.Raised g s')
    (hparent : s'.parent = s.parent.map g.raise) (h : Raised g stack stack') :
    Raised g (s :: stack) (s' :: stack')

/-- Nothing in the gap is looked at from below it. -/
theorem Scope.chainFrom_append (above : List Scope) {stack : List Scope} {height : Nat}
    (h : height < stack.length) : chainFrom (above ++ stack) height = chainFrom stack height := by
  induction above with
  | nil => rfl
  | cons s rest ih =>
    rw [List.cons_append, chainFrom, if_neg (by simp; omega), ih]

namespace Raised

variable {stack stack' : List Scope} {s s' : Scope}

theorem low_le (h : Raised g stack stack') : g.low ≤ stack.length := by
  induction h with
  | gap hlow => exact Nat.le_of_eq hlow.symm
  | above _ _ _ ih => exact Nat.le_succ_of_le ih

theorem length (h : Raised g stack stack') : stack'.length = stack.length + g.size := by
  induction h with
  | gap hlow hsize h => rw [List.length_append, hsize, ← h.length_eq, Nat.add_comm]
  | above _ _ _ ih => rw [List.length_cons, ih, List.length_cons]; omega

theorem raise_length (h : Raised g stack stack') : g.raise stack.length = stack'.length := by
  rw [Gap.raise_of_le h.low_le, h.length]

/-- The way outwards from a height below the gap. -/
theorem chainFrom_low
    (h : List.Forall₂ (fun s s' => s.Raised g s' ∧ s'.parent = s.parent) stack stack')
    (height : Nat) : List.Forall₂ (Scope.Raised g) (Scope.chainFrom stack height)
      (Scope.chainFrom stack' height) := by
  induction h generalizing height with
  | nil => exact .nil
  | @cons s s' stack stack' hs h ih =>
    rw [Scope.chainFrom, Scope.chainFrom, ← h.length_eq, hs.2]
    split
    · refine .cons hs.1 ?_
      cases s.parent with
      | none => exact .nil
      | some p => exact ih p
    · exact ih height

/-- **The way outwards** passes over the gap. -/
theorem chainFrom (h : Raised g stack stack') (height : Nat) :
    List.Forall₂ (Scope.Raised g) (Scope.chainFrom stack height)
      (Scope.chainFrom stack' (g.raise height)) := by
  induction h generalizing height with
  | @gap stack stack' between hlow hsize h =>
    have hlength := h.length_eq
    -- a height below the gap stays, and at other heights there is nothing yet
    rcases Nat.lt_or_ge height g.low with hlt | hge
    · rw [Gap.raise_of_lt hlt, Scope.chainFrom_append between (by omega)]
      exact chainFrom_low h height
    · rw [Gap.raise_of_le hge, Scope.chainFrom_of_le (by omega),
        Scope.chainFrom_of_le (by rw [List.length_append]; omega)]
      exact .nil
  | @above s s' stack stack' hs hparent h ih =>
    have hlow := h.low_le
    have hlength := h.length
    -- the scope on top is meant in both stacks, or in neither
    have htop : stack'.length = g.raise height ↔ stack.length = height := by
      unfold Gap.raise
      split <;> omega
    rw [Scope.chainFrom, Scope.chainFrom, hparent]
    simp only [htop]
    split
    · refine .cons hs ?_
      cases s.parent with
      | none => exact .nil
      | some p => exact ih p
    · exact ih height

end Raised

namespace Scope.Raised

variable {way way' : List Scope} {s s' : Scope}

theorem findDefinition? (h : List.Forall₂ (Scope.Raised g) way way') (name : String) :
    (Scope.findDefinition? way' name).map Symbol.unmarked
      = (Scope.findDefinition? way name).map (Symbol.raise g) := by
  induction h with
  | nil => rfl
  | @cons s s' rest rest' hs _ ih =>
    have hget := hs.definitions.get? name
    rw [Scope.findDefinition?, Scope.findDefinition?]
    rcases option_of_map_eq hget with ⟨hnone, hnone'⟩ | ⟨y, y', hy, hy', hsymbol⟩
    · rw [hnone, hnone']
      exact ih
    · rw [hy, hy']
      exact congrArg some hsymbol

/-- The names on a way outwards, inner ones hiding outer ones. -/
theorem update (h : List.Forall₂ (Scope.Raised g) way way') :
    Bindings.Raised g (way.reverse.foldl (fun b s => b.update s.definitions) .empty)
      (way'.reverse.foldl (fun b s => b.update s.definitions) .empty) := by
  simp only [List.foldl_reverse]
  induction h with
  | nil => exact .empty
  | cons hs _ ih => exact ih.update hs.definitions

/-- The sides of a polygon are a number in both stacks, or in neither. -/
theorem sides (h : s.Raised g s') : s'.sides = s.sides := by
  have hget := h.definitions.get? "sides"
  unfold Scope.sides Scope.option?
  rcases option_of_map_eq hget with ⟨hnone, hnone'⟩ | ⟨y, y', hy, hy', hsymbol⟩
  · rw [hnone, hnone']
  · rw [hy, hy']
    cases Symbol.Raised.of_unmarked hsymbol with
    | @constant v v' hv =>
      cases v with
      | mesh n =>
        obtain ⟨n', rfl, -⟩ := Value.exists_of_bare_mesh hv.bare
        rfl
      | tuple vs =>
        obtain ⟨vs', rfl, -⟩ := hv.exists_tuple
        rfl
      | _ => rw [hv.eq rfl]
    | _ => rfl

/-- The scope of a block that is called in both stacks. -/
theorem push (h : s.Raised g s') (level level' : Nat) (block : BlockType) :
    (s.push level block).Raised g (s'.push level' block) := by
  refine ⟨?_, .empty, .empty⟩
  have hseen (s : Scope) (level : Nat) : (s.push level block).seen = (s.seen.push 0 block).seen :=
    rfl
  unfold Scope.Resembles
  rw [hseen s', hseen s, h.seen]

theorem pushDefinition (h : s.Raised g s') (level level' : Nat) :
    (s.pushDefinition level).Raised g (s'.pushDefinition level') := by
  refine ⟨?_, .empty, .empty⟩
  have hseen (s : Scope) (level : Nat) :
      (s.pushDefinition level).seen = (s.seen.pushDefinition 0).seen := rfl
  unfold Scope.Resembles
  rw [hseen s', hseen s, h.seen]

theorem pushLoop (h : s.Raised g s') (level level' : Nat) :
    (s.pushLoop level).Raised g (s'.pushLoop level') :=
  ⟨h.seen, .empty, h.callerDefinitions⟩

/-- What the scope around a loop takes over from a turn. -/
theorem absorb (h : s.Raised g s') {t t' : Scope} (ht : t.Raised g t') :
    (s.absorb t).Raised g (s'.absorb t') := by
  refine ⟨?_, h.definitions, h.callerDefinitions⟩
  have hseen (s t : Scope) : (s.absorb t).seen = s.seen.absorb t.seen := rfl
  unfold Scope.Resembles
  rw [hseen, hseen, h.seen, ht.seen]

/-- The children of a block that is called with them. -/
theorem gather (h : s.Raised g s') {vs vs' : List Value} (hvs : Value.AllAkin False vs vs')
    (name : String) (place : SourceRange) :
    (∃ x, Runner.gather name place vs s = .error x ∧ Runner.gather name place vs' s' = .error x) ∨
    ∃ t t', Runner.gather name place vs s = .ok t ∧ Runner.gather name place vs' s' = .ok t' ∧
      t.Raised g t' ∧ t.parent = s.parent ∧ t'.parent = s'.parent := by
  rcases except_of_map_eq (h.seen.gather hvs name place) with hx | ⟨t, t', ht, ht', hseen⟩
  · exact .inl hx
  · -- only children are added
    obtain ⟨ws, rfl, -⟩ := Runner.gather_gains ht
    obtain ⟨ws', rfl, -⟩ := Runner.gather_gains ht'
    exact .inr ⟨_, _, ht, ht', ⟨hseen, h.definitions, h.callerDefinitions⟩, rfl, rfl⟩

/-- **The scope of the body of a block that is called.** -/
theorem body {defining defining' : Scope} (hdefining : defining.Raised g defining')
    (h : s.Raised g s') (c : Closure) :
    (Runner.bodyScope c defining s).Raised g (Runner.bodyScope (c.raise g) defining' s') := by
  refine ⟨?_, h.callerDefinitions.update h.definitions, .empty⟩
  have hseen (c : Closure) (defining s : Scope) : (Runner.bodyScope c defining s).seen
      = { (defining.seen.pushDefinition 0).seen with
          depth := s.seen.depth + 1
          children := s.seen.children
          name := s.seen.name
          transform := s.seen.transform
          opacity := s.seen.opacity
          detail := s.seen.detail } := rfl
  unfold Scope.Resembles
  rw [hseen, hseen, hdefining.seen, h.seen]

end Scope.Raised

/-! ### States above a gap -/

/-- **A state above the gap, and the same state in the stack without it.** -/
structure Lifted (g : Gap) (outer outer' : List Scope) (st st' : State) : Prop where
  scope : st.scope.Raised g st'.scope
  parent : st'.scope.parent = st.scope.parent.map g.raise
  below : Raised g outer outer'
  world : st'.world.seen = st.world.seen

namespace Lifted

variable {outer outer' : List Scope} {st st' : State} {s s' : Scope} {setting : Setting}
  {α β : Type} {V : α → β → Prop}

theorem resembles (h : Lifted g outer outer' st st') : st.Resembles st' := ⟨h.scope.seen, h.world⟩

theorem stack (h : Lifted g outer outer' st st') :
    Raised g (st.scope :: outer) (st'.scope :: outer') :=
  .above h.scope h.parent h.below

theorem chain (h : Lifted g outer outer' st st') :
    List.Forall₂ (Scope.Raised g) (Scope.chain (st.scope :: outer))
      (Scope.chain (st'.scope :: outer')) := by
  have hchain := h.stack.chainFrom outer.length
  rw [h.below.raise_length] at hchain
  exact hchain

/-- **A name stands for the same** in both stacks. -/
theorem symbol (h : Lifted g outer outer' st st') (name : String) :
    (Scope.symbol? (st.scope :: outer) name = none ∧
      Scope.symbol? (st'.scope :: outer') name = none) ∨
    ∃ y y', Scope.symbol? (st.scope :: outer) name = some y ∧
      Scope.symbol? (st'.scope :: outer') name = some y' ∧ y.Raised g y' := by
  have htable := h.scope.seen.read Scope.table (fun _ => rfl) fun _ _ => rfl
  -- no standard name stands for a defined block, so the table has nothing to raise
  have hstandard : st.scope.table.symbols.Raised g st.scope.table.symbols :=
    .of_blocks (st.scope.table.blocks_symbols _)
  have hname : (Scope.symbol? (st'.scope :: outer') name).map Symbol.unmarked
      = (Scope.symbol? (st.scope :: outer) name).map (Symbol.raise g) := by
    have hfind := Scope.Raised.findDefinition? h.chain name
    rw [Scope.symbol?, Scope.symbol?, Scope.standard, Scope.standard, htable]
    rcases option_of_map_eq hfind with ⟨hnone, hnone'⟩ | ⟨y, y', hy, hy', hsymbol⟩
    · rw [hnone, hnone']
      exact hstandard.get? name
    · rw [hy, hy']
      exact congrArg some hsymbol
  rcases option_of_map_eq hname with hnone | ⟨y, y', hy, hy', hsymbol⟩
  · exact .inl hnone
  · exact .inr ⟨y, y', hy, hy', .of_unmarked hsymbol⟩

theorem visibleDefinitions (h : Lifted g outer outer' st st') :
    (Scope.visibleDefinitions (st.scope :: outer)).Raised g
      (Scope.visibleDefinitions (st'.scope :: outer')) :=
  Scope.Raised.update h.chain

theorem visibleNames (h : Lifted g outer outer' st st') :
    Scope.visibleNames (st'.scope :: outer') = Scope.visibleNames (st.scope :: outer) := by
  have htable := h.scope.seen.read Scope.table (fun _ => rfl) fun _ _ => rfl
  have hstandard : st.scope.table.symbols.Raised g st.scope.table.symbols :=
    .of_blocks (st.scope.table.blocks_symbols _)
  rw [Scope.visibleNames, Scope.visibleNames, Scope.standard, Scope.standard, htable]
  exact (hstandard.update h.visibleDefinitions).names

/-- The scope of a definition, in both stacks. -/
theorem atLevel (h : Raised g outer outer') (level : Nat) :
    (Scope.atLevel? outer level = none ∧ Scope.atLevel? outer' (g.raise level) = none) ∨
    ∃ s s', Scope.atLevel? outer level = some s ∧
      Scope.atLevel? outer' (g.raise level) = some s' ∧ s.Raised g s' := by
  have hchain := h.chainFrom level
  unfold Scope.atLevel?
  generalize Scope.chainFrom outer level = way at hchain
  generalize Scope.chainFrom outer' (g.raise level) = way' at hchain
  cases hchain with
  | nil => exact .inl ⟨rfl, rfl⟩
  | cons hs _ => exact .inr ⟨_, _, rfl, rfl, hs⟩

/-! ### Steps and scopes that are entered -/

/-- **A step that runs no script.** -/
theorem step (h : Lifted g outer outer' st st') {effect : Effect} {blame : Blame} {act : Eval α}
    {act' : Eval β} (hact : Primitive (fun _ => True) effect blame act)
    (hact' : Primitive (fun _ => True) effect blame act')
    (hres : Matches State.Resembles V (act st) (act' st')) :
    Matches (Lifted g outer outer') V (act st) (act' st') := by
  -- in both runs the scope keeps its place and its names
  have hscope := (hact.frame st).statement.scope
  have hscope' := (hact'.frame st').statement.scope
  have hnames := hact.definitions st
  have hnames' := hact'.definitions st'
  have hlift {st₁ st₁' : State} (hst : st₁.Resembles st₁')
      (hs : st.scope.Extends st₁.scope) (hs' : st'.scope.Extends st₁'.scope)
      (hd : st₁.scope.definitions = st.scope.definitions)
      (hd' : st₁'.scope.definitions = st'.scope.definitions) :
      Lifted g outer outer' st₁ st₁' := by
    refine ⟨⟨hst.scope, ?_, ?_⟩, ?_, h.below, hst.world⟩
    · rw [hd, hd']
      exact h.scope.definitions
    · rw [hs.callerDefinitions, hs'.callerDefinitions]
      exact h.scope.callerDefinitions
    · rw [hs.parent, hs'.parent]
      exact h.parent
  generalize act st = res at hres hscope hnames
  generalize act' st' = res' at hres hscope' hnames'
  cases hres with
  | ok hv hst => exact .ok hv (hlift hst hscope hscope' hnames hnames')
  | error x hst => exact .error x (hlift hst hscope hscope' hnames hnames')

/-- A scope that is entered. -/
theorem enter (h : Lifted g outer outer' st st') (hs : s.Raised g s')
    (hparent : s'.parent = s.parent.map g.raise) :
    Lifted g (st.scope :: outer) (st'.scope :: outer') { st with scope := s }
      { st' with scope := s' } :=
  ⟨hs, hparent, h.stack, h.world⟩

/-- A scope that is entered from the active one. -/
theorem inner (h : Lifted g outer outer' st st') (hs : s.Raised g s')
    (hparent : s.parent = some outer.length) (hparent' : s'.parent = some outer'.length) :
    Lifted g (st.scope :: outer) (st'.scope :: outer') { st with scope := s }
      { st' with scope := s' } := by
  refine h.enter hs ?_
  rw [hparent, hparent', Option.map_some, h.below.raise_length]

/-- **A block**: the scope around it is as it was, in both runs. -/
theorem block (h : Lifted g outer outer' st st') {act act' : Env → Eval α} {V : α → α → Prop}
    (hact : Matches (Lifted g (st.scope :: outer) (st'.scope :: outer')) V
      (act ⟨setting, st.scope :: outer⟩ { st with scope := s })
      (act' ⟨setting, st'.scope :: outer'⟩ { st' with scope := s' })) :
    Matches (Lifted g outer outer') V
      (Env.inside ⟨setting, outer⟩ s Env.leaveBlock act st)
      (Env.inside ⟨setting, outer'⟩ s' Env.leaveBlock act' st') := by
  rw [Env.inside_apply, Env.inside_apply]
  exact hact.settle fun _ _ h₁ => ⟨h.scope, h.parent, h.below, h₁.world⟩

/-- **A turn of a loop**: the scope around it takes over, in both runs. -/
theorem turn (h : Lifted g outer outer' st st') {act act' : Env → Eval α} {V : α → α → Prop}
    (hact : Matches (Lifted g (st.scope :: outer) (st'.scope :: outer')) V
      (act ⟨setting, st.scope :: outer⟩ { st with scope := s })
      (act' ⟨setting, st'.scope :: outer'⟩ { st' with scope := s' })) :
    Matches (Lifted g outer outer') V
      (Env.inside ⟨setting, outer⟩ s Env.leaveLoop act st)
      (Env.inside ⟨setting, outer'⟩ s' Env.leaveLoop act' st') := by
  rw [Env.inside_apply, Env.inside_apply]
  refine hact.settle fun _ _ h₁ => ?_
  exact ⟨h.scope.absorb h₁.scope, h.parent, h.below, h₁.world⟩

end Lifted

end SceneLang
