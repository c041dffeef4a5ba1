import SceneLang.Proofs.Definitions

/-!
# Stacks without the scope of a turn

The statements of a turn of a loop run in a scope of their own, a copy of the scope around the loop.
Run directly, they would act on the scope around the loop itself, and everything above it would
stand one lower.  `Collapsed` relates the stack of the turn to the stack without it.  What names
stand for is the same in both, up to the heights by which blocks remember where they were defined
(`Symbol.lower`), and so is the scope of the body of a block that is called
(`Collapsed.bodyScope`), except for blocks that were defined around the loop: their bodies start
from the copied scope, which does not change before the turn is over, and not from the copy
(`Scope.caughtUp`).
-/

namespace SceneLang

/-! ### Heights without the scope of a turn -/

/-- **A height of the stack without the scope above `level`**, which is taken for the scope at
`level`. -/
def lowered (level height : Nat) : Nat := if height ≤ level then height else height - 1

theorem lowered_of_le {level height : Nat} (h : height ≤ level) : lowered level height = height :=
  if_pos h

theorem lowered_of_lt {level height : Nat} (h : level < height) :
    lowered level height = height - 1 :=
  if_neg (Nat.not_le_of_lt h)

/-- A defined block in the stack without the scope above `level`. -/
def Closure.lower (level : Nat) (c : Closure) : Closure :=
  { c with level := lowered level c.level }

/-- What a name stands for in the stack without the scope above `level`. -/
def Symbol.lower (level : Nat) : Symbol → Symbol
  | .closure c => .closure (c.lower level)
  | symbol => symbol

namespace Bindings

/-- A table in the stack without the scope above `level`. -/
def lower (level : Nat) (b : Bindings Symbol) : Bindings Symbol :=
  ⟨b.entries.map fun e => (e.1, e.2.lower level)⟩

variable (level : Nat)

theorem get?_lower (b : Bindings Symbol) (name : String) :
    (b.lower level).get? name = (b.get? name).map (Symbol.lower level) :=
  get?_map _ b name

theorem lower_set (b : Bindings Symbol) (name : String) (symbol : Symbol) :
    (b.set name symbol).lower level = (b.lower level).set name (symbol.lower level) :=
  map_set _ b name symbol

theorem lower_update (b other : Bindings Symbol) :
    (b.update other).lower level = (b.lower level).update (other.lower level) :=
  map_update _ b other

theorem names_lower (b : Bindings Symbol) : (b.lower level).names = b.names :=
  names_map _ b

theorem update_empty (b : Bindings Symbol) : b.update .empty = b := rfl

variable {level}

/-- Blocks that were defined further out stay where they are. -/
theorem lower_of_blocks {b : Bindings Symbol} (h : b.Blocks fun c => c.level ≤ level) :
    b.lower level = b := by
  obtain ⟨entries⟩ := b
  simp only [lower, Bindings.mk.injEq]
  refine List.map_congr_left (fun e he => ?_) |>.trans (List.map_id _)
  obtain ⟨name, symbol⟩ := e
  cases symbol with
  | closure c =>
    have hle : c.level ≤ level := h name c he
    simp only [Symbol.lower, Closure.lower, lowered_of_le hle, id]
  | _ => rfl

end Bindings

namespace Scope

/-- A scope in the stack without the scope above `level`. -/
def lower (level : Nat) (s : Scope) : Scope :=
  { s with
    parent := s.parent.map (lowered level)
    definitions := s.definitions.lower level
    callerDefinitions := s.callerDefinitions.lower level }

theorem lower_define (level : Nat) (s : Scope) (name : String) (symbol : Symbol) :
    (s.define name symbol).lower level = (s.lower level).define name (symbol.lower level) := by
  simp only [lower, define, Bindings.lower_set]

/-! ### Ways outwards -/

/-- **Two ways outwards with the same names**, of which the first may pass scopes without names. -/
inductive Along (level : Nat) : List Scope → List Scope → Prop
  | nil : Along level [] []
  | cons {s s' : Scope} {rest rest' : List Scope}
    (h : s'.definitions = s.definitions.lower level) (hrest : Along level rest rest') :
    Along level (s :: rest) (s' :: rest')
  | skip {s : Scope} {rest rest' : List Scope} (h : s.definitions = .empty)
    (hrest : Along level rest rest') : Along level (s :: rest) rest'

variable {level : Nat} {way way' : List Scope}

theorem Along.refl (h : ∀ s ∈ way, s.definitions.lower level = s.definitions) :
    Along level way way := by
  induction way with
  | nil => exact .nil
  | cons s rest ih =>
    obtain ⟨hs, hrest⟩ := List.forall_mem_cons.mp h
    exact .cons hs.symm (ih hrest)

theorem Along.findDefinition? (h : Along level way way') (name : String) :
    findDefinition? way' name = (findDefinition? way name).map (Symbol.lower level) := by
  induction h with
  | nil => rfl
  | @cons s s' rest rest' h _ ih =>
    rw [Scope.findDefinition?, Scope.findDefinition?, h, Bindings.get?_lower]
    cases s.definitions.get? name with
    | none => exact ih
    | some symbol => rfl
  | @skip s rest rest' h _ ih =>
    rw [Scope.findDefinition?, h, Bindings.get?_empty]
    exact ih

/-- The names on a way outwards, inner ones hiding outer ones. -/
theorem Along.update (h : Along level way way') :
    way'.reverse.foldl (fun b s => b.update s.definitions) (.empty : Bindings Symbol)
      = (way.reverse.foldl (fun b s => b.update s.definitions) (.empty : Bindings Symbol)).lower
          level := by
  simp only [List.foldl_reverse]
  induction h with
  | nil => rfl
  | @cons s s' rest rest' h _ ih =>
    rw [List.foldr_cons, List.foldr_cons, ih, h, Bindings.lower_update]
  | @skip s rest rest' h _ ih => rw [List.foldr_cons, ih, h, Bindings.update_empty]

/-- There is nothing above a stack. -/
theorem chainFrom_of_le {stack : List Scope} {height : Nat} (h : stack.length ≤ height) :
    chainFrom stack height = [] := by
  induction stack with
  | nil => rfl
  | cons s below ih =>
    rw [List.length_cons] at h
    rw [chainFrom, if_neg (by omega), ih (by omega)]

theorem atLevel?_cons (s : Scope) (below : List Scope) (height : Nat) :
    atLevel? (s :: below) height
      = if below.length = height then some s else atLevel? below height := by
  rw [atLevel?, chainFrom]
  split <;> rfl

end Scope

/-! ### Collapsed stacks -/

/-- **A stack with the scope of a turn above `level`, and the stack without it.**  In the first
stack, `start` is the scope around the loop as it was when the turn started, and it stays so; the
turn acts on a copy.  In the second stack it is the scope around the loop that changes. -/
inductive Collapsed (level : Nat) : List Scope → List Scope → Prop
  | turn {start s : Scope} {outer : List Scope} (hlevel : outer.length = level)
    (hstart : start.absorb s = s)
    (hdefinitions : s.definitions.lower level = s.definitions)
    (hcaller : s.callerDefinitions.lower level = s.callerDefinitions)
    (houter : ∀ t ∈ outer, t.definitions.lower level = t.definitions) :
    Collapsed level (s.pushLoop level :: start :: outer) (s :: outer)
  | above {stack stack' : List Scope} (s : Scope) (h : Collapsed level stack stack') :
    Collapsed level (s :: stack) (s.lower level :: stack')

namespace Collapsed

variable {level : Nat} {stack stack' : List Scope} {s s' : Scope}

theorem length (h : Collapsed level stack stack') : stack.length = stack'.length + 1 := by
  induction h with
  | turn => rfl
  | above s _ ih => rw [List.length_cons, ih, List.length_cons]

theorem level_lt (h : Collapsed level stack stack') : level + 1 < stack.length := by
  induction h with
  | turn hlevel => simp [hlevel]
  | above s _ ih => exact Nat.lt_succ_of_lt ih

/-- The scopes above the turn. -/
theorem above_inv (h : Collapsed level (s :: stack) (s' :: stack'))
    (hlevel : level + 1 < stack.length) : s' = s.lower level ∧ Collapsed level stack stack' := by
  cases h with
  | turn hlength => exact absurd hlevel (by simp [hlength])
  | above _ h => exact ⟨rfl, h⟩

/-- What the scope around the loop takes over when the turn is over. -/
theorem turn_inv {start : Scope} {outer : List Scope}
    (h : Collapsed outer.length (s :: start :: outer) (s' :: outer)) : start.absorb s = s' := by
  cases h with
  | turn _ hstart => exact hstart
  | above _ h => exact absurd h.level_lt (Nat.lt_irrefl _)

theorem table (h : Collapsed level (s :: stack) (s' :: stack')) : s'.table = s.table := by
  cases h <;> rfl

theorem chainFrom (h : Collapsed level stack stack') (height : Nat) :
    Scope.Along level (Scope.chainFrom stack height)
      (Scope.chainFrom stack' (lowered level height)) := by
  induction h generalizing height with
  | @turn start s outer hlevel hstart hdefinitions hcaller houter =>
    have hparent : s.parent = start.parent := by rw [← hstart]; rfl
    have hnames : s.definitions = start.definitions.lower level := by
      rw [← hdefinitions, ← hstart]
      rfl
    have hrest (height : Nat) :
        Scope.Along level (Scope.chainFrom outer height) (Scope.chainFrom outer height) :=
      .refl fun t ht => houter t (Scope.mem_of_mem_chainFrom ht)
    -- the scope around the loop and what lies around it
    have hloop : Scope.Along level (Scope.chainFrom (start :: outer) level)
        (Scope.chainFrom (s :: outer) level) := by
      rw [Scope.chainFrom, Scope.chainFrom, if_pos hlevel, if_pos hlevel, hparent]
      refine .cons hnames ?_
      cases start.parent with
      | none => exact .nil
      | some p => exact hrest p
    -- below the turn, at the turn, which has no names, and above both stacks
    rcases Nat.lt_trichotomy height (level + 1) with hlt | rfl | hgt
    · rw [Scope.chainFrom, if_neg (by simp; omega)]
      rw [lowered_of_le (by omega)]
      rcases Nat.lt_or_ge height level with hlt | hge
      · rw [Scope.chainFrom, Scope.chainFrom, if_neg (by omega), if_neg (by omega)]
        exact hrest height
      · obtain rfl : height = level := by omega
        exact hloop
    · rw [Scope.chainFrom, if_pos (by simp [hlevel]), lowered_of_lt (by omega)]
      exact .skip rfl hloop
    · rw [Scope.chainFrom_of_le (by simp; omega), lowered_of_lt (by omega),
        Scope.chainFrom_of_le (by simp; omega)]
      exact .nil
  | @above stack stack' s h ih =>
    have hlength := h.length
    have hlevel := h.level_lt
    rw [Scope.chainFrom, Scope.chainFrom]
    by_cases htop : stack.length = height
    · have htop' : stack'.length = lowered level height := by
        rw [lowered_of_lt (by omega)]
        omega
      rw [if_pos htop, if_pos htop']
      refine .cons rfl ?_
      unfold Scope.lower
      cases s.parent with
      | none => exact .nil
      | some p => exact ih p
    · have htop' : ¬ stack'.length = lowered level height := by
        unfold lowered
        split <;> omega
      rw [if_neg htop, if_neg htop']
      exact ih height

theorem chain (h : Collapsed level stack stack') :
    Scope.Along level (Scope.chain stack) (Scope.chain stack') := by
  have hlength := h.length
  have hlevel := h.level_lt
  have htop : lowered level (stack.length - 1) = stack'.length - 1 := by
    rw [lowered_of_lt (by omega)]
    omega
  rw [Scope.chain, Scope.chain, ← htop]
  exact h.chainFrom _

/-- **What a name stands for.** -/
theorem symbol? (h : Collapsed level (s :: stack) (s' :: stack')) (name : String) :
    Scope.symbol? (s' :: stack') name
      = (Scope.symbol? (s :: stack) name).map (Symbol.lower level) := by
  rw [Scope.symbol?, Scope.symbol?, h.chain.findDefinition?]
  cases Scope.findDefinition? (Scope.chain (s :: stack)) name with
  | some symbol => rfl
  | none =>
    simp only [Option.map_none, Scope.standard, h.table]
    rw [← Bindings.get?_lower, Bindings.lower_of_blocks (s.table.blocks_symbols _)]

theorem visibleDefinitions (h : Collapsed level stack stack') :
    Scope.visibleDefinitions stack' = (Scope.visibleDefinitions stack).lower level :=
  h.chain.update

theorem visibleNames (h : Collapsed level (s :: stack) (s' :: stack')) :
    Scope.visibleNames (s' :: stack') = Scope.visibleNames (s :: stack) := by
  rw [Scope.visibleNames, Scope.visibleNames, h.visibleDefinitions, Scope.standard, Scope.standard,
    h.table]
  have hlower := Bindings.names_lower level
    (s.table.symbols.update (Scope.visibleDefinitions (s :: stack)))
  rwa [Bindings.lower_update, Bindings.lower_of_blocks (s.table.blocks_symbols _)] at hlower

/-! ### Scopes that change -/

/-- **A step that keeps the seat of the active scope** keeps the stacks collapsed. -/
theorem keep (h : Collapsed level (s :: stack) (s' :: stack')) {t : Scope} (ht : s.Extends t)
    (hnames : t.definitions = s.definitions) :
    Collapsed level (t :: stack) ({ t with
      parent := s'.parent
      definitions := s'.definitions
      callerDefinitions := s'.callerDefinitions } :: stack') := by
  cases h with
  | @turn start _ outer hlevel hstart hdefinitions hcaller houter =>
    -- the turn has no names of its own, before the step and after it
    have hturn : t = { t with
        parent := some level
        definitions := .empty
        callerDefinitions := s'.callerDefinitions } := by
      have hparent : t.parent = some level := ht.parent
      have hempty : t.definitions = .empty := hnames
      have hcallers : t.callerDefinitions = s'.callerDefinitions := ht.callerDefinitions
      rw [← hparent, ← hempty, ← hcallers]
    have habsorb : start.absorb { t with
        parent := s'.parent
        definitions := s'.definitions
        callerDefinitions := s'.callerDefinitions } = { t with
        parent := s'.parent
        definitions := s'.definitions
        callerDefinitions := s'.callerDefinitions } := by
      simp only [Scope.absorb, Scope.mk.injEq, true_and]
      rw [← hstart] at ht
      refine ⟨ht.source.symm, ht.file.symm, ?_, ht.table.symm, ?_, ?_, ht.childKinds.symm,
        ht.depth.symm⟩
      · rw [← hstart]; rfl
      · rw [← hstart]; rfl
      · rw [← hstart]; rfl
    have hresult := Collapsed.turn hlevel habsorb hdefinitions hcaller houter
    exact hturn ▸ hresult
  | above _ h =>
    have hlower : t.lower level = { t with
        parent := s.parent.map (lowered level)
        definitions := s.definitions.lower level
        callerDefinitions := s.callerDefinitions.lower level } := by
      rw [Scope.lower, ht.parent, hnames, ht.callerDefinitions]
    exact hlower ▸ Collapsed.above t h

/-- **The scope around a turn of an inner loop** takes over. -/
theorem absorb (h : Collapsed level (s :: stack) (s' :: stack')) (t : Scope) :
    Collapsed level (s.absorb t :: stack) (s'.absorb (t.lower level) :: stack') := by
  cases h with
  | @turn start _ outer hlevel hstart hdefinitions hcaller houter =>
    have habsorb : start.absorb (s'.absorb (t.lower level)) = s'.absorb (t.lower level) := by
      rw [← hstart]
      rfl
    exact .turn hlevel habsorb hdefinitions hcaller houter
  | above _ h => exact .above (s.absorb t) h

/-! ### Scopes that are entered -/

/-- The height of the active scope. -/
theorem lowered_length (h : Collapsed level (s :: stack) (s' :: stack')) :
    lowered level stack.length = stack'.length := by
  have hlength := h.length
  have hlevel := h.level_lt
  simp only [List.length_cons] at hlength hlevel
  rw [lowered_of_lt (by omega)]
  omega

theorem push (h : Collapsed level (s :: stack) (s' :: stack')) (block : BlockType) :
    s'.push stack'.length block = (s.push stack.length block).lower level := by
  rw [← h.lowered_length]
  cases h <;> rfl

theorem pushLoop (h : Collapsed level (s :: stack) (s' :: stack')) :
    s'.pushLoop stack'.length = (s.pushLoop stack.length).lower level := by
  rw [← h.lowered_length]
  cases h with
  | turn hlevel hstart hdefinitions hcaller houter =>
    simp only [Scope.pushLoop, Scope.lower, hcaller]
    rfl
  | above => rfl

/-! ### Bodies of defined blocks -/

/-- What the scope of a definition takes from the scope at a height. -/
theorem atLevel? (h : Collapsed level stack stack') {height : Nat} (hne : height ≠ level) :
    (Scope.atLevel? stack' (lowered level height)).map (·.pushDefinition 0)
      = (Scope.atLevel? stack height).map (·.pushDefinition 0) := by
  induction h with
  | @turn start s outer hlevel =>
    rw [Scope.atLevel?_cons, Scope.atLevel?_cons, Scope.atLevel?_cons, List.length_cons, hlevel]
    rcases Nat.lt_trichotomy height (level + 1) with hlt | rfl | hgt
    · rw [lowered_of_le (by omega), if_neg (by omega), if_neg (by omega), if_neg (by omega)]
    · rw [lowered_of_lt (by omega), Nat.add_sub_cancel, if_pos rfl, if_pos rfl]
      rfl
    · rw [lowered_of_lt (by omega), if_neg (by omega), if_neg (by omega), if_neg (by omega),
        Scope.atLevel?, Scope.atLevel?, Scope.chainFrom_of_le (by omega),
        Scope.chainFrom_of_le (by omega)]
  | @above stack stack' s h ih =>
    have hlength := h.length
    have hlevel := h.level_lt
    rw [Scope.atLevel?_cons, Scope.atLevel?_cons]
    by_cases htop : stack.length = height
    · have htop' : stack'.length = lowered level height := by
        rw [lowered_of_lt (by omega)]
        omega
      rw [if_pos htop, if_pos htop']
      rfl
    · have htop' : ¬ stack'.length = lowered level height := by
        unfold lowered
        split <;> omega
      rw [if_neg htop, if_neg htop', ih]

/-- The scope around the loop, in both stacks, and the turn. -/
theorem atLevel?_turn (h : Collapsed level stack stack') :
    ∃ start s, Scope.atLevel? stack level = some start ∧ Scope.atLevel? stack' level = some s ∧
      Scope.atLevel? stack (level + 1) = some (s.pushLoop level) ∧ start.absorb s = s := by
  induction h with
  | @turn start s outer hlevel hstart =>
    refine ⟨start, s, ?_, ?_, ?_, hstart⟩
    · rw [Scope.atLevel?_cons, if_neg (by simp [hlevel]), Scope.atLevel?_cons, if_pos hlevel]
    · rw [Scope.atLevel?_cons, if_pos hlevel]
    · rw [Scope.atLevel?_cons, if_pos (by simp [hlevel])]
  | @above stack stack' t h ih =>
    have hlength := h.length
    have hlevel := h.level_lt
    obtain ⟨start, s, hstart, hs, hturn, habsorb⟩ := ih
    refine ⟨start, s, ?_, ?_, ?_, habsorb⟩
    · rw [Scope.atLevel?_cons, if_neg (by omega), hstart]
    · rw [Scope.atLevel?_cons, if_neg (by omega), hs]
    · rw [Scope.atLevel?_cons, if_neg (by omega), hturn]

end Collapsed

namespace Scope

/-- **The scope of a body that was defined around a loop, with the state that the turn has
reached**: what the body would start with if the turn acted on the scope around the loop. -/
def caughtUp (s turn : Scope) : Scope :=
  { s with
    sourceIndex := turn.sourceIndex
    material := turn.material
    font := turn.font
    background := turn.background }

/-- The scope of a body in a stack with a turn above `level`.  Only bodies that were defined around
the loop are behind. -/
def inTurn (level : Nat) (stack : List Scope) (s : Scope) : Scope :=
  if s.parent = some level then
    match atLevel? stack (level + 1) with
    | some turn => s.caughtUp turn
    | none => s
  else s

end Scope

namespace Collapsed

variable {level : Nat} {stack stack' : List Scope} {caller caller' : Scope}

/-- **The scope of the body of a block that is called** above a turn. -/
theorem bodyScope (h : Collapsed level (caller :: stack) (caller' :: stack'))
    (habove : level + 1 < stack.length) (c : Closure) {defining : Scope}
    (hdefining : Scope.atLevel? stack c.level = some defining) :
    ∃ defining', Scope.atLevel? stack' (c.lower level).level = some defining' ∧
      Runner.bodyScope (c.lower level) defining' caller'
        = ((Runner.bodyScope c defining caller).inTurn level (caller :: stack)).lower level := by
  obtain ⟨rfl, hstack⟩ := h.above_inv habove
  have hparent : (Runner.bodyScope c defining caller).parent = some c.level := rfl
  by_cases hlevel : c.level = level
  -- defined around the loop: the body builds on `start`, the direct one on `s`
  · obtain ⟨start, s, hstart, hs, hturn, habsorb⟩ := hstack.atLevel?_turn
    have hheight : (c.lower level).level = level := by
      rw [Closure.lower, lowered_of_le (Nat.le_of_eq hlevel), hlevel]
    obtain rfl : start = defining := Option.some.inj (hstart.symm.trans (hlevel ▸ hdefining))
    refine ⟨s, by rw [hheight, hs], ?_⟩
    rw [Scope.inTurn, if_pos (hparent.trans (congrArg some hlevel)), Scope.atLevel?_cons,
      if_neg (by omega), hturn]
    have hlower := Bindings.lower_update level caller.callerDefinitions caller.definitions
    simp only [Scope.lower, Scope.caughtUp, Runner.bodyScope, hlower]
    rw [← habsorb]
    rfl
  · have hpush := hstack.atLevel? hlevel
    rw [hdefining, Option.map_some] at hpush
    obtain ⟨defining', hdefining', hpush⟩ := Option.map_eq_some_iff.mp hpush
    refine ⟨defining', hdefining', ?_⟩
    have hne : ¬ (Runner.bodyScope c defining caller).parent = some level := by
      rw [hparent]
      exact fun heq => hlevel (Option.some.inj heq)
    rw [Scope.inTurn, if_neg hne]
    have hlower := Bindings.lower_update level caller.callerDefinitions caller.definitions
    have hsame : defining'.pushDefinition (c.lower level).level
        = { defining.pushDefinition c.level with parent := some (c.lower level).level } :=
      congrArg (fun t : Scope => { t with parent := some (c.lower level).level }) hpush
    simp only [Runner.bodyScope, hsame]
    simp only [Scope.lower, hlower]
    rfl

/-- A block whose definition is gone. -/
theorem atLevel?_none (h : Collapsed level stack stack') {c : Closure}
    (hnone : Scope.atLevel? stack c.level = none) :
    Scope.atLevel? stack' (c.lower level).level = none := by
  by_cases hlevel : c.level = level
  · obtain ⟨start, s, hstart, -⟩ := h.atLevel?_turn
    rw [hlevel, hstart] at hnone
    cases hnone
  · have hpush := h.atLevel? hlevel
    rw [hnone] at hpush
    exact Option.map_eq_none_iff.mp hpush

end Collapsed

end SceneLang
