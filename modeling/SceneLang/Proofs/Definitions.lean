import SceneLang.Proofs.Law

/-!
# The blocks that have a name

Scripts define blocks, and scopes hand their names on: to the scopes inside them, to the bodies of
blocks that are called and back from imported files.  A fact about blocks that may only get weaker
further in (`known`) holds of every block that has a name somewhere in the stack, if it holds of the
blocks that are defined (`Knows`).  Then it also holds of what a name stands for
(`Knows.of_symbol?`), since standard names are no defined blocks.
-/

namespace SceneLang

/-! ### Tables of names -/

namespace Bindings

variable {known known' : Closure → Prop} {b b' : Bindings Symbol}

/-- **All defined blocks in a table are of a kind.** -/
def Blocks (known : Closure → Prop) (b : Bindings Symbol) : Prop :=
  ∀ name c, (name, Symbol.closure c) ∈ b.entries → known c

theorem Blocks.mono (h : b.Blocks known) (hk : ∀ c, known c → known' c) : b.Blocks known' :=
  fun name c hc => hk c (h name c hc)

theorem blocks_empty (known : Closure → Prop) : (empty : Bindings Symbol).Blocks known :=
  fun _ _ h => absurd h List.not_mem_nil

theorem mem_setEntry {α : Type} {name : String} {value : α} {entries : List (String × α)}
    {e : String × α} (h : e ∈ setEntry name value entries) : e = (name, value) ∨ e ∈ entries := by
  induction entries with
  | nil => exact .inl (List.mem_singleton.mp h)
  | cons e' rest ih =>
    obtain ⟨n, v⟩ := e'
    by_cases hn : n = name
    · rw [setEntry, if_pos hn] at h
      rcases List.mem_cons.mp h with rfl | h
      · exact .inl (by rw [hn])
      · exact .inr (List.mem_cons_of_mem _ h)
    · rw [setEntry, if_neg hn] at h
      rcases List.mem_cons.mp h with rfl | h
      · exact .inr List.mem_cons_self
      · exact (ih h).imp_right (List.mem_cons_of_mem _)

theorem Blocks.set (h : b.Blocks known) (name : String) {symbol : Symbol}
    (hs : ∀ c, symbol = .closure c → known c) : (b.set name symbol).Blocks known := by
  intro n c hc
  rcases mem_setEntry hc with heq | hmem
  · injection heq with _ hsymbol
    exact hs c hsymbol.symm
  · exact h n c hmem

theorem Blocks.update (h : b.Blocks known) (h' : b'.Blocks known) :
    (b.update b').Blocks known := by
  unfold Bindings.update
  obtain ⟨entries⟩ := b'
  induction entries generalizing b with
  | nil => exact h
  | cons e rest ih =>
    obtain ⟨name, symbol⟩ := e
    refine ih (h.set name ?_) fun n c hc => h' n c (List.mem_cons_of_mem _ hc)
    rintro c rfl
    exact h' name c List.mem_cons_self

theorem Blocks.of_get? (h : b.Blocks known) {name : String} {c : Closure}
    (hget : b.get? name = some (.closure c)) : known c := by
  obtain ⟨l₁, l₂, heq, -⟩ := List.lookup_eq_some_iff.mp hget
  refine h name c ?_
  rw [heq]
  exact List.mem_append_right l₁ List.mem_cons_self

end Bindings

/-- Whether a symbol is a defined block. -/
def Symbol.isClosure : Symbol → Bool
  | .closure _ => true
  | _ => false

/-- Standard names are no defined blocks. -/
theorem SymbolTable.blocks_symbols (known : Closure → Prop) (t : SymbolTable) :
    t.symbols.Blocks known := by
  have hnone : ∀ e ∈ t.symbols.entries, e.2.isClosure = false := by
    have hall : (t.symbols.entries.all fun e => !e.2.isClosure) = true := by cases t <;> rfl
    intro e he
    simpa using List.all_eq_true.mp hall e he
  intro name c hc
  cases hnone _ hc

/-! ### Stacks of scopes -/

/-- The scopes on a way outwards are those of the stack. -/
theorem Scope.mem_of_mem_chainFrom {stack : List Scope} {level : Nat} {s : Scope}
    (h : s ∈ chainFrom stack level) : s ∈ stack := by
  induction stack generalizing level with
  | nil => exact absurd h List.not_mem_nil
  | cons t below ih =>
    rw [chainFrom] at h
    split at h
    · rcases List.mem_cons.mp h with rfl | h
      · exact List.mem_cons_self
      · split at h
        · exact List.mem_cons_of_mem t (ih h)
        · exact absurd h List.not_mem_nil
    · exact List.mem_cons_of_mem t (ih h)

theorem Scope.mem_of_atLevel? {stack : List Scope} {level : Nat} {s : Scope}
    (h : atLevel? stack level = some s) : s ∈ stack :=
  mem_of_mem_chainFrom (List.mem_of_head? h)

/-- There is a scope at every height of a stack. -/
theorem Scope.exists_atLevel? {stack : List Scope} {level : Nat} (h : level < stack.length) :
    ∃ s, atLevel? stack level = some s := by
  induction stack with
  | nil => exact absurd h (Nat.not_lt_zero level)
  | cons s below ih =>
    rw [atLevel?, chainFrom]
    by_cases hlevel : below.length = level
    · rw [if_pos hlevel]
      exact ⟨s, rfl⟩
    · rw [if_neg hlevel]
      exact ih (Nat.lt_of_le_of_ne (Nat.le_of_lt_succ h) (Ne.symm hlevel))

/-- **All blocks that have a name in a stack are of a kind**, at the height of the scope that names
them. -/
def Knows (known : Nat → Closure → Prop) : List Scope → Prop
  | [] => True
  | s :: below =>
    (s.definitions.Blocks (known below.length) ∧
      s.callerDefinitions.Blocks (known below.length)) ∧ Knows known below

namespace Knows

variable {known : Nat → Closure → Prop} {stack below : List Scope} {s inner : Scope}

/-- Only the names that a scope holds matter. -/
theorem congr (h : Knows known (s :: below)) (hdefinitions : inner.definitions = s.definitions)
    (hcaller : inner.callerDefinitions = s.callerDefinitions) : Knows known (inner :: below) := by
  rw [Knows, hdefinitions, hcaller]
  exact h

theorem define (h : Knows known (s :: below)) (name : String) {symbol : Symbol}
    (hs : ∀ c, symbol = .closure c → known below.length c) :
    Knows known (s.define name symbol :: below) :=
  ⟨⟨h.1.1.set name hs, h.1.2⟩, h.2⟩

section Lookup

variable (hmono : ∀ h c, known h c → known (h + 1) c)

include hmono

theorem lift {level level' : Nat} (hle : level ≤ level') {c : Closure} (h : known level c) :
    known level' c := by
  induction hle with
  | refl => exact h
  | step _ ih => exact hmono _ c ih

/-- The definitions of all scopes are known at the top. -/
theorem blocks_of_mem (h : Knows known stack) {top : Nat} (htop : stack.length ≤ top + 1)
    (hs : s ∈ stack) : s.definitions.Blocks (known top) := by
  induction stack with
  | nil => exact absurd hs List.not_mem_nil
  | cons t below ih =>
    rcases List.mem_cons.mp hs with rfl | hs
    · exact h.1.1.mono fun c => lift hmono (Nat.le_of_succ_le_succ htop)
    · exact ih h.2 (Nat.le_of_succ_le htop) hs

/-- **What a name stands for** is known at the top. -/
theorem of_symbol? (h : Knows known (s :: below)) {name : String} {c : Closure}
    (hname : Scope.symbol? (s :: below) name = some (.closure c)) : known below.length c := by
  have hchain : ∀ chain : List Scope,
      (∀ t ∈ chain, t.definitions.Blocks (known below.length)) →
      ∀ symbol, Scope.findDefinition? chain name = some symbol → symbol = .closure c →
        known below.length c := by
    intro chain
    induction chain with
    | nil => intro _ symbol hfind; cases hfind
    | cons t rest ih =>
      intro hblocks symbol hfind heq
      rw [Scope.findDefinition?] at hfind
      split at hfind
      · rename_i found hget
        cases hfind
        exact (hblocks t List.mem_cons_self).of_get? (heq ▸ hget)
      · exact ih (fun u hu => hblocks u (List.mem_cons_of_mem t hu)) symbol hfind heq
  rw [Scope.symbol?] at hname
  split at hname
  · rename_i symbol hfind
    cases hname
    refine hchain _ (fun t ht => ?_) _ hfind rfl
    exact h.blocks_of_mem hmono (Nat.le_refl _) (Scope.mem_of_mem_chainFrom ht)
  · exact (s.table.blocks_symbols _).of_get? hname

/-- The names that a block is called with are known at the top. -/
theorem visibleDefinitions (h : Knows known (s :: below)) :
    (Scope.visibleDefinitions (s :: below)).Blocks (known below.length) := by
  have hfold : ∀ (chain : List Scope) (b : Bindings Symbol), b.Blocks (known below.length) →
      (∀ t ∈ chain, t.definitions.Blocks (known below.length)) →
      (chain.foldl (fun b t => b.update t.definitions) b).Blocks (known below.length) := by
    intro chain
    induction chain with
    | nil => exact fun _ hb _ => hb
    | cons t rest ih =>
      intro b hb hblocks
      exact ih _ (hb.update (hblocks t List.mem_cons_self))
        fun u hu => hblocks u (List.mem_cons_of_mem t hu)
  refine hfold _ _ (Bindings.blocks_empty _) fun t ht => ?_
  exact h.blocks_of_mem hmono (Nat.le_refl _) (Scope.mem_of_mem_chainFrom (List.mem_reverse.mp ht))

/-- **A scope that is entered** holds names that are known. -/
theorem enter (h : Knows known (s :: below)) (hs : Entrance below s inner) :
    Knows known (inner :: s :: below) := by
  have hempty : Bindings.Blocks (known (below.length + 1)) .empty := Bindings.blocks_empty _
  cases hs with
  | block hgains =>
    obtain ⟨vs, rfl, -⟩ := hgains
    exact ⟨⟨hempty, hempty⟩, h⟩
  | call block =>
    exact ⟨⟨hempty, (h.visibleDefinitions hmono).mono fun c => hmono _ c⟩, h⟩
  | definition => exact ⟨⟨hempty, hempty⟩, h⟩

theorem turn (h : Knows known (s :: below)) (level : Nat) :
    Knows known (s.pushLoop level :: s :: below) :=
  ⟨⟨Bindings.blocks_empty _, h.1.2.mono fun c => hmono _ c⟩, h⟩

/-- **The body of a defined block** takes over the names of its caller. -/
theorem body (h : Knows known (s :: below)) (c : Closure) (defining : Scope) :
    Knows known (Runner.bodyScope c defining s :: s :: below) := by
  refine ⟨⟨?_, Bindings.blocks_empty _⟩, h⟩
  exact (h.1.2.mono fun c => hmono _ c).update (h.1.1.mono fun c => hmono _ c)

end Lookup

end Knows

end SceneLang
