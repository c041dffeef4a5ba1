import SceneLang.Evaluation.Run
import SceneLang.Geometry.Same

/-!
# States without their places

Nodes remember where they were written, defined blocks the source and the file of their definition,
and scopes where their statements stand.  All this serves messages and tools only.  Here it is taken
away (`Node.bare`, `Value.bare`, `Symbol.bare`, `Scope.bare`, `World.bare`), together with the list
of files that were asked for.  Two states that are the same without it differ in nothing that a
script can see, and what is read off them is the same without it: names stand for the same
(`Scope.symbol?_bare`), and values have the same kind, elements and members (`Value.kind_bare`,
`Value.elements_bare`, `Value.member?_bare`).

Taking the places away does not change whether two nodes count as equal geometry
(`Node.same_of_bare_eq`).
-/

namespace SceneLang

/-! ### Nodes and values -/

mutual

/-- **A node without the places in the script that it comes from.** -/
def Node.bare : Node → Node
  | ⟨kind, name, transform, material, children, paths, _⟩ =>
    ⟨kind, name, transform, material, Node.bareAll children, paths, none⟩

/-- The nodes of a list without their places. -/
def Node.bareAll : List Node → List Node
  | [] => []
  | n :: rest => n.bare :: Node.bareAll rest

end

mutual

/-- **A value without the places of the nodes in it.** -/
def Value.bare : Value → Value
  | .mesh n => .mesh n.bare
  | .tuple vs => .tuple (Value.bareAll vs)
  | v => v

/-- The values of a list without the places of the nodes in them. -/
def Value.bareAll : List Value → List Value
  | [] => []
  | v :: rest => v.bare :: Value.bareAll rest

end

/-- Whether values of a kind hold no nodes: they are neither nodes nor made of other values. -/
def Kind.isFlat (kind : Kind) : Bool := kind != .mesh && kind != .tuple

theorem Node.bareAll_eq_map (ns : List Node) : Node.bareAll ns = ns.map Node.bare := by
  induction ns with
  | nil => rfl
  | cons n rest ih => rw [Node.bareAll, ih, List.map_cons]

theorem Node.bare_eq (n : Node) :
    n.bare = { n with children := n.children.map Node.bare, location := none } := by
  cases n
  rw [Node.bare, Node.bareAll_eq_map]

mutual

/-- There is nothing more to take away. -/
theorem Node.bare_bare : ∀ n : Node, n.bare.bare = n.bare
  | ⟨_, _, _, _, children, _, _⟩ => by
    have hchildren := Node.bareAll_bareAll children
    simp only [Node.bare, hchildren]

theorem Node.bareAll_bareAll : ∀ ns : List Node, Node.bareAll (Node.bareAll ns) = Node.bareAll ns
  | [] => rfl
  | n :: rest => by
    have hn := Node.bare_bare n
    have hrest := Node.bareAll_bareAll rest
    simp only [Node.bareAll, hn, hrest]

end

namespace Value

theorem bareAll_eq_map (vs : List Value) : bareAll vs = vs.map bare := by
  induction vs with
  | nil => rfl
  | cons v rest ih => rw [bareAll, ih, List.map_cons]

@[simp] theorem bare_mesh (n : Node) : (mesh n).bare = .mesh n.bare := rfl

@[simp] theorem bare_tuple (vs : List Value) : (tuple vs).bare = .tuple (vs.map bare) := by
  rw [bare, bareAll_eq_map]

@[simp] theorem kind_bare (v : Value) : v.bare.kind = v.kind := by
  cases v <;> rfl

theorem kind_eq_of_bare {v v' : Value} (h : v'.bare = v.bare) : v'.kind = v.kind := by
  rw [← kind_bare v', h, kind_bare]

/-- Values without nodes are the same if they are the same without places. -/
theorem eq_of_bare {v v' : Value} (h : v'.bare = v.bare) (hflat : v.kind.isFlat = true) :
    v' = v := by
  cases v with
  | mesh n => cases hflat
  | tuple vs => cases hflat
  | _ => cases v' <;> cases h <;> rfl

theorem eq_of_map_bare {vs vs' : List Value} (h : vs'.map bare = vs.map bare)
    (hflat : ∀ v ∈ vs, v.kind.isFlat = true) : vs' = vs := by
  induction vs generalizing vs' with
  | nil => exact List.map_eq_nil_iff.mp h
  | cons v rest ih =>
    rw [List.map_cons, List.map_eq_cons_iff] at h
    obtain ⟨v', rest', rfl, hv, hrest⟩ := h
    obtain ⟨hflat, hflats⟩ := List.forall_mem_cons.mp hflat
    rw [eq_of_bare hv hflat, ih hrest hflats]

theorem exists_of_bare_mesh {n : Node} {v' : Value} (h : v'.bare = (mesh n).bare) :
    ∃ n', v' = .mesh n' ∧ n'.bare = n.bare := by
  cases v' with
  | mesh n' => exact ⟨n', rfl, Value.mesh.inj h⟩
  | _ => cases h

theorem exists_tuple_of_kind {v : Value} (h : v.kind = .tuple) : ∃ vs, v = .tuple vs := by
  cases v with
  | tuple vs => exact ⟨vs, rfl⟩
  | _ => cases h

theorem exists_of_bare_tuple {vs : List Value} {v' : Value} (h : v'.bare = (tuple vs).bare) :
    ∃ vs', v' = .tuple vs' ∧ vs'.map bare = vs.map bare := by
  cases v' with
  | tuple vs' =>
    rw [bare_tuple, bare_tuple] at h
    exact ⟨vs', rfl, Value.tuple.inj h⟩
  | _ => cases h

@[simp] theorem elements_bare (v : Value) : v.bare.elements = v.elements.map bare := by
  cases v with
  | tuple vs => rw [bare_tuple]; rfl
  | _ => rfl

mutual

theorem bare_unwrap : ∀ v : Value, v.unwrap.bare = v.bare.unwrap
  | .tuple [v] => by
    have hv := bare_unwrap v
    simpa [unwrap] using hv
  | .tuple [] => by simp [unwrap, unwrapAll]
  | .tuple (v :: w :: rest) => by
    have hv := bare_unwrap v
    have hw := bare_unwrap w
    have hrest := bare_unwrapAll rest
    simp only [unwrap, unwrapAll, bare_tuple, List.map_cons, hv, hw, hrest]
  | .number _ | .string _ | .color _ | .texture _ | .vector _ | .size _ | .path _ | .mesh _
  | .point _ | .range _ => by simp only [unwrap, bare]

theorem bare_unwrapAll : ∀ vs : List Value, (unwrapAll vs).map bare = unwrapAll (vs.map bare)
  | [] => rfl
  | v :: rest => by
    have hv := bare_unwrap v
    have hrest := bare_unwrapAll rest
    simp only [unwrapAll, List.map_cons, hv, hrest]

end

theorem number?_bare (v : Value) : v.bare.number? = v.number? := by
  cases v <;> rfl

@[simp] theorem numbers?_bare (vs : List Value) : numbers? (vs.map bare) = numbers? vs := by
  unfold numbers?
  induction vs with
  | nil => rfl
  | cons v rest ih => simp only [List.map_cons, List.mapM_cons, number?_bare, ih]

theorem bare_memberAt? (names : List String) (values : List Float) (name : String) :
    (memberAt? names values name).map bare = memberAt? names values name := by
  unfold memberAt?
  cases (names.zip values).lookup name <;> rfl

theorem bare_numbersMember? (xs : List Float) (name : String) :
    (numbersMember? xs name).map bare = numbersMember? xs name := by
  unfold numbersMember?
  split
  · split
    · exact bare_memberAt? _ _ _
    · rfl
  · split
    · split
      · exact bare_memberAt? _ _ _
      · rfl
    · split
      · split
        · exact bare_memberAt? _ _ _
        · rfl
      · rfl

/-- The members of a tuple: its positions, those of its numbers, or those of its only element. -/
theorem member?_tuple (name : String) (vs : List Value) :
    (tuple vs).member? name =
      match ordinalIndex? name with
      | some i => vs[i]?
      | none =>
        match numbers? vs with
        | some xs => numbersMember? xs name
        | none =>
          match vs with
          | [v] => v.member? name
          | _ => none :=
  member?.eq_def name (tuple vs)

/-- **The member of a value**, without places. -/
theorem member?_bare (name : String) (v : Value) :
    v.bare.member? name = (v.member? name).map bare := by
  fun_induction member? name v with
  | case1 v => exact (bare_memberAt? _ _ _).symm
  | case2 v => exact (bare_memberAt? _ _ _).symm
  | case3 c => exact (bare_memberAt? _ _ _).symm
  | case4 r => exact (bare_memberAt? _ _ _).symm
  | case5 vs i hi => simp only [bare_tuple, member?_tuple, hi, List.getElem?_map]
  | case6 vs hi xs hxs =>
    simp only [bare_tuple, member?_tuple, hi, numbers?_bare, hxs]
    exact (bare_numbersMember? xs name).symm
  | case7 hi v hv ih =>
    simp only [bare_tuple, member?_tuple, hi, numbers?_bare, hv]
    exact ih
  | case8 vs hi hnumbers hone =>
    simp only [bare_tuple, member?_tuple, hi, numbers?_bare, hnumbers]
    split
    · next w heq =>
      obtain ⟨v, rfl, -⟩ := List.map_eq_singleton_iff.mp heq
      exact absurd rfl (hone v)
    · rfl
  | case9 v hvector hsize hcolor hrange htuple =>
    cases v with
    | vector v => exact absurd rfl (hvector v)
    | size v => exact absurd rfl (hsize v)
    | color c => exact absurd rfl (hcolor c)
    | range r => exact absurd rfl (hrange r)
    | tuple vs => exact absurd rfl (htuple vs)
    | _ => rfl

end Value

/-! ### Names -/

/-- **A defined block without the source and the file of its definition.** -/
def Closure.bare (c : Closure) : Closure := { c with source := "", file := none }

theorem Closure.parts_of_bare {c c' : Closure} (h : c'.bare = c.bare) :
    c'.body = c.body ∧ c'.options = c.options ∧ c'.level = c.level := by
  simpa [Closure.bare] using h

/-- The kind of a block does not depend on where it was defined. -/
theorem Closure.blockType_of_bare {c c' : Closure} (h : c'.bare = c.bare) :
    c'.blockType = c.blockType :=
  congrArg BlockType.plain (parts_of_bare h).2.1

/-- **What a name stands for**, without places. -/
def Symbol.bare : Symbol → Symbol
  | .closure c => .closure c.bare
  | .constant v => .constant v.bare
  | symbol => symbol

/-- **A table of names without places.** -/
def Bindings.bare (b : Bindings Symbol) : Bindings Symbol := b.map Symbol.bare

theorem Bindings.get?_bare (b : Bindings Symbol) (name : String) :
    b.bare.get? name = (b.get? name).map Symbol.bare :=
  get?_map _ b name

theorem Bindings.bare_set (b : Bindings Symbol) (name : String) (symbol : Symbol) :
    (b.set name symbol).bare = b.bare.set name symbol.bare :=
  map_set _ b name symbol

theorem Bindings.bare_update (b other : Bindings Symbol) :
    (b.update other).bare = b.bare.update other.bare :=
  map_update _ b other

/-- Standard names stand for nothing that has a place. -/
theorem SymbolTable.bare_symbols (t : SymbolTable) : t.symbols.bare = t.symbols := by
  cases t <;> rfl

/-! ### Scopes and the world -/

/-- **A scope without places**: those of its statements, its children and its names. -/
def Scope.bare (s : Scope) : Scope :=
  { s with
    source := ""
    file := none
    sourceIndex := none
    definitions := s.definitions.bare
    callerDefinitions := s.callerDefinitions.bare
    children := s.children.map Value.bare }

/-- What a host hears, without places. -/
def Notice.bare : Notice → Notice
  | .printed values => .printed (values.map Value.bare)
  | n => n

/-- **What a run changes outside of its scopes**, without places and files: neither those that were
asked for nor those that are being imported. -/
def World.bare (w : World) : World :=
  { w with notices := w.notices.map Notice.bare, linked := #[], importing := [] }

namespace Scope

theorem bare_push (s : Scope) (level : Nat) (block : BlockType) :
    (s.push level block).bare = (s.bare.push level block) := by
  simp [bare, push, Bindings.bare, Bindings.map, Bindings.empty]

theorem chainFrom_bare (stack : List Scope) (level : Nat) :
    chainFrom (stack.map bare) level = (chainFrom stack level).map bare := by
  induction stack generalizing level with
  | nil => rfl
  | cons s below ih =>
    simp only [List.map_cons, chainFrom, List.length_map]
    split
    · show s.bare :: (match s.parent with | some p => _ | none => _) = _
      cases s.parent with
      | none => rfl
      | some p => simp only [List.map_cons, ih]
    · exact ih level

theorem chain_bare (stack : List Scope) : chain (stack.map bare) = (chain stack).map bare := by
  rw [chain, chain, List.length_map, chainFrom_bare]

/-- The scope at a height of a stack, without places. -/
theorem atLevel?_bare (stack : List Scope) (level : Nat) :
    atLevel? (stack.map bare) level = (atLevel? stack level).map bare := by
  rw [atLevel?, atLevel?, chainFrom_bare, List.head?_map]

theorem findDefinition?_bare (way : List Scope) (name : String) :
    findDefinition? (way.map bare) name = (findDefinition? way name).map Symbol.bare := by
  induction way with
  | nil => rfl
  | cons s rest ih =>
    have hdefinitions : s.bare.definitions = s.definitions.bare := rfl
    rw [List.map_cons, findDefinition?, findDefinition?, hdefinitions, Bindings.get?_bare]
    cases s.definitions.get? name with
    | none => exact ih
    | some symbol => rfl

/-- **What a name stands for**, without places. -/
theorem symbol?_bare (stack : List Scope) (name : String) :
    symbol? (stack.map bare) name = (symbol? stack name).map Symbol.bare := by
  have hstandard : (standard (stack.map bare)).get? name
      = ((standard stack).get? name).map Symbol.bare := by
    cases stack with
    | nil => rfl
    | cons s below =>
      have hget := s.table.symbols.get?_bare name
      rw [s.table.bare_symbols] at hget
      exact hget
  rw [symbol?, symbol?, chain_bare, findDefinition?_bare, hstandard]
  cases findDefinition? (chain stack) name <;> rfl

/-- The definitions that are visible, without places. -/
theorem visibleDefinitions_bare (stack : List Scope) :
    visibleDefinitions (stack.map bare) = (visibleDefinitions stack).bare := by
  have hfold (way : List Scope) (b : Bindings Symbol) :
      (way.map bare).foldl (fun b s => b.update s.definitions) b.bare
        = (way.foldl (fun b s => b.update s.definitions) b).bare := by
    induction way generalizing b with
    | nil => rfl
    | cons s rest ih =>
      simp only [List.map_cons, List.foldl_cons]
      rw [← ih, Bindings.bare_update]
      rfl
  rw [visibleDefinitions, visibleDefinitions, chain_bare, ← List.map_reverse]
  exact hfold _ .empty

end Scope

/-! ### Equal geometry -/

mutual

theorem Node.same_bare : ∀ n n' : Node, n.same n'.bare = n.same n'
  | ⟨_, _, _, _, cs, _, _⟩, ⟨_, _, _, _, cs', _, _⟩ => by
    rw [Node.bare, Node.same, Node.same, Node.sameAll_bareAll cs cs']

theorem Node.sameAll_bareAll :
    ∀ ns ns' : List Node, Node.sameAll ns (Node.bareAll ns') = Node.sameAll ns ns'
  | [], [] => rfl
  | [], _ :: _ => rfl
  | _ :: _, [] => rfl
  | n :: rest, n' :: rest' => by
    rw [Node.bareAll, Node.sameAll, Node.sameAll, Node.same_bare n n',
      Node.sameAll_bareAll rest rest']

end

/-- **Nodes that differ in their places only count as equal**, if the geometry counts as equal to
itself: numbers that are not NaN. -/
theorem Node.same_of_bare_eq {n n' : Node} (h : n'.bare = n.bare) : n.same n' = n.same n := by
  rw [← Node.same_bare n n', h, Node.same_bare]

end SceneLang
