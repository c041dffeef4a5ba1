import SceneLang.Proofs.Bare
import SceneLang.Proofs.Definitions

/-!
# Everything that scripts make has a square matrix

A rotation is a matrix of any shape, and most operations with one fail unless the shapes agree.
Scripts make 3×3 matrices only, and the operations keep them so: of everything that a script can
make, an operation succeeds, unless it is asked for an infinite angle.

The faults that a script can cause are few, and they are slips of the commands (`Fault.IsSlip`).
An operation is `Sure` of a property of its result if it gives such a result or fails by a slip.
The main results say so of moving things (`sure_placed`) and of commands that move
(`Transform.sure_rotated`), for values, scopes and stacks that hold square matrices only
(`Value.IsSquare`, `Scope.IsSquare`, `Orderly`).
-/

namespace SceneLang

/-! ### Slips -/

/-- **The faults that a script can cause without a host**, other than by the number of sides of a
polygon: a row without numbers, a pair of fewer than two numbers and an infinite angle. -/
def Fault.IsSlip : Fault → Prop
  | .invalid (.noNumbers command) => command = "min" ∨ command = "max"
  | .invalid (.notPair count) => count < 2
  | .invalid .endlessAngle => True
  | _ => False

/-- **An operation gives a result of a kind, or fails by a slip.** -/
def Sure {α : Type} (P : α → Prop) : Except Fault α → Prop
  | .ok a => P a
  | .error f => f.IsSlip

namespace Sure

variable {α β : Type} {P : α → Prop} {Q : β → Prop} {r : Except Fault α}

theorem bind {f : α → Except Fault β} (hr : Sure P r) (hf : ∀ a, P a → Sure Q (f a)) :
    Sure Q (r >>= f) := by
  cases r with
  | ok a => exact hf a hr
  | error x => exact hr

theorem map {f : α → β} (hr : Sure P r) (hf : ∀ a, P a → Q (f a)) : Sure Q (r.map f) := by
  cases r with
  | ok a => exact hf a hr
  | error x => exact hr

theorem of_ok {a : α} (hr : Sure P r) (h : r = .ok a) : P a := by
  subst h
  exact hr

theorem of_error {f : Fault} (hr : Sure P r) (h : r = .error f) : f.IsSlip := by
  subst h
  exact hr

end Sure

/-! ### Matrices -/

namespace Rotation

variable {α : Type}

theorem isSquare_ofEntries (a b c d e f g h i : α) : (ofEntries a b c d e f g h i).IsSquare := by
  refine ⟨rfl, fun row hrow => ?_⟩
  simp only [ofEntries, List.mem_cons, List.not_mem_nil, or_false] at hrow
  rcases hrow with rfl | rfl | rfl <;> rfl

theorem IsSquare.width_eq {m : Rotation α} (h : m.IsSquare) : m.width = 3 := by
  obtain ⟨rows⟩ := m
  obtain ⟨hlength, hrows⟩ := h
  cases rows with
  | nil => cases hlength
  | cons row rest => exact hrows row List.mem_cons_self

variable [OfNat α 0] [Add α] [Mul α]

/-- **The product of square matrices** is square. -/
theorem sure_product {a b : Rotation α} (ha : a.IsSquare) (hb : b.IsSquare) :
    Sure IsSquare (product a b) := by
  have hlengths : ¬ a.width ≠ b.rows.length := by simp [ha.width_eq, hb.1]
  have hwidth : a.width ≠ 0 := by simp [ha.width_eq]
  rw [product, if_neg hlengths, if_neg hwidth]
  refine ⟨?_, fun row hrow => ?_⟩
  · simpa using ha.1
  · obtain ⟨row', -, rfl⟩ := List.mem_map.mp hrow
    simp [hb.width_eq]

/-- A square matrix turns every vector. -/
theorem sure_apply {m : Rotation α} (hm : m.IsSquare) (v : Vec3 α) :
    Sure (fun _ => True) (m.apply v) := by
  have hwidth : ¬ m.width ≠ 3 := by simp [hm.width_eq]
  have hheight : ¬ 3 < m.rows.length := by simp [hm.1]
  rw [apply, if_neg hwidth, if_neg hheight]
  trivial

omit [OfNat α 0] [Add α] [Mul α] in
theorem sure_turn (x : Float) : Sure (fun _ => True) (turn x) := by
  unfold turn
  dsimp only
  split
  · trivial
  · trivial

/-- Up to infinite angles there is a rotation by any angles. -/
theorem sure_ofAngles (roll yaw pitch : Float) : Sure IsSquare (ofAngles roll yaw pitch) := by
  refine (sure_turn roll).bind fun _ _ => ?_
  refine (sure_turn yaw).bind fun _ _ => (sure_turn pitch).bind fun _ _ => ?_
  refine (sure_product (isSquare_ofEntries ..) (isSquare_ofEntries ..)).bind fun _ hm => ?_
  exact sure_product hm (isSquare_ofEntries ..)

theorem sure_ofHalfTurns (v : Vec3 Float) : Sure IsSquare (ofHalfTurns v.toList) :=
  sure_ofAngles v.x v.y v.z

theorem sure_halfTurns {m : Rotation Float} (hm : m.IsSquare) :
    Sure (fun _ => True) m.halfTurns := by
  have hsize : ¬ (m.rows.length < 3 ∨ m.width < 3) := by simp [hm.1, hm.width_eq]
  rw [halfTurns, if_neg hsize]
  trivial

end Rotation

/-! ### Transforms -/

namespace Transform

variable {t u : Transform Float}

theorem isSquare_identity : (identity : Transform Float).rotation.IsSquare :=
  Rotation.isSquare_ofEntries ..

theorem sure_apply (ht : t.rotation.IsSquare) (v : Vec3 Float) :
    Sure (fun _ => True) (t.apply v) :=
  (Rotation.sure_apply ht _).bind fun _ _ => trivial

theorem sure_translated (ht : t.rotation.IsSquare) (v : Vec3 Float) :
    Sure (fun u => u.rotation.IsSquare) (t.translated v) :=
  (Rotation.sure_apply ht _).bind fun _ _ => ht

theorem sure_rotated (ht : t.rotation.IsSquare) {r : Rotation Float} (hr : r.IsSquare) :
    Sure (fun u => u.rotation.IsSquare) (t.rotated r) :=
  (Rotation.sure_product ht hr).bind fun _ hm => hm

theorem sure_followedBy (ht : t.rotation.IsSquare) (hu : u.rotation.IsSquare) :
    Sure (fun w => w.rotation.IsSquare) (t.followedBy u) :=
  (Rotation.sure_apply hu _).bind fun _ _ => (Rotation.sure_product hu ht).bind fun _ hm => hm

end Transform

/-! ### Paths and values -/

theorem PathPoint.sure_transformed {t : Transform Float} (ht : t.rotation.IsSquare)
    (p : PathPoint) : Sure (fun _ => True) (p.transformed t) :=
  (Transform.sure_apply ht p.position).bind fun _ _ => trivial

mutual

theorem Path.sure_transformed {t : Transform Float} (ht : t.rotation.IsSquare) :
    ∀ p : Path, Sure (fun _ => True) (p.transformed t)
  | ⟨points, subpaths⟩ => by
    have hpoints (ps : List PathPoint) :
        Sure (fun _ => True) (ps.mapM (PathPoint.transformed t)) := by
      induction ps with
      | nil => trivial
      | cons p rest ih =>
        rw [List.mapM_cons]
        exact (PathPoint.sure_transformed ht p).bind fun _ _ => ih.bind fun _ _ => trivial
    rw [Path.transformed]
    refine (hpoints points).bind fun _ _ => ?_
    exact (Path.sure_transformedAll ht subpaths).bind fun _ _ => trivial

theorem Path.sure_transformedAll {t : Transform Float} (ht : t.rotation.IsSquare) :
    ∀ ps : List Path, Sure (fun _ => True) (Path.transformedAll t ps)
  | [] => by rw [Path.transformedAll]; trivial
  | p :: rest => by
    rw [Path.transformedAll]
    refine (Path.sure_transformed ht p).bind fun _ _ => ?_
    exact (Path.sure_transformedAll ht rest).bind fun _ _ => trivial

end

namespace Value

/-- **All nodes of a value have a square matrix.** -/
def IsSquare (v : Value) : Prop := ∀ n, .mesh n ∈ v.leaves → n.transform.rotation.IsSquare

theorem isSquare_mesh {n : Node} : (mesh n).IsSquare ↔ n.transform.rotation.IsSquare := by
  simp [IsSquare, leaves]

theorem mem_leavesAll {w : Value} {vs : List Value} :
    w ∈ leavesAll vs ↔ ∃ v ∈ vs, w ∈ v.leaves := by
  induction vs with
  | nil => simp [leavesAll]
  | cons v rest ih => simp [leavesAll, ih]

theorem isSquare_tuple {vs : List Value} : (tuple vs).IsSquare ↔ ∀ v ∈ vs, v.IsSquare := by
  simp only [IsSquare, leaves, mem_leavesAll]
  constructor
  · exact fun h v hv n hn => h n ⟨v, hv, hn⟩
  · rintro h n ⟨v, hv, hn⟩
    exact h v hv n hn

theorem isSquare_of_flat {v : Value} (hflat : v.kind.isFlat = true) : v.IsSquare := by
  intro n hn
  cases v with
  | mesh n => cases hflat
  | tuple vs => cases hflat
  | _ => simp [leaves] at hn

mutual

theorem leaves_unwrap : ∀ v : Value, v.unwrap.leaves = v.leaves
  | .tuple [v] => by
    have hv := leaves_unwrap v
    simpa [unwrap, leaves, leavesAll] using hv
  | .tuple [] => by simp [unwrap, unwrapAll]
  | .tuple (v :: w :: rest) => by
    have hv := leaves_unwrap v
    have hw := leaves_unwrap w
    have hrest := leavesAll_unwrapAll rest
    simp only [unwrap, unwrapAll, leaves, leavesAll, hv, hw, hrest]
  | .number _ | .string _ | .color _ | .texture _ | .vector _ | .size _ | .path _ | .mesh _
  | .point _ | .range _ => by simp only [unwrap]

theorem leavesAll_unwrapAll : ∀ vs : List Value, leavesAll (unwrapAll vs) = leavesAll vs
  | [] => rfl
  | v :: rest => by
    have hv := leaves_unwrap v
    have hrest := leavesAll_unwrapAll rest
    simp only [unwrapAll, leavesAll, hv, hrest]

end

theorem IsSquare.unwrap {v : Value} (h : v.IsSquare) : v.unwrap.IsSquare := by
  unfold IsSquare
  rw [leaves_unwrap]
  exact h

theorem IsSquare.elements {v w : Value} (h : v.IsSquare) (hw : w ∈ v.elements) : w.IsSquare := by
  cases v with
  | tuple vs => exact isSquare_tuple.mp h w hw
  | _ =>
    rw [List.mem_singleton.mp hw]
    exact h

theorem kind_of_memberAt? {names : List String} {values : List Float} {name : String} {w : Value}
    (h : memberAt? names values name = some w) : w.kind = .number := by
  obtain ⟨x, -, rfl⟩ := Option.map_eq_some_iff.mp h
  rfl

theorem isSquare_of_number {v : Value} (h : v.kind = .number) : v.IsSquare :=
  isSquare_of_flat (by rw [h]; rfl)

theorem kind_of_numbersMember? {xs : List Float} {name : String} {w : Value}
    (h : numbersMember? xs name = some w) : w.kind = .number := by
  unfold numbersMember? at h
  split at h
  · split at h
    · exact kind_of_memberAt? h
    · cases h
  · split at h
    · split at h
      · exact kind_of_memberAt? h
      · cases h
    · split at h
      · split at h
        · exact kind_of_memberAt? h
        · cases h
      · cases h

/-- The members of a value are numbers, or parts of it. -/
theorem IsSquare.member {v w : Value} {name : String} (h : v.IsSquare)
    (hw : v.member? name = some w) : w.IsSquare := by
  fun_induction member? name v with
  | case1 v => exact isSquare_of_number (kind_of_memberAt? hw)
  | case2 v => exact isSquare_of_number (kind_of_memberAt? hw)
  | case3 c => exact isSquare_of_number (kind_of_memberAt? hw)
  | case4 r => exact isSquare_of_number (kind_of_memberAt? hw)
  | case5 vs i hi => exact isSquare_tuple.mp h w (List.mem_of_getElem? hw)
  | case6 vs hi xs hxs => exact isSquare_of_number (kind_of_numbersMember? hw)
  | case7 hi v hv ih => exact ih (isSquare_tuple.mp h v List.mem_cons_self) hw
  | case8 => cases hw
  | case9 => cases hw

end Value

/-- **A value that is moved** keeps a square matrix. -/
theorem Scope.sure_placed {t : Transform Float} (ht : t.rotation.IsSquare) {v : Value}
    (hv : v.IsSquare) : Sure Value.IsSquare (Scope.placed t v) := by
  have hflat {w : Value} (h : w.kind = .path ∨ w.kind = .point ∨ w.kind = .vector) :
      w.IsSquare := by
    rcases h with h | h | h <;> exact Value.isSquare_of_flat (by rw [h]; rfl)
  cases v with
  | mesh n =>
    have hmoved := Transform.sure_followedBy (Value.isSquare_mesh.mp hv) ht
    have hnode : Sure (fun n => (Value.mesh n).IsSquare) (n.transformed t) := by
      refine hmoved.bind fun u hu => ?_
      exact Value.isSquare_mesh.mpr hu
    exact hnode.map fun n hn => hn
  | path p => exact (p.sure_transformed ht).map fun _ _ => hflat (.inl rfl)
  | point p => exact (p.sure_transformed ht).map fun _ _ => hflat (.inr (.inl rfl))
  | vector v => exact (Transform.sure_apply ht v).map fun _ _ => hflat (.inr (.inr rfl))
  | _ => exact hv

/-! ### Names, scopes and stacks -/

/-- A name that stands for a constant stands for one with square matrices. -/
def Symbol.IsSquare : Symbol → Prop
  | .constant v => v.IsSquare
  | _ => True

namespace Bindings

/-- **All constants of a table have square matrices.** -/
def IsSquare (b : Bindings Symbol) : Prop := ∀ e ∈ b.entries, e.2.IsSquare

variable {b b' : Bindings Symbol}

theorem isSquare_empty : (empty : Bindings Symbol).IsSquare := fun _ h => absurd h List.not_mem_nil

theorem IsSquare.set (h : b.IsSquare) (name : String) {symbol : Symbol} (hs : symbol.IsSquare) :
    (b.set name symbol).IsSquare := by
  intro e he
  rcases mem_setEntry he with rfl | he
  · exact hs
  · exact h e he

theorem IsSquare.update (h : b.IsSquare) (h' : b'.IsSquare) : (b.update b').IsSquare := by
  unfold Bindings.update
  obtain ⟨entries⟩ := b'
  induction entries generalizing b with
  | nil => exact h
  | cons e rest ih =>
    exact ih (h.set e.1 (h' e List.mem_cons_self)) fun e' he' => h' e' (List.mem_cons_of_mem _ he')

theorem IsSquare.get (h : b.IsSquare) {name : String} {symbol : Symbol}
    (hget : b.get? name = some symbol) : symbol.IsSquare := by
  obtain ⟨l₁, l₂, heq, -⟩ := List.lookup_eq_some_iff.mp hget
  refine h (name, symbol) ?_
  rw [heq]
  exact List.mem_append_right l₁ List.mem_cons_self

end Bindings

/-- Standard names stand for no nodes. -/
theorem SymbolTable.isSquare_symbols (t : SymbolTable) : t.symbols.IsSquare := by
  have hflat : (t.symbols.entries.all fun e => match e.2 with
      | .constant v => v.kind.isFlat
      | _ => true) = true := by
    cases t <;> rfl
  intro e he
  have hentry := List.all_eq_true.mp hflat e he
  obtain ⟨name, symbol⟩ := e
  cases symbol with
  | constant v => exact Value.isSquare_of_flat hentry
  | _ => trivial

/-- **A scope holds square matrices only.** -/
structure Scope.IsSquare (s : Scope) : Prop where
  transform : s.transform.rotation.IsSquare
  childTransform : s.childTransform.rotation.IsSquare
  children : ∀ v ∈ s.children, v.IsSquare
  definitions : s.definitions.IsSquare
  callerDefinitions : s.callerDefinitions.IsSquare

/-- **A stack that a script can make**: it holds square matrices only, and a block that has a name
was defined no higher than where it is named. -/
structure Orderly (stack : List Scope) : Prop where
  levels : Knows (fun height c => c.level ≤ height) stack
  square : ∀ s ∈ stack, s.IsSquare

namespace Orderly

variable {s inner : Scope} {below : List Scope}

theorem top (h : Orderly (s :: below)) : s.IsSquare := h.square s List.mem_cons_self

theorem rest (h : Orderly (s :: below)) : Orderly below :=
  ⟨h.levels.2, fun t ht => h.square t (List.mem_cons_of_mem s ht)⟩

/-- Another scope in place of the top one, with the same names. -/
theorem keep (h : Orderly (s :: below)) (hdefinitions : inner.definitions = s.definitions)
    (hcaller : inner.callerDefinitions = s.callerDefinitions)
    (htransform : inner.transform.rotation.IsSquare)
    (hchild : inner.childTransform.rotation.IsSquare)
    (hchildren : ∀ v ∈ inner.children, v.IsSquare) : Orderly (inner :: below) := by
  refine ⟨h.levels.congr hdefinitions hcaller, fun t ht => ?_⟩
  rcases List.mem_cons.mp ht with rfl | ht
  · exact ⟨htransform, hchild, hchildren, hdefinitions ▸ h.top.definitions,
      hcaller ▸ h.top.callerDefinitions⟩
  · exact h.rest.square t ht

theorem define (h : Orderly (s :: below)) (name : String) {symbol : Symbol}
    (hsquare : symbol.IsSquare) (hlevel : ∀ c, symbol = .closure c → c.level ≤ below.length) :
    Orderly (s.define name symbol :: below) := by
  refine ⟨h.levels.define name hlevel, fun t ht => ?_⟩
  rcases List.mem_cons.mp ht with rfl | ht
  · exact { h.top with definitions := h.top.definitions.set name hsquare }
  · exact h.rest.square t ht

/-- A scope that is entered. -/
theorem enter (h : Orderly (s :: below)) (hlevels : Knows (fun height c => c.level ≤ height)
    (inner :: s :: below)) (hsquare : inner.IsSquare) : Orderly (inner :: s :: below) := by
  refine ⟨hlevels, fun t ht => ?_⟩
  rcases List.mem_cons.mp ht with rfl | ht
  · exact hsquare
  · exact h.square t ht

/-- **What a name stands for** is square, and a block that has a name was defined below it. -/
theorem symbol (h : Orderly (s :: below)) {name : String} {symbol : Symbol}
    (hname : Scope.symbol? (s :: below) name = some symbol) :
    symbol.IsSquare ∧ ∀ c, symbol = .closure c → c.level ≤ below.length := by
  refine ⟨?_, ?_⟩
  · have hfind : ∀ way : List Scope, (∀ t ∈ way, t.IsSquare) →
        ∀ y, Scope.findDefinition? way name = some y → y.IsSquare := by
      intro way
      induction way with
      | nil => intro _ y hy; cases hy
      | cons t rest ih =>
        intro hway y hy
        rw [Scope.findDefinition?] at hy
        split at hy
        · rename_i found hget
          cases hy
          exact (hway t List.mem_cons_self).definitions.get hget
        · exact ih (fun u hu => hway u (List.mem_cons_of_mem t hu)) y hy
    rw [Scope.symbol?] at hname
    split at hname
    · rename_i found hfound
      cases hname
      exact hfind _ (fun t ht => h.square t (Scope.mem_of_mem_chainFrom ht)) _ hfound
    · exact s.table.isSquare_symbols.get hname
  · rintro c rfl
    exact h.levels.of_symbol? (fun _ _ => Nat.le_succ_of_le) hname

/-- The names that a block is called with are those of square constants. -/
theorem visibleDefinitions (h : Orderly (s :: below)) :
    (Scope.visibleDefinitions (s :: below)).IsSquare := by
  have hfold : ∀ (way : List Scope) (b : Bindings Symbol), b.IsSquare →
      (∀ t ∈ way, t.IsSquare) →
      (way.foldl (fun b t => b.update t.definitions) b).IsSquare := by
    intro way
    induction way with
    | nil => exact fun _ hb _ => hb
    | cons t rest ih =>
      intro b hb hway
      exact ih _ (hb.update (hway t List.mem_cons_self).definitions)
        fun u hu => hway u (List.mem_cons_of_mem t hu)
  refine hfold _ _ Bindings.isSquare_empty fun t ht => ?_
  exact h.square t (Scope.mem_of_mem_chainFrom (List.mem_reverse.mp ht))

theorem isSquare_push (s : Scope) (level : Nat) (block : BlockType) :
    (s.push level block).IsSquare where
  transform := Transform.isSquare_identity
  childTransform := Transform.isSquare_identity
  children v hv := absurd hv (by simp [Scope.push])
  definitions := Bindings.isSquare_empty
  callerDefinitions := Bindings.isSquare_empty

/-- The scope of a block. -/
theorem push (h : Orderly (s :: below)) (block : BlockType) :
    Orderly (s.push below.length block :: s :: below) :=
  h.enter (h.levels.enter (fun _ _ => Nat.le_succ_of_le) (.block (Scope.Gains.refl _)))
    (isSquare_push ..)

/-- The scope of a block that is called with children. -/
theorem gained (h : Orderly (s :: below)) {s' : Scope} {level : Nat} {block : BlockType}
    (hgains : (s'.push level block).Gains inner) (hsquare : inner.IsSquare) :
    Orderly (inner :: s :: below) := by
  have hempty (b : Bindings Symbol) (hb : b = .empty) :
      b.Blocks fun c => c.level ≤ (s :: below).length := hb ▸ Bindings.blocks_empty _
  refine h.enter ⟨⟨hempty _ ?_, hempty _ ?_⟩, h.levels⟩ hsquare
  · exact hgains.definitions
  · exact hgains.extends.callerDefinitions

/-- The scope of a block that is called with a body. -/
theorem call (h : Orderly (s :: below)) (block : BlockType) :
    Orderly ({ s.push below.length block with
      callerDefinitions := Scope.visibleDefinitions (s :: below) } :: s :: below) :=
  h.enter (h.levels.enter (fun _ _ => Nat.le_succ_of_le) (.call block))
    { isSquare_push s below.length block with callerDefinitions := h.visibleDefinitions }

theorem definition (h : Orderly (s :: below)) :
    Orderly (s.pushDefinition below.length :: s :: below) :=
  h.enter (h.levels.enter (fun _ _ => Nat.le_succ_of_le) .definition)
    { isSquare_push s below.length .group with }

theorem turn (h : Orderly (s :: below)) :
    Orderly (s.pushLoop below.length :: s :: below) :=
  h.enter (h.levels.turn (fun _ _ => Nat.le_succ_of_le) _)
    { h.top with definitions := Bindings.isSquare_empty }

/-- The scope of the body of a defined block. -/
theorem body (h : Orderly (s :: below)) (c : Closure) (defining : Scope) :
    Orderly (Runner.bodyScope c defining s :: s :: below) :=
  h.enter (h.levels.body (fun _ _ => Nat.le_succ_of_le) c defining) {
    transform := h.top.transform
    childTransform := Transform.isSquare_identity
    children := h.top.children
    definitions := h.top.callerDefinitions.update h.top.definitions
    callerDefinitions := Bindings.isSquare_empty }

end Orderly

/-! ### What blocks build -/

namespace Scope.IsSquare

variable {s : Scope}

theorem sure_placedPath (h : s.IsSquare) (p : Path) : Sure Value.IsSquare (s.placedPath p) :=
  (p.sure_transformed h.transform).map fun _ _ => Value.isSquare_of_flat rfl

theorem sure_placedPaths (h : s.IsSquare) (ps : List Path) :
    Sure (fun vs => ∀ v ∈ vs, v.IsSquare) (s.placedPaths ps) := by
  induction ps with
  | nil => exact fun v hv => absurd hv List.not_mem_nil
  | cons p rest ih =>
    refine (h.sure_placedPath p).bind fun v hv => ih.bind fun vs hvs => ?_
    exact List.forall_mem_cons.mpr ⟨hv, hvs⟩

/-- **The value of a defined block** whose body leaves a square scope. -/
theorem sure_resultOf (h : s.IsSquare) : Sure Value.IsSquare (Runner.resultOf s) := by
  unfold Runner.resultOf
  split
  · next n hn =>
    have hchild : (Value.mesh n).IsSquare := h.children _ (by
      rw [← Array.mem_toList_iff, hn]
      exact List.mem_singleton_self _)
    refine (Transform.sure_followedBy (Value.isSquare_mesh.mp hchild) h.transform).bind ?_
    exact fun t ht => Value.isSquare_mesh.mpr ht
  · split
    · exact Value.isSquare_mesh.mpr h.transform
    · exact h.sure_placedPath _
  · split
    · exact (h.sure_placedPaths _).map fun _ hvs => Value.isSquare_tuple.mpr hvs
    · exact Value.isSquare_mesh.mpr h.transform

end Scope.IsSquare

end SceneLang
