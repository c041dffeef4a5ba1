import SceneLang.Proofs.Moments

/-!
# Children are of the kinds that their scopes take

Children are added, promoted, opened, shared between the turns of a loop and handed to the bodies of
defined blocks.  At every moment of a run, each scope of the stack holds only children of the kinds
that it takes (`fitting`).  So the filters by kind that blocks and scenes apply to children drop
nothing (`children_fit`).
-/

namespace SceneLang

/-- **A scope that holds only children of the kinds that it takes.** -/
def Scope.Fits (s : Scope) : Prop := ∀ v ∈ s.children, v.kind ∈ s.childKinds

/-- A scope that fits, and takes meshes and paths if it is one of a definition. -/
structure Scope.Sound (s : Scope) : Prop where
  fits : s.Fits
  definition : s.table = .definition → s.childKinds = definitionChildKinds

namespace Scope

theorem fits_of_empty {s : Scope} (h : s.children = #[]) : s.Fits := by
  intro v hv
  rw [h] at hv
  exact absurd hv (Array.not_mem_empty v)

theorem Fits.extends {s s' : Scope} (h : s.Fits) (hs : s.Extends s') : s'.Fits := by
  intro v hv
  obtain ⟨vs, hvs, hk⟩ := hs.children
  rw [hs.childKinds]
  rw [← Array.mem_toList_iff, hvs, List.mem_append] at hv
  rcases hv with hv | hv
  · exact h v (Array.mem_toList_iff.mp hv)
  · exact hk v hv

theorem Sound.extends {s s' : Scope} (h : s.Sound) (hs : s.Extends s') : s'.Sound := by
  refine ⟨h.fits.extends hs, fun ht => ?_⟩
  rw [hs.childKinds]
  exact h.definition (hs.table ▸ ht)

/-- A scope that takes no children has none. -/
theorem Fits.children_eq_empty {s : Scope} (h : s.Fits) (hk : s.childKinds = []) :
    s.children = #[] := by
  refine Array.eq_empty_iff_forall_not_mem.mpr fun v hv => ?_
  have := h v hv
  rw [hk] at this
  exact absurd this List.not_mem_nil

theorem Sound.mesh_or_path {s : Scope} (h : s.Sound) (ht : s.table = .definition) :
    ∀ v ∈ s.children, v.kind = .mesh ∨ v.kind = .path := by
  intro v hv
  have hk := h.fits v hv
  rw [h.definition ht] at hk
  simpa [definitionChildKinds] using hk

/-- No block sees the names of a definition. -/
theorem table_ne_definition (block : BlockType) : block.table ≠ .definition := by
  induction block with
  | extending base options ih => exact ih
  | _ => exact fun h => by cases h

theorem sound_push (s : Scope) (level : Nat) (block : BlockType) : (s.push level block).Sound :=
  ⟨fits_of_empty rfl, fun h => absurd h (table_ne_definition block)⟩

/-- **Every scope that is entered is sound**, if the scope that it is entered from is. -/
theorem sound_of_opening {env : Env} {outer s : Scope} (h : Opening env outer s)
    (houter : outer.Sound) : s.Sound := by
  cases h with
  | entrance h =>
    cases h with
    | block h => exact (sound_push outer env.level _).extends h.extends
    | call block =>
      obtain ⟨hfits, hdefinition⟩ := sound_push outer env.level block
      exact ⟨hfits, hdefinition⟩
    | definition => exact ⟨fits_of_empty rfl, fun _ => rfl⟩
  | body hlevel hkinds => exact ⟨fits_of_empty (houter.fits.children_eq_empty hkinds), fun _ => rfl⟩

end Scope

/-- **All scopes of the stack are sound.** -/
def fitting : Invariant where
  Holds _ env st := ∀ s ∈ st.scope :: env.enclosing, s.Sound
  expression h := h
  frame h hframe := by
    have hactive := (h _ List.mem_cons_self).extends hframe.statement.scope
    exact List.forall_mem_cons.mpr ⟨hactive, (List.forall_mem_cons.mp h).2⟩
  enter h hopen := by
    have hinner := Scope.sound_of_opening hopen (h _ List.mem_cons_self)
    exact List.forall_mem_cons.mpr ⟨hinner, h⟩
  turn h := by
    have hactive := h _ List.mem_cons_self
    exact List.forall_mem_cons.mpr ⟨⟨hactive.fits, hactive.definition⟩, h⟩
  source text h := by
    have hactive := h _ List.mem_cons_self
    exact List.forall_mem_cons.mpr
      ⟨⟨hactive.fits, hactive.definition⟩, (List.forall_mem_cons.mp h).2⟩
  file h _ := by
    have hactive := h _ List.mem_cons_self
    exact List.forall_mem_cons.mpr
      ⟨⟨hactive.fits, hactive.definition⟩, (List.forall_mem_cons.mp h).2⟩

/-- A program starts without children. -/
theorem fitting_start (setting : Setting) (p : Program) :
    fitting.Holds .statement { setting } p.start := by
  intro s hs
  rw [List.mem_singleton.mp hs]
  exact ⟨Scope.fits_of_empty rfl, fun h => by cases h⟩

/-- **What is true of the children at a moment.** -/
structure Moment.ChildrenFit (m : Moment) : Prop where
  /-- All scopes hold only children of the kinds that they take. -/
  stack : ∀ s ∈ m.stack, s.Fits
  /-- Scopes of definitions hold only meshes and paths. -/
  definition : ∀ s ∈ m.stack, s.table = .definition →
    ∀ v ∈ s.children, v.kind = .mesh ∨ v.kind = .path
  /-- A standard block is built from children of the kinds that it takes. -/
  builder : ∀ shape, m.task = .build (.shape shape) →
    ∀ v ∈ m.state.scope.children, v.kind ∈ shape.blockType.childKinds
  /-- A defined block is called without children. -/
  caller : ∀ c, m.task = .build (.closure c) → m.state.scope.children = #[]
  /-- The body of a defined block runs and ends with meshes and paths only. -/
  body : ∀ block, m.task = .body block →
    ∀ v ∈ m.state.scope.children, v.kind = .mesh ∨ v.kind = .path

theorem fitting_holds_of_at {m : Moment} (h : fitting.At m) : ∀ s ∈ m.stack, s.Sound := by
  obtain ⟨task, env, st, isOver⟩ := m
  cases task with
  | expression e => exact h
  | statement s => exact h
  | build symbol => exact h.1
  | body block => exact h.1

theorem childrenFit_of_at {m : Moment} (h : fitting.At m) : m.ChildrenFit := by
  have hsound := fitting_holds_of_at h
  have hactive : m.state.scope.Sound := hsound _ List.mem_cons_self
  refine ⟨fun s hs => (hsound s hs).fits, fun s hs ht => (hsound s hs).mesh_or_path ht, ?_, ?_, ?_⟩
  · intro shape htask v hv
    rw [Invariant.At, htask] at h
    have hk := hactive.fits v hv
    rwa [h.2 shape.blockType rfl] at hk
  · intro c htask
    rw [Invariant.At, htask] at h
    exact hactive.fits.children_eq_empty (h.2 c.blockType rfl)
  · intro block htask
    rw [Invariant.At, htask] at h
    exact hactive.mesh_or_path h.2

/-- Meshes are not dropped from a scope of meshes. -/
theorem Scope.Fits.map_childNodes {s : Scope} (h : s.Fits) (hk : s.childKinds = [.mesh]) :
    s.childNodes.map .mesh = s.children.toList := by
  have hmesh : ∀ v ∈ s.children.toList, v.kind = .mesh := by
    intro v hv
    have := h v (Array.mem_toList_iff.mp hv)
    rw [hk] at this
    exact List.mem_singleton.mp this
  unfold childNodes
  generalize s.children.toList = vs at hmesh
  induction vs with
  | nil => rfl
  | cons v rest ih =>
    obtain ⟨hv, hrest⟩ := List.forall_mem_cons.mp hmesh
    cases v with
    | mesh n =>
      show Value.mesh n :: (rest.filterMap Value.mesh?).map .mesh = _
      rw [ih hrest]
    | _ => cases hv

/-- The outermost scope only ever gains children. -/
theorem Program.final_extends (fuel : Nat) (setting : Setting) (p : Program) :
    p.start.scope.Extends (p.final fuel setting).scope := by
  have hagree := (Accord.same setting).agree_ofFuel fitting fuel
  exact (hagree.program p (fitting_start setting p)).frame.scope

/-- **Children are of the kinds that their scopes take**, at every moment of every run and however
it ends.  Adding a value keeps it so even if it stops half-way, and a scene has all children of the
outermost scope, in order. -/
theorem Program.children_fit (setting : Setting) (p : Program) :
    (∀ m, Reaches (fun r => r.program { setting } p) p.start m → m.ChildrenFit) ∧
    (∀ (s : Scope) (v : Value), s.Fits → (Result.state (Scope.add v s)).Fits) ∧
    (∀ fuel, (p.final fuel setting).scope.Fits) ∧
    ∀ fuel scene, (p.run fuel setting).result = .ok scene →
      scene.children.map .mesh = (p.final fuel setting).scope.children.toList := by
  have hfinal (fuel : Nat) : (p.final fuel setting).scope.Fits :=
    (fitting_start setting p _ List.mem_cons_self).fits.extends (p.final_extends fuel setting)
  refine ⟨fun m hm => ?_, fun s v hs => ?_, hfinal, fun fuel scene hscene => ?_⟩
  · have hact (r r' : Runner) (hagree : (Accord.same setting).Agree fitting r r') :
        r'.program { setting } p p.start = r.program { setting } p p.start :=
      (hagree.program p (fitting_start setting p)).rel
    exact childrenFit_of_at (Invariant.at_of_reaches hact hm)
  · exact hs.extends (Scope.added_add v s).gains.extends
  · rw [scene_eq_of_run hscene]
    exact (hfinal fuel).map_childNodes (p.final_extends fuel setting).childKinds

/-! ### A call of a defined block -/

namespace Twig

/-- A body without statements. -/
def body : Block := .mk ⟨12, 14⟩ []

/-- A program that defines a block and calls it. -/
def program : Program where
  source := "define twig \x7b\x7d\ntwig"
  statements := [
    .define ⟨0, 14⟩ ⟨⟨7, 11⟩, "twig"⟩ (.block body),
    .command ⟨15, 19⟩ ⟨⟨15, 19⟩, "twig"⟩ none]

/-- What the name of the block stands for. -/
def closure : Closure := ⟨body, .empty, 0, program.source, none⟩

/-- The outermost scope once the block is defined. -/
def root (index : Option Int) : Scope :=
  { source := program.source, sourceIndex := index, definitions := ⟨[("twig", .closure closure)]⟩ }

/-- The moment when the block is called. -/
def call : Moment where
  task := .build (.closure closure)
  env := ⟨{}, [root (some 15)]⟩
  state := ⟨(root (some 15)).push 0 closure.blockType, {}⟩
  isOver := false

/-- The block is called. -/
theorem reaches_call :
    Reaches (fun r => r.program ⟨{}, []⟩ program) program.start call := by
  refine reaches_of_alarm 1 fun alarm halarm => ⟨⟨root (some 15), {}⟩, ?_⟩
  -- nothing but the call of the block is stopped
  have hstatement (env : Env) (s : Statement) :
      (Runner.watched call alarm 1).statement env s
        = (Runner.watched call alarm 0).execute env s :=
    Moment.guard_of_task_ne fun h => by cases h
  have hbuild : (Runner.watched call alarm 0).buildIn ⟨{}, []⟩ call.state.scope
      (.closure closure) ⟨root (some 15), {}⟩ = .error alarm ⟨root (some 15), {}⟩ := by
    have hstart : (Runner.watched call alarm 0).build call.env (.closure closure) call.state
        = .error alarm call.state :=
      Moment.guard_start rfl
    exact congrArg (Result.settle _) hstart
  have hdefine : (Runner.watched call alarm 1).statement ⟨{}, []⟩
      (.define ⟨0, 14⟩ ⟨⟨7, 11⟩, "twig"⟩ (.block body)) program.start
        = .ok () ⟨root none, {}⟩ := by
    rw [hstatement]
    rfl
  have hcall : (Runner.watched call alarm 1).statement ⟨{}, []⟩
      (.command ⟨15, 19⟩ ⟨⟨15, 19⟩, "twig"⟩ none) ⟨root none, {}⟩
        = .error alarm ⟨root (some 15), {}⟩ := by
    rw [hstatement]
    show Result.mapExit (Exit.located ⟨15, 19⟩)
      ((Runner.buildIn _ _ call.state.scope (.closure closure) >>= Eval.addValue)
        ⟨root (some 15), {}⟩) = _
    rw [Step.bind_error _ hbuild, Result.mapExit, Exit.located_alarm halarm]
  have hrun : (Runner.watched call alarm 1).statements ⟨{}, []⟩ program.statements program.start
      = .error alarm ⟨root (some 15), {}⟩ :=
    (Step.bind_ok _ hdefine).trans (Step.bind_error _ hcall)
  exact congrArg (Result.settle _) hrun

/-- It is called without children. -/
theorem childrenFit_call :
    Reaches (fun r => r.program ⟨{}, []⟩ program) program.start call ∧ call.ChildrenFit :=
  ⟨reaches_call, (Program.children_fit {} program).1 call reaches_call⟩

end Twig

end SceneLang
