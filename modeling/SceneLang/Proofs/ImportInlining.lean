import SceneLang.Proofs.SimulationStatements

/-!
# Importing a script is running its statements

A script is imported into a scope by running its statements there, with another source, another file
and one more file that must not be imported.  None of this has an effect on what the statements do,
except that errors say where they are: if the import succeeds, then the same statements succeed
without it and leave the same behind (`import_eq_statements`).  Only places may differ: those of the
nodes that are made, and the source and the file of the blocks that are defined (`State.Alike`).
-/

namespace SceneLang

/-- **Two states that a script cannot tell apart.**  The nodes, constants and blocks in them are the
same up to where they come from, and everything else is the same. -/
structure State.Alike (st st' : State) : Prop where
  children : st'.scope.children.map Value.bare = st.scope.children.map Value.bare
  /-- As geometry, a child is to its counterpart what it is to itself. -/
  geometry (i : Nat) (n : Node) : st.scope.children[i]? = some (.mesh n) →
    ∃ n', st'.scope.children[i]? = some (.mesh n') ∧ n.same n' = n.same n
  names : st'.scope.definitions.names = st.scope.definitions.names
  constants (name : String) (v : Value) : st.scope.definitions.get? name = some (.constant v) →
    ∃ v', st'.scope.definitions.get? name = some (.constant v') ∧ v'.bare = v.bare
  blocks (name : String) (c : Closure) : st.scope.definitions.get? name = some (.closure c) →
    ∃ c', st'.scope.definitions.get? name = some (.closure c') ∧ c'.body = c.body ∧
      c'.options = c.options ∧ c'.level = c.level
  name : st'.scope.name = st.scope.name
  transform : st'.scope.transform = st.scope.transform
  childTransform : st'.scope.childTransform = st.scope.childTransform
  material : st'.scope.material = st.scope.material
  opacity : st'.scope.opacity = st.scope.opacity
  detail : st'.scope.detail = st.scope.detail
  font : st'.scope.font = st.scope.font
  background : st'.scope.background = st.scope.background
  source : st'.scope.source = st.scope.source
  file : st'.scope.file = st.scope.file
  random : st'.world.random = st.world.random
  notices : st'.world.notices.map Notice.bare = st.world.notices.map Notice.bare
  importing : st'.world.importing = st.world.importing
  polls : st'.world.polls = st.world.polls
  turns : st'.world.turns = st.world.turns

section Inlining

variable {st st' : State}

/-- States that are the same without places are alike, if they stand in the same place. -/
theorem State.alike_of_bare (hscope : st'.scope.bare = st.scope.bare)
    (hworld : st'.world.bare = st.world.bare) (hsource : st'.scope.source = st.scope.source)
    (hfile : st'.scope.file = st.scope.file)
    (himporting : st'.world.importing = st.world.importing) : st.Alike st' := by
  have hread {β : Type} (f : Scope → β) (hf : ∀ s : Scope, f s.bare = f s) :
      f st'.scope = f st.scope := by
    rw [← hf st'.scope, hscope, hf]
  have hreadWorld {β : Type} (f : World → β) (hf : ∀ w : World, f w.bare = f w) :
      f st'.world = f st.world := by
    rw [← hf st'.world, hworld, hf]
  have hchildren : st'.scope.children.map Value.bare = st.scope.children.map Value.bare :=
    congrArg Scope.children hscope
  have hsymbols (name : String) : (st'.scope.definitions.get? name).map Symbol.bare
      = (st.scope.definitions.get? name).map Symbol.bare := by
    rw [← Bindings.get?_bare, ← Bindings.get?_bare]
    exact congrArg (fun s : Scope => s.definitions.get? name) hscope
  have hnames (s : Scope) : s.bare.definitions.names = s.definitions.names :=
    Bindings.names_map _ _
  refine ⟨hchildren, fun i n hn => ?_, hread (fun s => s.definitions.names) hnames,
    fun name v hv => ?_, fun name c hc => ?_, hread Scope.name fun _ => rfl,
    hread Scope.transform fun _ => rfl, hread Scope.childTransform fun _ => rfl,
    hread Scope.material fun _ => rfl, hread Scope.opacity fun _ => rfl,
    hread Scope.detail fun _ => rfl, hread Scope.font fun _ => rfl,
    hread Scope.background fun _ => rfl, hsource, hfile, hreadWorld World.random fun _ => rfl,
    congrArg World.notices hworld, himporting, hreadWorld World.polls fun _ => rfl,
    hreadWorld World.turns fun _ => rfl⟩
  · have hchild := congrArg (·[i]?) hchildren
    simp only [Array.getElem?_map, hn, Option.map_some, Option.map_eq_some_iff] at hchild
    obtain ⟨v', hv', hbare⟩ := hchild
    obtain ⟨n', rfl, hnode⟩ := Value.exists_of_bare_mesh hbare
    exact ⟨n', hv', Node.same_of_bare_eq hnode⟩
  · have hsymbol := hsymbols name
    rw [hv, Option.map_some, Option.map_eq_some_iff] at hsymbol
    obtain ⟨y, hy, hbare⟩ := hsymbol
    cases y with
    | constant v' => exact ⟨v', hy, Symbol.constant.inj hbare⟩
    | _ => cases hbare
  · have hsymbol := hsymbols name
    rw [hc, Option.map_some, Option.map_eq_some_iff] at hsymbol
    obtain ⟨y, hy, hbare⟩ := hsymbol
    cases y with
    | closure c' => exact ⟨c', hy, Closure.parts_of_bare (Symbol.closure.inj hbare)⟩
    | _ => cases hbare

variable {setting : Setting} {outer : List Scope} {place : FilePath} {text : String} {p : Program}

/-- **An import that succeeds** has run the statements of the script with another source and file
and with its file on the stack of imports, and these are as before in the end. -/
theorem statements_of_importFile {r : Runner} {path : String}
    (hscript : setting.ScriptAt place text p)
    (hresolve : ∀ host, setting.host = some host → host.resolve path = .ok place)
    (himport : r.importFile ⟨setting, outer⟩ path st = .ok () st') :
    ∃ w s, w.bare = st.world.bare ∧ w.importing = st.world.importing ∧
      r.statements ⟨setting, outer⟩ p.statements ((State.mk st.scope w).importing place p)
        = .ok () s ∧
      st' = st.resuming s := by
  obtain ⟨host, hhost, -⟩ := hscript.read
  let w : World := { st.world with
    linked := if st.world.linked.contains place then st.world.linked
      else st.world.linked.push place }
  have hresolved : setting.resolve path st = .ok place ⟨st.scope, w⟩ := by
    simp only [Setting.resolve, hhost]
    rw [hresolve host hhost]
    rfl
  rw [Runner.importFile, Step.bind_ok _ hresolved] at himport
  simp only [hhost, hscript.suffix, if_true] at himport
  obtain ⟨_, q, s, hscript', hrun, rfl⟩ :=
    Runner.importScript_eq_ok hhost hscript.suffix himport
  obtain ⟨-, rfl⟩ := hscript.unique hscript'
  exact ⟨w, s, rfl, rfl, hrun, rfl⟩

/-- **Importing a script is running its statements.** -/
theorem import_eq_statements (fuel : Nat) (path : String) (hscript : setting.ScriptAt place text p)
    (hresolve : ∀ host, setting.host = some host → host.resolve path = .ok place)
    (himport : (Runner.ofFuel fuel).importFile ⟨setting, outer⟩ path st = .ok () st') :
    ∃ st₂, (Runner.ofFuel fuel).statements ⟨setting, outer⟩ p.statements st = .ok () st₂ ∧
      st'.Alike st₂ := by
  obtain ⟨w, s, hworld, himporting, hrun, hst'⟩ :=
    statements_of_importFile hscript hresolve himport
  have hstart : Akin False outer outer ((State.mk st.scope w).importing place p) st :=
    ⟨rfl, rfl, hworld.symm, himporting ▸ List.sublist_cons_self place w.importing, False.elim⟩
  have hsimulates := (simulates_ofFuel setting fuel).statements p.statements hstart
  obtain ⟨_, st₂, hdirect, -, hM⟩ := hsimulates.of_ok hrun
  -- the statements leave the source, the file and the stack of imports alone, in both runs
  have hagree := (Accord.same setting).agree_ofFuel .always fuel
  have hframe (start : State) : Frame .statement start (Result.state
      ((Runner.ofFuel fuel).statements ⟨setting, outer⟩ p.statements start)) :=
    (hagree.law.statements (fun _ _ => trivial) ⟨trivial, rfl⟩).frame false
  have himported := hframe ((State.mk st.scope w).importing place p)
  have hrunDirectly := hframe st
  rw [hrun] at himported
  rw [hdirect] at hrunDirectly
  have hbalanced : s.world.importing.tail = st.world.importing :=
    (congrArg List.tail himported.world.importing).trans himporting
  refine ⟨st₂, hdirect, ?_⟩
  rw [hst']
  exact State.alike_of_bare hM.scope hM.world hrunDirectly.scope.source hrunDirectly.scope.file
    (hrunDirectly.world.importing.trans hbalanced.symm)

end Inlining

namespace Leaf

/-- The file of the script. -/
def place : FilePath := ⟨"/", ["leaf.shape"]⟩

/-- A script that defines a block and calls it. -/
def script : Program where
  source := "define leaf \x7b cube \x7d\nleaf"
  statements := [
    .define ⟨0, 20⟩ ⟨⟨7, 11⟩, "leaf"⟩
      (.block (.mk ⟨12, 20⟩ [.command ⟨14, 18⟩ ⟨⟨14, 18⟩, "cube"⟩ none])),
    .command ⟨21, 25⟩ ⟨⟨21, 25⟩, "leaf"⟩ none]

/-- The state of a program that imports it. -/
def start : State := { scope := { source := "import \"leaf.shape\"" }, world := {} }

/-- Whether a step has left one node and the block. -/
def leavesLeaf : EStateM.Result Exit State Unit → Bool
  | .ok _ st => st.scope.children.map Value.kind = #[.mesh] ∧ st.scope.definitions.names = ["leaf"]
  | .error _ _ => false

theorem exists_of_leavesLeaf {res : EStateM.Result Exit State Unit} (h : leavesLeaf res) :
    ∃ st, res = .ok () st ∧ st.scope.children.map Value.kind = #[.mesh] ∧
      st.scope.definitions.names = ["leaf"] := by
  cases res with
  | ok _ st => exact ⟨st, rfl, of_decide_eq_true h⟩
  | error x st => cases h

/-- The node and the block are the same, whether the script is imported or run directly. -/
theorem import_eq_statements_leaf :
    let setting := Setting.ofScript place script
    setting.ScriptAt place script.source script ∧
    (∀ host, setting.host = some host → host.resolve "leaf.shape" = .ok place) ∧
    ∃ st₁ st₂, (Runner.ofFuel 5).importFile ⟨setting, []⟩ "leaf.shape" start = .ok () st₁ ∧
      (Runner.ofFuel 5).statements ⟨setting, []⟩ script.statements start = .ok () st₂ ∧
      st₁.Alike st₂ ∧ st₁.scope.children.map Value.kind = #[.mesh] ∧
      st₁.scope.definitions.names = ["leaf"] := by
  intro setting
  have hscript : setting.ScriptAt place script.source script :=
    ⟨by decide, ⟨_, rfl, rfl⟩, ⟨_, rfl, rfl⟩⟩
  have hresolve (host : Host) (hhost : setting.host = some host) :
      host.resolve "leaf.shape" = .ok place := by
    cases hhost
    rfl
  have hleaves : leavesLeaf ((Runner.ofFuel 5).importFile
      ⟨Setting.ofScript place script, []⟩ "leaf.shape" start) := by
    decide +kernel
  obtain ⟨st₁, himport, hleaf⟩ := exists_of_leavesLeaf hleaves
  obtain ⟨st₂, hdirect, halike⟩ :=
    import_eq_statements 5 "leaf.shape" hscript hresolve himport
  exact ⟨hscript, hresolve, st₁, st₂, himport, hdirect, halike, hleaf⟩

end Leaf

end SceneLang
