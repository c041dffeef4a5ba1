import SceneLang.Proofs.ImportErrors
import SceneLang.Proofs.Watch

/-!
# Where the nodes of defined blocks are located

A node says where it was written.  The node that a defined block gives is located in the text and in
the file that the scope of its body names, and this scope has them from the scope of the definition.
But an import changes the text and the file of the scope that it stands in, and changes them back in
the end.  So what counts is not where the block was written, but which file the scope of its
definition stands in when the block is called (`Runner.location_of_build`).

At every call in every run that scope is there, it stands in the program or in a file that is being
imported, and the node is located in that one (`Program.calls_located`).  This is the file of the
block as long as the scope has not changed it since the definition.  After an import the blocks of
the imported file are located in the file of the importer (`Borrowed.located_in_importer`).
-/

namespace SceneLang

/-! ### The location of a node -/

/-- A node that a defined block gives is located where the scope of its body is. -/
theorem Runner.location_of_resultOf {s : Scope} {n : Node} (h : resultOf s = .ok (.mesh n)) :
    n.location = s.location := by
  unfold resultOf at h
  split at h
  · rename_i m hchildren
    -- a single node is located anew
    cases htransform : m.transform.followedBy s.transform with
    | error f =>
      rw [htransform] at h
      cases h
    | ok t =>
      rw [htransform] at h
      cases h
      rfl
  · rename_i p hchildren
    split at h
    · cases h
      rfl
    · -- a path without a name stays a path
      unfold Scope.placedPath at h
      cases hp : p.transformed s.transform with
      | error f =>
        rw [hp] at h
        cases h
      | ok q =>
        rw [hp] at h
        cases h
  · split at h
    · cases hps : s.placedPaths s.childPaths with
      | error f =>
        rw [hps] at h
        cases h
      | ok ps =>
        rw [hps] at h
        cases h
    · cases h
      rfl

/-- Places of the text and the file that a scope names. -/
def Scope.Locates (s : Scope) (l : SourceLocation) : Prop :=
  ∃ i, l = .of s.source i (s.file.map FilePath.name)

/-- The place of a scope is one of its text and file. -/
theorem Scope.locates_of_location {s : Scope} {l : SourceLocation} (h : s.location = some l) :
    s.Locates l := by
  obtain ⟨i, -, hi⟩ := Option.map_eq_some_iff.mp h
  exact ⟨i, hi.symm⟩

theorem Scope.Locates.filename {s : Scope} {l : SourceLocation} (h : s.Locates l) :
    l.filename = s.file.map FilePath.name := by
  obtain ⟨i, rfl⟩ := h
  rfl

section Calls

variable {setting : Setting} {outer : List Scope} {c : Closure} {defining : Scope} {st st' : State}
  {n : Node} {l : SourceLocation}

/-- **The node of a defined block is located in the text and the file of the scope of its
definition**, as it stands at the call. -/
theorem Runner.location_of_build {fuel : Nat}
    (hlevel : Scope.atLevel? outer c.level = some defining)
    (h : runBuild fuel ⟨setting, outer⟩ (.closure c) st = .ok (.mesh n) st')
    (hl : n.location = some l) : defining.Locates l := by
  cases fuel with
  | zero => cases h
  | succ fuel =>
    have hcall : (ofFuel fuel).call ⟨setting, outer⟩ c st = .ok (.mesh n) st' := by
      have hbuild : (ofFuel fuel).callFromFile ⟨setting, outer⟩ c st = .ok (.mesh n) st' := h
      rw [callFromFile_apply] at hbuild
      split at hbuild
      · exact hbuild
      · exact Result.mapExit_eq_ok_iff.mp hbuild
    rcases Nat.lt_or_ge st.scope.depth deepestCall with hlt | hge
    · rw [call_of_body hlevel hlt, Result.settle_eq_ok_iff] at hcall
      obtain ⟨st₂, hvalue, -⟩ := hcall
      obtain ⟨_, st₁, hbody, hresult⟩ := Step.bind_eq_ok_iff.mp hvalue
      -- statements leave the text and the file of their scope as they are
      have hframe := (((Accord.same setting).agree_ofFuel .always fuel).body (st.scope :: outer)
        c.body { st with scope := bodyScope c defining st.scope } trivial rfl).frame
      rw [hbody] at hframe
      have hextends : (bodyScope c defining st.scope).Extends st₁.scope := hframe.scope
      have hnode : resultOf st₁.scope = .ok (.mesh n) := by
        rw [Eval.scope_bind] at hresult
        cases hres : resultOf st₁.scope with
        | error f =>
          rw [hres] at hresult
          cases hresult
        | ok v =>
          rw [hres] at hresult
          cases hresult
          rfl
      obtain ⟨i, hi⟩ := Scope.locates_of_location ((location_of_resultOf hnode).symm.trans hl)
      rw [hextends.source, hextends.file] at hi
      exact ⟨i, hi⟩
    · rw [call_of_deep hlevel hge] at hcall
      cases hcall

end Calls

/-! ### The files of scopes -/

/-- **Where the scopes of a stack stand** while files are being imported: each in the program or in
one of these files, with the text of it.  The blocks that have a name there come from such files as
well, and were defined no higher than where the name is visible. -/
structure Setting.Stands (setting : Setting) (main : Program) (files : List FilePath)
    (stack : List Scope) : Prop where
  tells : setting.Tells main stack
  files : ∀ s ∈ stack, ∀ place, s.file = some place → place ∈ files
  levels : Knows (fun height c => c.level ≤ height) stack

namespace Setting.Stands

variable {setting : Setting} {main : Program} {files : List FilePath} {s inner : Scope}
  {outer : List Scope}

theorem congr (h : setting.Stands main files (s :: outer)) (hsource : inner.source = s.source)
    (hfile : inner.file = s.file) (hdefinitions : inner.definitions = s.definitions)
    (hcaller : inner.callerDefinitions = s.callerDefinitions) :
    setting.Stands main files (inner :: outer) := by
  obtain ⟨hs, houter⟩ := List.forall_mem_cons.mp h.files
  refine ⟨h.tells.congr hsource hfile hdefinitions hcaller, List.forall_mem_cons.mpr ⟨?_, houter⟩,
    h.levels.congr hdefinitions hcaller⟩
  rw [hfile]
  exact hs

/-- A further scope, with the text and the file of one that stands right. -/
theorem cons (h : setting.Stands main files outer) (hs : s ∈ outer)
    (hsource : inner.source = s.source) (hfile : inner.file = s.file)
    (hblocks : Knows (fun _ c => setting.NamesSource main c.file c.source) (inner :: outer))
    (hlevels : Knows (fun height c => c.level ≤ height) (inner :: outer)) :
    setting.Stands main files (inner :: outer) := by
  refine ⟨h.tells.cons ?_ hblocks, List.forall_mem_cons.mpr ⟨?_, h.files⟩, hlevels⟩
  · rw [hsource, hfile]
    exact h.tells.scopes s hs
  · rw [hfile]
    exact h.files s hs

/-- A name that is defined here. -/
theorem define (h : setting.Stands main files (s :: outer)) (name : String) {symbol : Symbol}
    (hmade : Made outer s symbol) : setting.Stands main files (s.define name symbol :: outer) := by
  have hscope := h.tells.scopes s List.mem_cons_self
  refine ⟨⟨List.forall_mem_cons.mpr (List.forall_mem_cons.mp h.tells.scopes),
    h.tells.blocks.define name ?_⟩, List.forall_mem_cons.mpr (List.forall_mem_cons.mp h.files),
    h.levels.define name ?_⟩
  · rintro c rfl
    cases hmade
    exact hscope
  · rintro c rfl
    cases hmade
    exact Nat.le_refl _

/-- **The body of a block stands where the scope of its definition does.** -/
theorem body (h : setting.Stands main files (s :: outer)) {c : Closure} {defining : Scope}
    (hlevel : Scope.atLevel? outer c.level = some defining) :
    setting.Stands main files (Runner.bodyScope c defining s :: s :: outer) :=
  h.cons (List.mem_cons_of_mem s (Scope.mem_of_atLevel? hlevel)) rfl rfl
    (h.tells.blocks.body (fun _ _ => id) c defining)
    (h.levels.body (fun _ _ => Nat.le_succ_of_le) c defining)

/-- **An import** changes the text and the file of the scope that it stands in. -/
theorem script (h : setting.Stands main files (s :: outer)) {place : FilePath} {text : String}
    {p : Program} (hscript : setting.ScriptAt place text p) :
    setting.Stands main (place :: files) ({ s with source := p.source, file := some place } :: outer)
    := by
  obtain ⟨-, houter⟩ := List.forall_mem_cons.mp h.files
  refine ⟨⟨List.forall_mem_cons.mpr ⟨⟨text, p, hscript, rfl⟩,
    (List.forall_mem_cons.mp h.tells.scopes).2⟩, h.tells.blocks.congr rfl rfl⟩,
    List.forall_mem_cons.mpr ⟨?_, fun t ht place' ht' => List.mem_cons_of_mem _ (houter t ht _ ht')⟩,
    h.levels.congr rfl rfl⟩
  rintro _ ⟨⟩
  exact List.mem_cons_self

end Setting.Stands

/-- What is known where nothing but the files of scopes matters. -/
def Regime.standing (setting : Setting) (main : Program) : Regime setting where
  Writes _ _ := True
  part _ _ := trivial
  Points _ _ := True
  own _ _ := trivial
  upperBound _ := trivial
  through _ _ := trivial
  Holds _ outer files st :=
    setting.Stands main files (st.scope :: outer) ∧ st.world.importing = files
  importing_eq h := h.2
  expression h := h
  keep h hframe hdefinitions := by
    obtain ⟨hstands, hfiles⟩ := h
    have hextends := hframe.scope.extends
    exact ⟨hstands.congr hextends.source hextends.file hdefinitions hextends.callerDefinitions,
      hframe.world.importing.trans hfiles⟩
  define name h hmade _ := ⟨h.1.define name hmade, h.2⟩
  enter h hs := ⟨h.1.cons List.mem_cons_self hs.source.1 hs.source.2
    (h.1.tells.blocks.enter (fun _ _ => id) hs)
    (h.1.levels.enter (fun _ _ => Nat.le_succ_of_le) hs), h.2⟩
  turn h := ⟨h.1.cons List.mem_cons_self rfl rfl (h.1.tells.blocks.turn (fun _ _ => id) _)
    (h.1.levels.turn (fun _ _ => Nat.le_succ_of_le) _), h.2⟩
  script h _ hscript := ⟨⟨h.1.script hscript, congrArg _ h.2⟩, fun _ _ => trivial⟩
  resume h h' hframe := by
    obtain ⟨hstands, hfiles⟩ := h
    obtain ⟨hstands', -⟩ := h'
    -- the names are those of the import, the text and the file those of before
    refine ⟨⟨⟨List.forall_mem_cons.mpr (List.forall_mem_cons.mp hstands.tells.scopes),
      hstands'.tells.blocks.congr rfl rfl⟩,
      List.forall_mem_cons.mpr (List.forall_mem_cons.mp hstands.files),
      hstands'.levels.congr rfl rfl⟩, hframe.world.importing.trans hfiles⟩

/-! ### Calls -/

/-- **A place that a call can give its node**: that of the node that the block gives, if it gives one
with a place. -/
def Moment.Gives (m : Moment) (c : Closure) (l : SourceLocation) : Prop :=
  ∃ fuel n st, runBuild fuel m.env (.closure c) m.state = .ok (.mesh n) st ∧ n.location = some l

/-- **Where the node of a block is located that is called**: where the scope of the definition
stands at the call.  This is the file of the block if and only if the scope is in it, or in one of
the same name, and it is no file at all if nothing is being imported. -/
structure Moment.LocatesCall (setting : Setting) (main : Program) (m : Moment) (c : Closure)
    (defining : Scope) : Prop where
  defined : Scope.atLevel? m.env.enclosing c.level = some defining
  captured : setting.NamesSource main c.file c.source
  standing : setting.NamesSource main defining.file defining.source
  importing : ∀ place, defining.file = some place → place ∈ m.state.world.importing
  located : ∀ l, m.Gives c l → defining.Locates l
  filename : ∀ l, m.Gives c l → (l.filename = c.file.map FilePath.name ↔
    defining.file.map FilePath.name = c.file.map FilePath.name)
  home : ∀ l, m.Gives c l → defining.file = c.file →
    ∃ i, l = .of c.source i (c.file.map FilePath.name)
  main : ∀ l, m.Gives c l → m.state.world.importing = [] → l.filename = none

/-- At the start of a call the scope of the definition is there and says where the node of the block
is located. -/
def Moment.LocatesCalls (setting : Setting) (main : Program) (_ : List Moment) (m : Moment) :
    Prop :=
  ∀ c, m.task = .build (.closure c) → m.isOver = false →
    ∃ defining, m.LocatesCall setting main c defining

/-- There is one source of a file. -/
theorem Setting.NamesSource.unique {setting : Setting} {main : Program} {file : Option FilePath}
    {source source' : String} (h : setting.NamesSource main file source)
    (h' : setting.NamesSource main file source') : source = source' := by
  obtain ⟨_, p, hp, rfl⟩ := h
  obtain ⟨_, p', hp', rfl⟩ := h'
  rw [(hp.unique hp').2]

/-- A call from a stack that stands right. -/
theorem Setting.Stands.locatesCall {setting : Setting} {main : Program} {files : List FilePath}
    {outer : List Scope} {c : Closure} {name : String} {st : State} (isOver : Bool)
    (h : setting.Stands main files (st.scope :: outer)) (hfiles : st.world.importing = files)
    (hname : Scope.symbol? outer name = some (.closure c)) :
    ∃ defining, Moment.LocatesCall setting main
      ⟨.build (.closure c), ⟨setting, outer⟩, st, isOver⟩ c defining := by
  subst hfiles
  cases outer with
  | nil => cases hname
  | cons s below =>
    have hlevel : c.level ≤ below.length :=
      Knows.of_symbol? (fun _ _ => Nat.le_succ_of_le) h.levels.2 hname
    have hcaptured : setting.NamesSource main c.file c.source :=
      Knows.of_symbol? (fun _ _ => id) h.tells.blocks.2 hname
    -- the scope of the definition lies below the one that names the block
    have hlt : c.level < (s :: below).length := Nat.lt_succ_of_le hlevel
    obtain ⟨defining, hdefined⟩ := Scope.exists_atLevel? hlt
    have hmem := List.mem_cons_of_mem st.scope (Scope.mem_of_atLevel? hdefined)
    have hstanding := h.tells.scopes defining hmem
    have hlocated (l : SourceLocation) (hgives : Moment.Gives
        ⟨.build (.closure c), ⟨setting, s :: below⟩, st, isOver⟩ c l) :
        defining.Locates l := by
      obtain ⟨fuel, n, st', hbuild, hl⟩ := hgives
      exact Runner.location_of_build hdefined hbuild hl
    refine ⟨defining, hdefined, hcaptured, hstanding, h.files defining hmem, hlocated,
      fun l hgives => ?_, fun l hgives hfile => ?_, fun l hgives hnone => ?_⟩
    · rw [(hlocated l hgives).filename]
    · -- in one file there is one text
      obtain ⟨i, rfl⟩ := hlocated l hgives
      rw [hfile] at hstanding ⊢
      exact ⟨i, by rw [hstanding.unique hcaptured]⟩
    · rw [(hlocated l hgives).filename]
      cases hfile : defining.file with
      | none => rfl
      | some place =>
        have hplace : place ∈ st.world.importing := h.files defining hmem place hfile
        rw [show st.world.importing = [] from hnone] at hplace
        exact absurd hplace List.not_mem_nil

/-- The watch over the files of scopes. -/
def Watch.standing (setting : Setting) (main : Program) :
    Watch setting (Moment.LocatesCalls setting main) where
  regime _ := Regime.standing setting main
  at_moment := by
    rintro active task outer files st isOver hat c rfl -
    obtain ⟨⟨name, hname⟩, hstands, hfiles⟩ :
      (∃ name, Scope.symbol? outer name = some (.closure c)) ∧
        setting.Stands main files (st.scope :: outer) ∧ st.world.importing = files := hat
    exact hstands.locatesCall isOver hfiles hname
  call _ hlevel _ h := ⟨fun _ _ => trivial, h.1.body hlevel, h.2⟩

/-- **Every node that a defined block gives is located where the scope of its definition stands at
the call**, in every run of every program: in the program, or in a file that is being imported.  It
is located in the file of the block as long as that scope stands there, whoever calls the block. -/
theorem Program.calls_located (setting : Setting) (p : Program) (fuel : Nat) :
    Throughout fuel (fun r => r.program { setting } p) p.start (Moment.LocatesCalls setting p) := by
  -- a program starts in its own text, outside of all files and without names
  refine (Watch.standing setting p).throughout fuel (fun _ _ => trivial) ⟨⟨⟨?_, ?_⟩, ?_, ?_⟩, rfl⟩
  · exact List.forall_mem_singleton.mpr ⟨p.source, p, ⟨rfl, rfl⟩, rfl⟩
  · exact ⟨⟨Bindings.blocks_empty _, Bindings.blocks_empty _⟩, trivial⟩
  · exact List.forall_mem_singleton.mpr nofun
  · exact ⟨⟨Bindings.blocks_empty _, Bindings.blocks_empty _⟩, trivial⟩

/-! ### A block that is called after its import -/

namespace Borrowed

/-- The file of the script that is imported. -/
def place : FilePath := ⟨"/", ["lib.shape"]⟩

/-- The body of a block that makes a cube. -/
def cube : Block := .mk ⟨13, 21⟩ [.command ⟨15, 19⟩ ⟨⟨15, 19⟩, "cube"⟩ none]

/-- A script that defines the block. -/
def library : Program where
  source := "define thing \x7b cube \x7d"
  statements := [.define ⟨0, 21⟩ ⟨⟨7, 12⟩, "thing"⟩ (.block cube)]

/-- The setting with that script alone. -/
def setting : Setting := .ofScript place library

/-- A program that imports the script and calls the block. -/
def importer : Program where
  source := "import \"lib.shape\"\nthing"
  statements := [
    .importFile ⟨0, 18⟩ (.string ⟨7, 18⟩ "lib.shape"),
    .command ⟨19, 24⟩ ⟨⟨19, 24⟩, "thing"⟩ none]

/-- The block. -/
def thing : Closure := ⟨cube, .empty, 0, library.source, some place⟩

/-- The scope after the import. -/
def imported : Scope where
  source := importer.source
  sourceIndex := some 7
  definitions := ⟨[("thing", .closure thing)]⟩

/-- Where the nodes of a scene are located. -/
def places (outcome : Outcome) : List (Option SourceLocation) :=
  match outcome.result with
  | .ok scene => scene.children.map Node.location
  | .error _ => []

/-- **The node of an imported block is located in the importer**, if the block is called after the
import.  Its offset is that of the name `cube` in the script. -/
theorem located_in_importer :
    (∃ world, (Runner.ofFuel 8).statements ⟨setting, []⟩ (importer.statements.take 1)
      importer.start = .ok () ⟨imported, world⟩) ∧
    Scope.symbol? [imported] "thing" = some (.closure thing) ∧
    thing.file = some place ∧ place.name = "lib.shape" ∧
    places (importer.run 8 setting) = [some ⟨1, 16, 15, none⟩] :=
  ⟨⟨_, rfl⟩, rfl, rfl, by decide, by decide +kernel⟩

end Borrowed

end SceneLang
