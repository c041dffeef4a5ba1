import SceneLang.Proofs.LocalNames
import SceneLang.Proofs.VisibleNames

/-!
# The bindings that statements make

A statement binds names in the scope that it stands in if it is a definition, or the import of a
script with such statements.  Everything else binds names only in scopes of its own.  `Makes` says
which bindings a statement makes that runs to its end, and in which order; the names of the scope
are afterwards those of before, updated by these bindings (`exists_makes`).  So a name stands for
what it was last bound to, and if it was not, then for what it stood for before
(`Scope.symbol?_of_update`).
-/

namespace SceneLang

/-- **A name and what it is bound to.** -/
abbrev Binding := String × Symbol

/-- **What a name was last bound to** by bindings in a row. -/
def lastBound? (made : List Binding) (name : String) : Option Symbol := made.reverse.lookup name

/-! ### Bindings in a row -/

section Bindings

variable {made : List Binding} {name : String}

theorem lastBound?_cons (m : String) (symbol : Symbol) :
    lastBound? ((m, symbol) :: made) name
      = (lastBound? made name).or (if name = m then some symbol else none) := by
  rw [lastBound?, List.reverse_cons, List.lookup_append, Bindings.lookup_cons_ite]
  rfl

/-- A name was bound if it is one of the names that were. -/
theorem lastBound?_eq_none_iff : lastBound? made name = none ↔ name ∉ made.map Prod.fst := by
  have h : lastBound? made name = none ↔ name ∉ made.reverse.map Prod.fst :=
    Bindings.get?_eq_none_iff (b := ⟨made.reverse⟩)
  rw [h, List.map_reverse, List.mem_reverse]

/-- **A table that was updated** by bindings in a row has what a name was last bound to, or else
what it had. -/
theorem Bindings.get?_update_made (b : Bindings Symbol) :
    (b.update ⟨made⟩).get? name = (lastBound? made name).or (b.get? name) := by
  induction made generalizing b with
  | nil => rfl
  | cons e rest ih =>
    obtain ⟨m, symbol⟩ := e
    rw [update_cons, ih, get?_set, lastBound?_cons, Option.or_assoc]
    split <;> rfl

theorem Bindings.update_append (b : Bindings Symbol) (made made' : List Binding) :
    b.update ⟨made ++ made'⟩ = (b.update ⟨made⟩).update ⟨made'⟩ := List.foldl_append

end Bindings

/-- **Names that are bound in a scope** stand for what they were last bound to, and other names for
what they stood for before. -/
theorem Scope.symbol?_of_update {s s' : Scope} {made : List Binding} (outer : List Scope)
    (name : String) (hs : s.Extends s')
    (hmade : s'.definitions = s.definitions.update ⟨made⟩) :
    symbol? (s' :: outer) name = (lastBound? made name).or (symbol? (s :: outer) name) := by
  simp only [symbol?_eq, chain_cons, findDefinition?_cons, standard, hs.parent, hs.table, hmade,
    Bindings.get?_update_made, Option.or_assoc]

/-! ### Statements in a row -/

/-- **Statements that run to their end one after the other**, and the bindings that they make.  What
each of them does is given by `step`. -/
inductive Chained (step : Statement → State → List Binding → State → Prop) :
    List Statement → State → List Binding → State → Prop
  | nil {st : State} : Chained step [] st [] st
  | cons {s : Statement} {rest : List Statement} {st st₁ st₂ : State} {made made' : List Binding}
    (hs : step s st made st₁) (hrest : Chained step rest st₁ made' st₂) :
    Chained step (s :: rest) st (made ++ made') st₂

/-- **The bindings that a statement makes** in the scope that it stands in, if it runs to its end,
and the state that it leaves.  A definition binds its name.  The import of a script makes the
bindings of its statements, which run with another source and file. -/
def Makes : Nat → Env → Statement → State → List Binding → State → Prop
  | 0, _, _, _, _, _ => False
  | fuel + 1, env, s, st, made, st' =>
    runStatement (fuel + 1) env s st = .ok () st' ∧
      match s with
      | .define _ name d => ∃ symbol st₁,
        (Runner.ofFuel fuel).definition env d st = .ok symbol st₁ ∧ made = [(name.name, symbol)]
      | .importFile _ e => ∃ path st₁ place st₂,
        runExpression fuel env e st = .ok (.string (some path)) st₁ ∧
        (Runner.mark e.sourceRange.start >>= fun _ => env.setting.resolve path) st₁
          = .ok place st₂ ∧
        (place.hasSuffix Runner.scriptSuffix → ∃ text p st₃, env.setting.ScriptAt place text p ∧
          Chained (Makes fuel env) p.statements (st₂.importing place p) made st₃) ∧
        (¬ place.hasSuffix Runner.scriptSuffix → made = [])
      | _ => made = []

/-! ### What statements make -/

theorem KeepsNames.of_ok {α : Type} {act : Eval α} {a : α} {st st' : State} (h : KeepsNames act)
    (hok : act st = .ok a st') : st'.scope.definitions = st.scope.definitions := by
  have hsame := h st
  rw [hok] at hsame
  exact hsame

theorem Frame.of_ok {α : Type} {effect : Effect} {act : Eval α} {a : α} {st st' : State}
    (h : Frame effect st (Result.state (act st))) (hok : act st = .ok a st') :
    Frame effect st st' := by
  rw [hok] at h
  exact h

namespace Runner

variable {r : Runner} {env : Env} {st st' : State}

/-- What an import that succeeds has done: it has run a script, or it has read geometry and added at
most a child. -/
theorem importFile_eq_ok {path : String} (h : r.importFile env path st = .ok () st') :
    ∃ place st₁, env.setting.resolve path st = .ok place st₁ ∧
      (place.hasSuffix scriptSuffix → ∃ text p st₂, env.setting.ScriptAt place text p ∧
        r.statements env p.statements (st₁.importing place p) = .ok () st₂ ∧
        st₁.resuming st₂ = st') ∧
      (¬ place.hasSuffix scriptSuffix → st'.scope.definitions = st₁.scope.definitions) := by
  obtain ⟨place, st₁, hplace, h⟩ := Step.bind_eq_ok_iff.mp h
  refine ⟨place, st₁, hplace, ?_⟩
  cases hhost : env.setting.host with
  | none =>
    simp only [hhost] at h
    cases h
  | some host =>
    simp only [hhost] at h
    constructor
    · intro hsuffix
      rw [if_pos hsuffix] at h
      exact importScript_eq_ok hhost hsuffix h
    · intro hsuffix
      rw [if_neg hsuffix] at h
      obtain ⟨node?, st₂, hnode, hadd⟩ := Step.bind_eq_ok_iff.mp h
      obtain ⟨-, rfl⟩ := Step.ofExit_eq_ok_iff.mp hnode
      cases node? with
      | none => exact (show KeepsNames (pure () : Eval Unit) from fun _ => rfl).of_ok hadd
      | some node =>
        have hkeeps : KeepsNames (Eval.addValue (.mesh node)) := .primitive (primitive_addValue _)
        exact hkeeps.of_ok hadd

/-- An import that succeeds names a file. -/
theorem importStatement_eq_ok {e : Expr} (h : r.importStatement env e st = .ok () st') :
    ∃ path st₁, r.expression env e st = .ok (.string (some path)) st₁ ∧
      (mark e.sourceRange.start >>= fun _ => r.importFile env path) st₁ = .ok () st' := by
  obtain ⟨v, st₁, hv, h⟩ := Step.bind_eq_ok_iff.mp h
  cases v with
  | string path =>
    cases path with
    | none => cases h
    | some path =>
      obtain ⟨u, st₂, hmark, h⟩ := Step.bind_eq_ok_iff.mp h
      have himport := Step.mapExit_eq_ok_iff.mp h
      exact ⟨path, st₁, hv, (Step.bind_ok _ hmark).trans himport⟩
  | _ => cases h

end Runner

/-! ### Runs and their bindings -/

/-- **Statements that run to their end make bindings** if the first one does, whatever runs them. -/
theorem exists_chained {run : List Statement → Eval Unit}
    {step : Statement → State → List Binding → State → Prop}
    (hnil : ∀ st st', run [] st = .ok () st' → st' = st)
    (hcons : ∀ s rest st st', run (s :: rest) st = .ok () st' → ∃ made st₁, step s st made st₁ ∧
      st₁.scope.definitions = st.scope.definitions.update ⟨made⟩ ∧ run rest st₁ = .ok () st')
    {ss : List Statement} {st st' : State} (h : run ss st = .ok () st') :
    ∃ made, Chained step ss st made st' ∧
      st'.scope.definitions = st.scope.definitions.update ⟨made⟩ := by
  induction ss generalizing st with
  | nil =>
    cases hnil st st' h
    exact ⟨[], .nil, rfl⟩
  | cons s rest ih =>
    obtain ⟨made, st₁, hmade, hdefinitions, hrest⟩ := hcons s rest st st' h
    obtain ⟨made', hmade', hdefinitions'⟩ := ih hrest
    refine ⟨made ++ made', .cons hmade hmade', ?_⟩
    rw [hdefinitions', hdefinitions, Bindings.update_append]

theorem exists_chained_statements {r : Runner} {env : Env}
    {step : Statement → State → List Binding → State → Prop}
    (hstep : ∀ s st st', r.statement env s st = .ok () st' → ∃ made, step s st made st' ∧
      st'.scope.definitions = st.scope.definitions.update ⟨made⟩)
    {ss : List Statement} {st st' : State} (h : r.statements env ss st = .ok () st') :
    ∃ made, Chained step ss st made st' ∧
      st'.scope.definitions = st.scope.definitions.update ⟨made⟩ := by
  refine exists_chained (fun st st' hrun => ?_) (fun s rest st st' hrun => ?_) h
  · cases hrun
    rfl
  · obtain ⟨⟨⟩, st₁, hs, hrest⟩ := Step.bind_eq_ok_iff.mp hrun
    obtain ⟨made, hmade, hdefinitions⟩ := hstep s st st₁ hs
    exact ⟨made, st₁, hmade, hdefinitions, hrest⟩

/-- **A statement that runs to its end makes bindings**, and the names of the scope that it stands
in are those of before, updated by them. -/
theorem exists_makes (fuel : Nat) (env : Env) (s : Statement) (st st' : State)
    (h : runStatement fuel env s st = .ok () st') :
    ∃ made, Makes fuel env s st made st' ∧
      st'.scope.definitions = st.scope.definitions.update ⟨made⟩ := by
  induction fuel generalizing env s st st' with
  | zero => cases h
  | succ fuel ih =>
    have hrun := h
    have hbinds : s.MayBind st.scope.definitions
        (Result.state (runStatement (fuel + 1) env s st)).scope.definitions := s.mayBind_run st
    rw [h] at hbinds
    cases s with
    | define range name d =>
      obtain ⟨symbol, st₁, hd, h⟩ := Step.bind_eq_ok_iff.mp h
      have hkeeps := (keepsNames_definition d).of_ok hd
      cases h
      exact ⟨[(name.name, symbol)], ⟨hrun, symbol, st₁, hd, rfl⟩,
        congrArg (Bindings.set · name.name symbol) hkeeps⟩
    | importFile range e =>
      obtain ⟨path, st₁, he, h⟩ := Runner.importStatement_eq_ok h
      obtain ⟨u, st₂, hmark, h⟩ := Step.bind_eq_ok_iff.mp h
      obtain ⟨place, st₃, hplace, himport⟩ := Runner.importFile_eq_ok h
      have hfound : (Runner.mark e.sourceRange.start >>= fun _ => env.setting.resolve path) st₁
          = .ok place st₃ := (Step.bind_ok _ hmark).trans hplace
      -- nothing is bound before the file is known
      have hsame : st₃.scope.definitions = st.scope.definitions := by
        have hresolve : KeepsNames (env.setting.resolve path) :=
          .primitive (primitive_resolve env.setting path)
        rw [hresolve.of_ok hplace, (KeepsNames.mark _).of_ok hmark,
          (keepsNames_expression e).of_ok he]
      by_cases hsuffix : place.hasSuffix Runner.scriptSuffix
      · obtain ⟨text, p, st₄, hscript, hstatements, rfl⟩ := himport.1 hsuffix
        -- the statements of the script run with one layer less
        obtain ⟨made, hmade, hdefinitions⟩ := exists_chained_statements (ih _) hstatements
        refine ⟨made, ⟨hrun, path, st₁, place, st₃, he, hfound, fun _ => ?_, ?_⟩, ?_⟩
        · exact ⟨text, p, st₄, hscript, hmade⟩
        · exact absurd hsuffix
        · exact hdefinitions.trans (congrArg (Bindings.update · ⟨made⟩) hsame)
      · refine ⟨[], ⟨hrun, path, st₁, place, st₃, he, hfound, ?_, fun _ => rfl⟩, ?_⟩
        · exact fun h => absurd h hsuffix
        · exact (himport.2 hsuffix).trans hsame
    | _ => exact ⟨[], ⟨hrun, rfl⟩, hbinds⟩

/-- What a statement makes that other steps follow. -/
theorem exists_makes_of_bind {fuel : Nat} {env : Env} {s : Statement} {rest : Eval Unit}
    {st st' : State} (h : (runStatement fuel env s >>= fun _ => rest) st = .ok () st') :
    ∃ made st₁, Makes fuel env s st made st₁ ∧
      st₁.scope.definitions = st.scope.definitions.update ⟨made⟩ ∧ rest st₁ = .ok () st' := by
  obtain ⟨⟨⟩, st₁, hs, hrest⟩ := Step.bind_eq_ok_iff.mp h
  obtain ⟨made, hmade, hdefinitions⟩ := exists_makes fuel env s st st₁ hs
  exact ⟨made, st₁, hmade, hdefinitions, hrest⟩

end SceneLang
