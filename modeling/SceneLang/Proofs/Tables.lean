import SceneLang.Proofs.VisibleNames
import SceneLang.Proofs.Watch

/-!
# Tables at the moments of a run

At every moment of a run no table of names binds a name twice, and every block that has a name was
defined no higher in the stack than where the name is visible.  Both are known where a program
starts and are kept by everything that a run does (`Program.throughout_of_tables`), so what follows
from them holds throughout every run.
-/

namespace SceneLang

/-- **A table of a scope binds no name twice.** -/
structure Scope.BindsOnce (s : Scope) : Prop where
  definitions : s.definitions.Distinct
  callerDefinitions : s.callerDefinitions.Distinct

/-- **What is known of the tables of a stack** at every moment of a run. -/
structure Tables (stack : List Scope) : Prop where
  once : ∀ s ∈ stack, s.BindsOnce
  levels : Knows (fun height c => c.level ≤ height) stack

namespace Scope.BindsOnce

variable {outer : List Scope} {s inner : Scope}

theorem empty (h : inner.definitions = .empty) (h' : inner.callerDefinitions = .empty) :
    inner.BindsOnce :=
  ⟨h ▸ Bindings.distinct_empty, h' ▸ Bindings.distinct_empty⟩

/-- A scope that is entered knows only what its caller sees. -/
theorem enter (h : Entrance outer s inner) : inner.BindsOnce := by
  cases h with
  | block hgains =>
    obtain ⟨vs, rfl, -⟩ := hgains
    exact empty rfl rfl
  | call block => exact ⟨Bindings.distinct_empty, distinct_visibleDefinitions (s :: outer)⟩
  | definition => exact empty rfl rfl

/-- The body of a block takes over the names of its caller. -/
theorem body (h : s.BindsOnce) (c : Closure) (defining : Scope) :
    (Runner.bodyScope c defining s).BindsOnce :=
  ⟨h.callerDefinitions.update s.definitions, Bindings.distinct_empty⟩

end Scope.BindsOnce

/-- The body of a defined block starts with tables as they should be. -/
theorem Tables.body {outer : List Scope} {s : Scope} (h : Tables (s :: outer)) (c : Closure)
    (defining : Scope) : Tables (Runner.bodyScope c defining s :: s :: outer) where
  once := List.forall_mem_cons.mpr ⟨(h.once s List.mem_cons_self).body c defining, h.once⟩
  levels := h.levels.body (fun _ _ => Nat.le_succ_of_le) c defining

/-- What is known of every run: its tables are as they should be. -/
def Regime.tables (setting : Setting) : Regime setting where
  Writes _ _ := True
  part _ _ := trivial
  Points _ _ := True
  own _ _ := trivial
  upperBound _ := trivial
  through _ _ := trivial
  Holds _ outer files st := Tables (st.scope :: outer) ∧ st.world.importing = files
  importing_eq h := h.2
  expression h := h
  keep h hframe hdefinitions := by
    obtain ⟨⟨honce, hlevels⟩, hfiles⟩ := h
    obtain ⟨hscope, houter⟩ := List.forall_mem_cons.mp honce
    have hcaller := hframe.scope.extends.callerDefinitions
    refine ⟨⟨List.forall_mem_cons.mpr ⟨⟨?_, ?_⟩, houter⟩, hlevels.congr hdefinitions hcaller⟩,
      hframe.world.importing.trans hfiles⟩
    · rw [hdefinitions]
      exact hscope.definitions
    · rw [hcaller]
      exact hscope.callerDefinitions
  define name h hmade _ := by
    obtain ⟨⟨honce, hlevels⟩, hfiles⟩ := h
    obtain ⟨hscope, houter⟩ := List.forall_mem_cons.mp honce
    refine ⟨⟨List.forall_mem_cons.mpr ⟨⟨?_, hscope.callerDefinitions⟩, houter⟩, ?_⟩, hfiles⟩
    · exact hscope.definitions.set name _
    · refine hlevels.define name ?_
      rintro c rfl
      cases hmade
      exact Nat.le_refl _
  enter h hs := by
    refine ⟨⟨List.forall_mem_cons.mpr ⟨.enter hs, h.1.once⟩, ?_⟩, h.2⟩
    exact h.1.levels.enter (fun _ _ => Nat.le_succ_of_le) hs
  turn h := by
    have hscope := h.1.once _ List.mem_cons_self
    refine ⟨⟨List.forall_mem_cons.mpr ⟨?_, h.1.once⟩, ?_⟩, h.2⟩
    · exact ⟨Bindings.distinct_empty, hscope.callerDefinitions⟩
    · exact h.1.levels.turn (fun _ _ => Nat.le_succ_of_le) _
  script h _ _ := by
    obtain ⟨hscope, houter⟩ := List.forall_mem_cons.mp h.1.once
    refine ⟨⟨⟨List.forall_mem_cons.mpr ⟨?_, houter⟩, h.1.levels.congr rfl rfl⟩,
      congrArg _ h.2⟩, fun _ _ => trivial⟩
    exact ⟨hscope.definitions, hscope.callerDefinitions⟩
  resume h h' hframe := by
    obtain ⟨hscope, houter⟩ := List.forall_mem_cons.mp h'.1.once
    refine ⟨⟨List.forall_mem_cons.mpr ⟨?_, houter⟩, h'.1.levels.congr rfl rfl⟩,
      hframe.world.importing.trans h.2⟩
    exact ⟨hscope.definitions, hscope.callerDefinitions⟩

/-- **What holds wherever tables are as they should be holds throughout every run.** -/
theorem Program.throughout_of_tables {setting : Setting} {condition : List Moment → Moment → Prop}
    (fuel : Nat) (p : Program) (h : ∀ active m, Tables m.stack → condition active m) :
    Throughout fuel (fun r => r.program { setting } p) p.start condition := by
  let W : Watch setting condition := {
    regime := fun _ => .tables setting
    at_moment := by
      intro active task outer files st isOver hat
      refine h _ _ ?_
      cases task <;> exact hat.2.1
    call := by
      intro k outer files st name c defining _ _ _ hI
      have htables : Tables (st.scope :: outer) := hI.1
      exact ⟨fun _ _ => trivial, htables.body c defining, hI.2⟩ }
  have hstart : Tables [p.start.scope] := by
    refine ⟨List.forall_mem_cons.mpr ⟨.empty rfl rfl, ?_⟩, ?_⟩
    · exact fun _ h => absurd h List.not_mem_nil
    · exact ⟨⟨Bindings.blocks_empty _, Bindings.blocks_empty _⟩, trivial⟩
  exact W.throughout fuel (fun _ _ => trivial) ⟨hstart, rfl⟩

end SceneLang
