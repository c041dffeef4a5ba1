import SceneLang.Proofs.ImportWrappers
import SceneLang.Proofs.NameErrorRuns
import SceneLang.Proofs.Ranking
import SceneLang.Proofs.Tables

/-!
# Unknown names

Looking a name up and listing the names that are visible agree in every stack whose tables bind no
name twice (`Scope.Agrees`), and so at every moment of a run.  An error about an unknown name lists
the names that could have been used, so what it suggests stands for something where the error arose,
or is a keyword (`Program.names_agree`).

To find where an error arose, the run is stopped wherever a name is used that stands for nothing.
Up to there it has no error about that name (`Runner.spares_trapped`), so a run with such an error
comes to such a moment (`Program.comes_to_unknown`).
-/

namespace SceneLang

/-! ### Where errors about names arise -/

section Trapped

variable {name : String} {options : List String} {setting : Setting}

/-- A task that is stopped where it has an error about a name makes no such error. -/
theorem Spared.trap {α : Type} {bad : Moment → Bool} {task : Task} {env : Env} {act : Eval α}
    {st : State} (h : ¬ bad ⟨task, env, st, false⟩ → Spared name options (act st)) :
    Spared name options (SceneLang.trap bad .cancelled task env act st) := by
  intro x st' hx
  obtain ⟨-, heq⟩ | ⟨hstart, heq | heq⟩ := trap_cases bad .cancelled task env act st
  · cases heq.symm.trans hx
    trivial
  · exact h hstart x st' (heq.symm.trans hx)
  · cases heq.symm.trans hx
    trivial

/-- **A runner that stops where a name is used that stands for nothing** makes no error about that
name. -/
theorem Runner.spares_trapped {bad : List Moment → Moment → Bool}
    (hbad : ∀ active m, Moment.Lacks name options m → bad active m)
    (hoption : ¬ IsStrayOption name options)
    (hhands : ¬ setting.Hands (.unknownSymbol name options)) (fuel : Nat) (active : List Moment) :
    (trapped bad .cancelled fuel active).Spares name options setting := by
  induction fuel generalizing active with
  | zero =>
    have hexhausted {α : Type} (st : State) :
        Spared name options ((throw .exhausted : Eval α) st) := by
      rintro x st' ⟨⟩
      trivial
    exact ⟨fun _ _ st => .trap fun _ => hexhausted st, fun _ _ st => .trap fun _ => hexhausted st,
      fun _ _ st => .trap fun _ => hexhausted st, fun _ _ st => .trap fun _ => hexhausted st⟩
  | succ fuel ih =>
    refine ⟨fun outer e st => ?_, fun outer s st => ?_, fun outer symbol st => ?_,
      fun outer block st => ?_⟩
    · exact .trap fun hlacks => (ih _).evaluate outer hoption e st fun h =>
        hlacks (hbad _ _ h)
    · exact .trap fun hlacks => (ih _).execute outer hoption hhands s st fun h =>
        hlacks (hbad _ _ h)
    · exact .trap fun _ => (ih _).construct outer symbol st
    · exact .trap fun _ => (ih _).bodyStatements outer block.statements st

end Trapped

/-- **A run that ends with an error about an unknown name** comes to a moment at which that name is
used and stands for nothing, unless the error was handed over or an option made it. -/
theorem Program.comes_to_unknown {fuel : Nat} {setting : Setting} {p : Program} {e : ScriptError}
    {name : String} {options : List String}
    (h : (p.run fuel setting).result = .error (.error e))
    (hcore : e.core = some (.unknownSymbol name options)) (hoption : ¬ IsStrayOption name options)
    (hhands : ¬ setting.Hands (.unknownSymbol name options)) :
    p.Comes fuel setting fun _ m => m.Lacks name options := by
  classical
  refine ⟨.cancelled, fun hsame => ?_⟩
  let bad (_ : List Moment) (m : Moment) : Bool := decide (m.Lacks name options)
  have hbad (active : List Moment) (m : Moment) (hm : m.Lacks name options) : bad active m :=
    decide_eq_true hm
  have hspares := (Runner.spares_trapped hbad hoption hhands fuel []).program [] p p.start
  rw [hsame] at hspares
  unfold run at h
  unfold finish at hspares
  cases hres : (Runner.ofFuel fuel).program { setting } p p.start with
  | ok a st => rw [hres] at h; cases h
  | error x st =>
    rw [hres] at h
    have hx := hspares x st hres
    cases x with
    | error e' =>
      cases h
      exact hx hcore
    | _ => cases h

/-! ### Lookup and lists -/

/-- **Looking names up and listing them agree on top of a stack.** -/
structure Scope.Agrees (stack : List Scope) : Prop where
  /-- The visible definition of a name is its innermost one. -/
  visible_iff (name : String) (symbol : Symbol) :
    (visibleDefinitions stack).get? name = some symbol ↔ Innermost (chain stack) name symbol
  /-- A name has no visible definition if no scope on the way outwards defines it. -/
  hidden_iff (name : String) : (visibleDefinitions stack).get? name = none ↔
    ∀ s ∈ chain stack, name ∉ s.definitions.names
  /-- A name stands for its visible definition, or else for what the standard table says. -/
  lookup (name : String) : symbol? stack name
    = ((visibleDefinitions stack).get? name).or ((standard stack).get? name)
  /-- The names that stand for something are those that can stand in an expression. -/
  listed_iff (name : String) : (symbol? stack name).isSome ↔ name ∈ expressionNames stack
  expressions_increasing : (expressionNames stack).Pairwise (· < ·)
  commands_increasing : (commandNames stack).Pairwise (· < ·)
  /-- Statements can start with the same names and with keywords. -/
  command_iff (name : String) :
    name ∈ commandNames stack ↔ name ∈ expressionNames stack ∨ name ∈ keywords

/-- Looking names up and listing them agree if no table binds a name twice. -/
theorem Scope.agrees_of_distinct {stack : List Scope}
    (h : ∀ s ∈ chain stack, s.definitions.Distinct) : Agrees stack where
  visible_iff name symbol := by rw [get?_visibleDefinitions h, findDefinition?_eq_some_iff]
  hidden_iff name := by rw [get?_visibleDefinitions h, findDefinition?_eq_none_iff]
  lookup name := by rw [get?_visibleDefinitions h, symbol?_eq]
  listed_iff name := mem_expressionNames_iff.symm
  expressions_increasing := expressionNames_increasing stack
  commands_increasing := commandNames_increasing stack
  command_iff name := mem_commandNames_iff

/-- **A suggestion can be used**: it stands for something on top of a stack, or is a keyword. -/
def ErrorCause.SuggestsFrom (cause : ErrorCause) (stack : List Scope) : Prop :=
  ∀ suggestion, cause.suggestion = some suggestion →
    (Scope.symbol? stack suggestion).isSome ∨ suggestion ∈ keywords

/-- What is suggested for an unknown name is one of the names in its place, or a keyword. -/
theorem ErrorCause.mem_of_suggestion {name suggestion : String} {options : List String}
    (h : (unknownSymbol name options).suggestion = some suggestion) :
    suggestion ∈ options ∨ suggestion ∈ keywords := Suggestion.mem_of_suggest? h

/-- What is suggested where a name stands for nothing can be used there. -/
theorem Moment.Lacks.suggestsFrom {m : Moment} {name : String} {options : List String}
    (h : m.Lacks name options) : (ErrorCause.unknownSymbol name options).SuggestsFrom m.stack := by
  intro suggestion hsuggestion
  rcases ErrorCause.mem_of_suggestion hsuggestion with hmem | hkeyword
  · cases h with
    | name _ hoptions | block _ _ hoptions =>
      rw [hoptions] at hmem
      exact .inl (Scope.mem_expressionNames_iff.mp hmem)
    | command _ _ hoptions =>
      rw [hoptions] at hmem
      exact (Scope.mem_commandNames_iff.mp hmem).imp_left Scope.mem_expressionNames_iff.mp
  · exact .inr hkeyword

/-- **Lookup and lists agree, so suggestions are usable.**  They agree in every stack whose tables
bind no name twice, and so at every moment of every run of every program.  If a run ends with an
error about an unknown name, inside of whatever wrappers, then the host or the reader of scripts
handed it over, or an option made it, which lists no names and suggests keywords only, or the run
comes to a moment at which that name is used, stands for nothing, and the suggestion can be used. -/
theorem Program.names_agree :
    (∀ stack : List Scope, (∀ s ∈ Scope.chain stack, s.definitions.Distinct) →
      Scope.Agrees stack) ∧
    ∀ (fuel : Nat) (setting : Setting) (p : Program),
      Throughout fuel (fun r => r.program { setting } p) p.start
        (fun _ m => Scope.Agrees m.stack) ∧
      ∀ e name options, (p.run fuel setting).result = .error (.error e) →
        e.core = some (.unknownSymbol name options) →
        setting.Hands (.unknownSymbol name options) ∨
        (name = "option" ∧ options = [] ∧
          ∀ s, (ErrorCause.unknownSymbol name options).suggestion = some s → s ∈ keywords) ∨
        p.Comes fuel setting fun _ m => m.Lacks name options ∧
          (ErrorCause.unknownSymbol name options).SuggestsFrom m.stack := by
  refine ⟨fun stack h => Scope.agrees_of_distinct h, fun fuel setting p => ⟨?_, ?_⟩⟩
  · refine p.throughout_of_tables fuel fun _ m htables => ?_
    refine Scope.agrees_of_distinct fun s hs => ?_
    exact (htables.once s (Scope.mem_of_mem_chainFrom hs)).definitions
  · intro e name options h hcore
    by_cases hhands : setting.Hands (.unknownSymbol name options)
    · exact .inl hhands
    by_cases hoption : IsStrayOption name options
    · obtain ⟨rfl, rfl⟩ := hoption
      refine .inr (.inl ⟨rfl, rfl, fun s hs => ?_⟩)
      exact (ErrorCause.mem_of_suggestion hs).resolve_left List.not_mem_nil
    · have hcomes := Program.comes_to_unknown h hcore hoption hhands
      have hsame : (fun _ m => m.Lacks name options : List Moment → Moment → Prop) = fun _ m =>
          m.Lacks name options ∧ (ErrorCause.unknownSymbol name options).SuggestsFrom m.stack := by
        funext _ m
        exact propext ⟨fun hm => ⟨hm, hm.suggestsFrom⟩, And.left⟩
      exact .inr (.inr (hsame ▸ hcomes))

namespace Misspelt

/-- A program that uses a name that stands for nothing. -/
def program : Program where
  source := "cubee"
  statements := [.command ⟨0, 5⟩ ⟨⟨0, 5⟩, "cubee"⟩ none]

/-- The names that could stand there. -/
def options : List String := Scope.commandNames [program.start.scope]

/-- The run ends with an error about the name, and comes to a moment where the name is used and what
is suggested instead can be used. -/
theorem names_agree_misspelt :
    (program.run 2 {}).result
        = .error (.error (.evaluation (.unknownSymbol "cubee" options) (some ⟨0, 5⟩))) ∧
      program.Comes 2 {} fun _ m => m.Lacks "cubee" options ∧
        (ErrorCause.unknownSymbol "cubee" options).SuggestsFrom m.stack := by
  have hrun : (program.run 2 {}).result
      = .error (.error (.evaluation (.unknownSymbol "cubee" options) (some ⟨0, 5⟩))) := rfl
  obtain ⟨-, herrors⟩ := Program.names_agree.2 2 {} program
  refine ⟨hrun, ?_⟩
  rcases herrors _ "cubee" options hrun rfl with hhands | ⟨hname, -⟩ | hcomes
  · cases hhands with
    | node hhost => cases hhost
    | program hparse => cases hparse
  · exact absurd hname (by decide)
  · exact hcomes

end Misspelt

end SceneLang
