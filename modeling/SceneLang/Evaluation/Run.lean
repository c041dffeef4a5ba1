import SceneLang.Evaluation.Statements

/-!
# Running a program

`runExpression`, `runStatement`, `runBuild` and `runBody` run as many layers as their fuel allows.  A
finished run does not depend on the fuel; one that needs more stops as exhausted, which tells it
apart from every other way to stop.  `Program.evaluate` allots more fuel than a run can use up.
-/

namespace SceneLang

mutual

/-- **Run an expression**, at most the given number of layers deep. -/
def runExpression : Nat → Env → Expr → Eval Value
  | 0, _, _ => throw .exhausted
  | fuel + 1, env, e =>
    Runner.evaluate
      ⟨fuel, runExpression fuel, runStatement fuel, runBuild fuel, runBody fuel⟩ env e

/-- **Run a statement**, at most the given number of layers deep. -/
def runStatement : Nat → Env → Statement → Eval Unit
  | 0, _, _ => throw .exhausted
  | fuel + 1, env, s =>
    Runner.execute
      ⟨fuel, runExpression fuel, runStatement fuel, runBuild fuel, runBody fuel⟩ env s

/-- **Build the value of a block**, at most the given number of layers deep. -/
def runBuild : Nat → Env → Symbol → Eval Value
  | 0, _, _ => throw .exhausted
  | fuel + 1, env, symbol =>
    Runner.construct
      ⟨fuel, runExpression fuel, runStatement fuel, runBuild fuel, runBody fuel⟩ env symbol

/-- **Run the body of a defined block**, at most the given number of layers deep. -/
def runBody : Nat → Env → Block → Eval Unit
  | 0, _, _ => throw .exhausted
  | fuel + 1, env, block =>
    Runner.bodyStatements
      ⟨fuel, runExpression fuel, runStatement fuel, runBuild fuel, runBody fuel⟩ env
      block.statements

end

/-- The runner of a given depth. -/
def Runner.ofFuel (fuel : Nat) : Runner :=
  ⟨fuel, runExpression fuel, runStatement fuel, runBuild fuel, runBody fuel⟩

/-- **How a run ended**: with a scene or early, and what it left behind. -/
structure Outcome where
  result : Except Exit Scene
  world : World

/-- The scene that a scope describes. -/
def Scope.scene (s : Scope) : Scene :=
  { background := s.background, children := s.childNodes }

namespace Program

/-- The state in which a program starts. -/
def start (p : Program) : State := { scope := { source := p.source }, world := {} }

/-- **Run a program** with a given amount of fuel.  A run that the host cancels gives the scene as
far as it has come. -/
def run (fuel : Nat) (setting : Setting) (p : Program) : Outcome :=
  match (Runner.ofFuel fuel).program { setting } p p.start with
  | .ok _ st => ⟨.ok st.scope.scene, st.world⟩
  | .error .cancelled st => ⟨.ok st.scope.scene, st.world⟩
  | .error x st => ⟨.error x, st.world⟩

/-- More layers and turns than a machine can run. -/
def ampleFuel : Nat := Decimal.twoTo 62

/-- **Run a program.** -/
def evaluate (setting : Setting) (p : Program) : Outcome := p.run ampleFuel setting

end Program

end SceneLang
