import SceneLang.Error.Basic
import SceneLang.Fault

/-!
# Ways to stop

Running a part of a script gives a value or stops for one of four reasons.  The state that was
reached is kept in either case, so whatever was printed or added before stays.
-/

namespace SceneLang

/-- **Why a run stopped.** -/
inductive Exit where
  /-- The script is wrong. -/
  | error (e : ScriptError)
  /-- Something other than the script is wrong. -/
  | fault (f : Fault)
  /-- The host wants no more. -/
  | cancelled
  /-- The allotted number of steps was used up. -/
  | exhausted
  deriving Inhabited

namespace Exit

/-- The exit with a script error at a known place. -/
def raise (cause : ErrorCause) (range : SourceRange) : Exit :=
  .error (.evaluation cause (some range))

/-- The exit with a script error whose place is not known yet. -/
def unplaced (cause : ErrorCause) : Exit := .error (.evaluation cause none)

/-- **Give a script error a range**, unless it has one. -/
def located (r : SourceRange) : Exit → Exit
  | .error e => .error (e.located r)
  | x => x

end Exit

/-- **A step of a run**: it reads and changes a state of type `σ`, and gives a value or stops. -/
abbrev Step (σ : Type) := EStateM Exit σ

namespace Step

variable {σ τ α : Type}

/-- Stop because of a fault. -/
def ofExcept (r : Except Fault α) : Step σ α :=
  match r with
  | .ok a => pure a
  | .error f => throw (.fault f)

/-- Stop for a given reason. -/
def ofExit (r : Except Exit α) : Step σ α :=
  match r with
  | .ok a => pure a
  | .error x => throw x

/-- Run a step and change the reason if it stops. -/
def mapExit (f : Exit → Exit) (act : Step σ α) : Step σ α := fun s =>
  match act s with
  | .ok a s => .ok a s
  | .error x s => .error (f x) s

/-- **Run a step at a place of the source**: script errors without a range get this one. -/
def locate (r : SourceRange) (act : Step σ α) : Step σ α := act.mapExit (Exit.located r)

/-- **Run a step and then settle the state**, whether it stopped or not. -/
def settle (f : σ → σ) (act : Step σ α) : Step σ α := fun s =>
  match act s with
  | .ok a s => .ok a (f s)
  | .error x s => .error x (f s)

/-- Run a step on a part of the state. -/
def onPart (get : σ → τ) (put : τ → σ → σ) (act : Step τ α) : Step σ α := fun s =>
  match act (get s) with
  | .ok a t => .ok a (put t s)
  | .error x t => .error x (put t s)

end Step

end SceneLang
